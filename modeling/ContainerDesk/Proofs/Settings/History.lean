import ContainerDesk.Proofs.Settings.Domain
import ContainerDesk.Proofs.Settings.Run

/-!
# Whole histories of a store

Whatever happens to a store from its beginning on, all its sections keep the keys of the
schema, and all values stay in the domains of their fields.  This holds of the sections
that count and of those of earlier editions that somebody still holds.

A list that was got from the settings is the list that a section holds, so it may grow
behind the back of the store, in a section of any edition.
-/

namespace ContainerDesk

namespace Scene

variable {σ : Type}

inductive Step (σ : Type) where
  | operate (reactions : Reactions σ) (operation : Operation)
  /-- A list grows that a held section holds. -/
  | grow (handle : Store.Handle) (key : Text) (item : Value)
  /-- Others change files and folders. -/
  | outside (disk : Disk)

namespace Step

def AppendsInteger : Step σ → Prop
  | .operate _ operation => operation.AppendsInteger
  | .grow _ _ item => ∃ n, item = .int n
  | .outside _ => True

def apply : Step σ → Scene σ → Scene σ
  | .operate reactions operation, scene => (run reactions operation scene).2
  | .grow handle key item, scene => (onStore (Store.appendHeld handle key item) scene).2
  | .outside disk, scene => ⟨{ scene.store with disk }, scene.surroundings⟩

theorem isSound_apply {step : Step σ} (hstep : step.AppendsInteger) {scene : Scene σ}
    (h : scene.IsSound) : (step.apply scene).IsSound := by
  cases step with
  | operate reactions operation => exact keeps_run reactions hstep scene h
  | grow handle key item =>
      rcases hstep with ⟨n, rfl⟩
      exact Store.IsSound.appendHeld h handle key n
  | outside disk => exact Store.IsSound.onDisk h disk

end Step

def through (scene : Scene σ) (steps : List (Step σ)) : Scene σ :=
  steps.foldl (fun scene step => step.apply scene) scene

theorem isSound_through {steps : List (Step σ)} (hsteps : ∀ step ∈ steps, step.AppendsInteger)
    {scene : Scene σ} (h : scene.IsSound) : (scene.through steps).IsSound := by
  induction steps generalizing scene with
  | nil => exact h
  | cons step rest ih =>
      apply ih (fun other hother => hsteps other (List.mem_cons_of_mem _ hother))
      exact Step.isSound_apply (hsteps step List.mem_cons_self) h

theorem isSound_fresh (path : Text) (disk : Disk) (surroundings : σ) :
    IsSound ⟨Store.fresh (Disk.placeOf path) disk, surroundings⟩ :=
  (Reachable.fresh path disk surroundings).isSound

/-- After any steps from a fresh store in which only integers are appended, every edition, held or
not, has the sections of the schema in order, each with its keys in order and with values that
their fields may hold. -/
theorem fits_through (path : Text) (disk : Disk) (surroundings : σ) {steps : List (Step σ)}
    (hsteps : ∀ step ∈ steps, step.AppendsInteger) (number : Nat) (edition : Edition)
    (hedition : (through ⟨Store.fresh (Disk.placeOf path) disk, surroundings⟩ steps).store.edition?
      number = some edition) :
    List.Forall₂ Section.Fits edition Schema.sections := by
  have hsound := isSound_through hsteps (isSound_fresh path disk surroundings)
  rcases List.mem_append.mp (List.mem_of_getElem? hedition) with hretired | hlive
  · exact (hsound.retired edition hretired).fits
  · rw [List.mem_singleton.mp hlive]
    exact hsound.live.fits

def slowingDown : Reactions Unit :=
  fun _ change _ =>
    if change.key = Text.of "window_width" then
      ⟨(), [], [.assign (Text.of "refresh") (Text.of "refresh_rate_ms") (.int 9000)], true⟩
    else
      ⟨(), [], [], false⟩

def heldSteps : List (Step Unit) :=
  [.operate slowingDown (.register (.outside (Text.of "slow") (Text.of "slow"))),
    .operate slowingDown (.set (Text.of "app") (Text.of "window_width") (.int 1000)),
    .operate slowingDown .renew,
    .grow ⟨0, Text.of "ui_state"⟩ (Text.of "column_widths") (.int 120)]

/-- The first edition after these steps has what was set, what was set in answer, and what the list
has grown by, and it fits the schema. -/
theorem fits_through_held :
    (∀ step ∈ heldSteps, step.AppendsInteger) ∧
    ∃ edition, (through ⟨Store.fresh (Disk.placeOf (Text.of "desk/config.json"))
        (Disk.empty (Text.of "/home")), ()⟩ heldSteps).store.edition? 0 = some edition ∧
      (edition.flatMap (·.entries)).lookup (Text.of "refresh_rate_ms") = some (.int 9000) ∧
      (edition.flatMap (·.entries)).lookup (Text.of "column_widths") =
        some (.list [.int 120]) ∧
      List.Forall₂ Section.Fits edition Schema.sections := by
  have hsteps : ∀ step ∈ heldSteps, step.AppendsInteger := by
    simp [heldSteps, Step.AppendsInteger, Operation.AppendsInteger]
  refine ⟨hsteps, _, rfl, rfl, rfl, ?_⟩
  exact fits_through (Text.of "desk/config.json") (Disk.empty (Text.of "/home")) () hsteps 0 _ rfl

end Scene

end ContainerDesk
