import ContainerDesk.Proofs.Settings.Store
import ContainerDesk.Proofs.Settings.Watch
import ContainerDesk.Settings.Operation

/-!
# Runs on a store

All that callers do to a store, and all that those who watch it do in turn, keeps the
store sound.  What is appended to a list is not checked, so only integers count here.
-/

namespace ContainerDesk

def Operation.AppendsInteger : Operation → Prop
  | .append _ _ item => ∃ n, item = .int n
  | _ => True

namespace Scene

variable {σ : Type}

def IsSound (scene : Scene σ) : Prop :=
  scene.store.IsSound

theorem keptBy_isSound (reactions : Reactions σ) : KeptBy IsSound reactions where
  register := fun _ observer h => Store.IsSound.register h observer
  unregister := fun _ observer h => Store.IsSound.unregister h observer
  noteAll := fun _ entries h => Store.IsSound.noteAll h entries
  assign := fun _ _ _ _ _ _ h hassign => Store.IsSound.assign h hassign
  react := fun _ _ _ h => h

/-!
# Operations
-/

theorem keeps_handleOf {P : Scene σ → Prop} (target : Target) :
    Action.Keeps P (handleOf target) := by
  intro scene h
  cases target with
  | live sectionName => exact h
  | held handle => exact h

theorem keeps_silently {P : Scene σ → Prop} {action : Action (Scene σ) Unit}
    (h : Action.Keeps P action) : Action.Keeps P (silently action) :=
  Action.keeps_bind h fun _ => Action.keeps_pure _

theorem keeps_onStore {P : Store → Prop} {α : Type} {action : Action Store α}
    (h : Action.Keeps P action) :
    Action.Keeps (fun scene : Scene σ => P scene.store) (onStore action) :=
  fun scene hscene => h scene.store hscene

/-- No operation that appends integers only makes a sound store unsound. -/
theorem keeps_run (reactions : Reactions σ) {operation : Operation}
    (happends : operation.AppendsInteger) : Action.Keeps IsSound (run reactions operation) := by
  cases operation with
  | set sectionName key value =>
      exact keeps_silently
        (keeps_setWithin (keptBy_isSound reactions) nestingLimit sectionName key value)
  | append sectionName key item =>
      rcases happends with ⟨n, rfl⟩
      exact Action.keeps_bind (keeps_handleOf _) fun handle =>
        keeps_onStore fun _ h => h.appendHeld handle key n
  | assign target key value =>
      exact Action.keeps_bind (keeps_handleOf target) fun handle =>
        keeps_onStore fun _ h => h.assignHeld handle key value
  | update target entries =>
      exact Action.keeps_bind (keeps_handleOf target) fun handle =>
        keeps_silently (keeps_onStore fun _ h => h.updateHeld handle entries)
  | reset target =>
      exact Action.keeps_bind (keeps_handleOf target) fun handle =>
        keeps_silently (keeps_onStore fun _ h => h.resetHeld handle)
  | register observer =>
      exact keeps_silently (keeps_onStore (Action.keeps_change fun _ h => h.register observer))
  | unregister observer =>
      exact keeps_silently (keeps_onStore (Action.keeps_change fun _ h => h.unregister observer))
  | load => exact keeps_silently (keeps_onStore fun _ h => h.load)
  | save => exact keeps_silently (keeps_onStore fun _ h => h.save)
  | renew => exact keeps_silently (keeps_onStore (Action.keeps_change fun _ h => h.renew))
  | openFile => exact keeps_silently (keeps_onStore fun _ h => h.openFile)

/-!
# Scenes that can come about
-/

/-- The scenes that operations lead to from a fresh store.  The disk belongs to others as well:
it may become any other between two operations. -/
inductive Reachable : Scene σ → Prop where
  | fresh (path : Text) (disk : Disk) (surroundings : σ) :
      Reachable ⟨Store.fresh (Disk.placeOf path) disk, surroundings⟩
  | operate {scene : Scene σ} (h : Reachable scene) (reactions : Reactions σ)
      {operation : Operation} (happends : operation.AppendsInteger) :
      Reachable (run reactions operation scene).2
  | outside {scene : Scene σ} (h : Reachable scene) (disk : Disk) :
      Reachable ⟨{ scene.store with disk }, scene.surroundings⟩

theorem Reachable.after {scene : Scene σ} (h : Reachable scene) (reactions : Reactions σ)
    {operations : List Operation} (happend : ∀ operation ∈ operations, operation.AppendsInteger) :
    Reachable (scene.after reactions operations) := by
  induction operations generalizing scene with
  | nil => exact h
  | cons operation rest ih =>
      apply ih (h.operate reactions (happend operation List.mem_cons_self))
      exact fun other hother => happend other (List.mem_cons_of_mem _ hother)

theorem Reachable.isSound {scene : Scene σ} (h : Reachable scene) : scene.IsSound := by
  induction h with
  | fresh path disk surroundings =>
      show (Store.fresh (Disk.placeOf path) disk).IsSound
      rw [← Place.Way.place_ofPath]
      exact Store.isSound_fresh (Place.Way.ofPath path) disk
  | operate _ reactions happends ih => exact keeps_run reactions happends _ ih
  | outside _ disk ih => exact Store.IsSound.onDisk ih disk

def onFile (t : Text) : Scene Unit :=
  let place := Disk.placeOf (Text.of "config.json")
  ⟨Store.fresh place ((Disk.empty (Text.of "/home")).put place (.file (Utf8.encodeAll t))), ()⟩

theorem reachable_onFile (t : Text) : (onFile t).Reachable :=
  Reachable.fresh (Text.of "config.json") _ ()

end Scene

end ContainerDesk
