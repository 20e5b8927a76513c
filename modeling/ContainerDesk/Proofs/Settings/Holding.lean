import ContainerDesk.Proofs.Settings.Editing

/-!
# Sections that are kept

Whoever looks a section up may keep it.  Until all sections are replaced it is the section
that counts: what is written to either is read from both.  From then on it is apart from
the settings.  Nothing that is written to it is given or saved any more, and nothing but
that changes it.

A list is set by what is in it, so no list belongs to two settings.
-/

namespace ContainerDesk

namespace Store

variable {store : Store} {handle : Handle} {name : Text}

/-!
# Sections that count
-/

theorem held_of_hold (h : store.hold name = .ok handle) : store.held handle = store.find name := by
  rw [(hold_eq_ok.mp h).2]
  unfold held edition? find
  rw [List.getElem?_concat_length, Option.bind_some]

theorem assignHeld_of_hold (h : store.hold name = .ok handle) (key : Text) (value : Value) :
    assignHeld handle key value store =
      match store.assign name key value with
      | .error fault => (.error fault, store)
      | .ok (old, after) => (.ok old, after) := by
  have hlive : handle.edition = store.retired.length := by rw [(hold_eq_ok.mp h).2]
  unfold assignHeld onHeld assign
  rw [held_of_hold h]
  cases store.find name with
  | error fault => rfl
  | ok part =>
      dsimp only
      cases part.assign key value with
      | error fault => rfl
      | ok result =>
          show (Except.ok result.1, store.replaceHeld handle result.2) = _
          unfold replaceHeld
          rw [if_pos hlive]

/-!
# Sections of earlier editions
-/

theorem replaceHeld_of_retired (h : handle.edition < store.retired.length) (part : Section) :
    store.replaceHeld handle part =
      { store with retired := store.retired.modify handle.edition (·.replace part) } :=
  if_neg (Nat.ne_of_lt h)

theorem onHeld_of_retired (h : handle.edition < store.retired.length) {α : Type}
    (work : Section → Except Fault (α × Section)) :
    ∃ retired, (onHeld handle work store).2 = { store with retired } := by
  unfold onHeld
  split
  · exact ⟨_, rfl⟩
  · split
    · exact ⟨_, rfl⟩
    · exact ⟨_, replaceHeld_of_retired h _⟩

theorem updateHeld_of_retired (h : handle.edition < store.retired.length)
    (entries : List (Text × Value)) :
    ∃ retired journal, (updateHeld handle entries store).2 = { store with retired, journal } := by
  unfold updateHeld
  split
  · exact ⟨_, _, rfl⟩
  · split
    · exact ⟨_, _, rfl⟩
    · rw [replaceHeld_of_retired h]
      exact ⟨_, _, rfl⟩

theorem save_congr (store : Store) (retired : List Edition) (journal : Journal) :
    (save { store with retired, journal }).1 = (save store).1 ∧
      (save { store with retired, journal }).2.disk = (save store).2.disk := by
  have hcontent (disk : Disk) : { store with retired, disk, journal }.content =
      { store with disk }.content := rfl
  unfold save
  dsimp only
  split
  · exact ⟨rfl, rfl⟩
  · rw [hcontent]
    split
    · exact ⟨rfl, rfl⟩
    · split
      · exact ⟨rfl, rfl⟩
      · split
        · exact ⟨rfl, rfl⟩
        · exact ⟨rfl, rfl⟩

end Store

namespace Scene

variable {σ : Type} {scene : Scene σ} {name : Text} {handle : Store.Handle}

/-!
# Before all sections are replaced
-/

/-- Is a kept section the one that counts, so that whatever is written to either is read from
both? -/
structure Shares (name : Text) (handle : Store.Handle) (scene : Scene σ) : Prop where
  reads : scene.store.held handle = scene.store.find name
  assign : ∀ reactions key value,
    run reactions (.assign (.held handle) key value) scene =
      run reactions (.assign (.live name) key value) scene
  update : ∀ reactions entries,
    run reactions (.update (.held handle) entries) scene =
      run reactions (.update (.live name) entries) scene
  reset : ∀ reactions,
    run reactions (.reset (.held handle)) scene = run reactions (.reset (.live name)) scene
  append : ∀ reactions key item,
    run reactions (.append name key item) scene =
      onStore (Store.appendHeld handle key item) scene
  /-- The kept section takes the values that can be set, and no others. -/
  takes : ∀ key value, Store.assignHeld handle key value scene.store =
    match scene.store.assign name key value with
    | .error fault => (.error fault, scene.store)
    | .ok (old, after) => (.ok old, after)
  gives : ∀ key value old after, scene.store.assign name key value = .ok (old, after) →
    after.get name key = .ok value ∧
      ∃ part, after.held handle = .ok part ∧ part.get key = .ok value

theorem shares_of_hold (h : scene.store.hold name = .ok handle) : scene.Shares name handle := by
  have htarget : handleOf (.live name) scene = (.ok handle, scene) := congrArg (·, scene) h
  -- Work on either of them is work on what the target stands for.
  have hsame {α : Type} (work : Store.Handle → Action (Scene σ) α) :
      (handleOf (.live name) >>= work) scene = work handle scene :=
    Action.bind_of_ok htarget
  refine {
    reads := Store.held_of_hold h
    assign := fun _ key value =>
      (hsame fun handle => onStore (Store.assignHeld handle key value)).symm
    update := fun _ entries =>
      (hsame fun handle => silently (onStore (Store.updateHeld handle entries))).symm
    reset := fun _ => (hsame fun handle => silently (onStore (Store.resetHeld handle))).symm
    append := fun _ key item => hsame fun handle => onStore (Store.appendHeld handle key item)
    takes := Store.assignHeld_of_hold h
    gives := ?_
  }
  intro key value old after hassign
  have hget := Store.get_of_assign hassign
  have hedits : scene.store.Edits (fun _ => False) after := Store.edits_assign hassign
  refine ⟨hget, ?_⟩
  rw [Store.held_of_hold (hedits.hold h)]
  unfold Store.get at hget
  cases hfind : after.find name with
  | error fault =>
      rw [hfind] at hget
      cases hget
  | ok part =>
      rw [hfind] at hget
      exact ⟨part, rfl, hget⟩

def Lasts (scene : Scene σ) : List (Step σ) → Prop
  | [] => True
  | step :: rest => ¬ step.Replaces scene ∧ (step.apply scene).Lasts rest

theorem hold_through (h : scene.store.hold name = .ok handle) {steps : List (Step σ)}
    (hlasts : scene.Lasts steps) : (scene.through steps).store.hold name = .ok handle := by
  induction steps generalizing scene with
  | nil => exact h
  | cons step rest ih => exact ih ((Step.edits_apply hlasts.1).hold h) hlasts.2

/-!
# After all sections are replaced
-/

/-- Is a kept section apart from the settings? -/
structure IsCutOff (handle : Store.Handle) (scene : Scene σ) : Prop where
  /-- What is written to it changes an earlier edition and is noted in the journal, nothing else. -/
  writes : ∀ step : Step σ, step.WritesTo handle → ∃ retired journal,
    step.apply scene = ⟨{ scene.store with retired, journal }, scene.surroundings⟩
  looksUp : ∀ step : Step σ, step.WritesTo handle →
    ∀ name, (step.apply scene).store.hold name = scene.store.hold name
  gives : ∀ step : Step σ, step.WritesTo handle →
    ∀ name key, (step.apply scene).store.get name key = scene.store.get name key
  saves : ∀ step : Step σ, step.WritesTo handle →
    (Store.save (step.apply scene).store).1 = (Store.save scene.store).1 ∧
      (Store.save (step.apply scene).store).2.disk = (Store.save scene.store).2.disk
  spared : ∀ step : Step σ, ¬ step.WritesTo handle →
    (step.apply scene).store.held handle = scene.store.held handle

namespace Step

variable {step : Step σ}

theorem apply_of_writesTo (h : step.WritesTo handle)
    (hretired : handle.edition < scene.store.retired.length) :
    ∃ retired journal,
      step.apply scene = ⟨{ scene.store with retired, journal }, scene.surroundings⟩ := by
  have hon {α : Type} (work : Section → Except Fault (α × Section)) : ∃ retired journal,
      (onStore (Store.onHeld handle work) scene).2 =
        ⟨{ scene.store with retired, journal }, scene.surroundings⟩ := by
    rcases Store.onHeld_of_retired hretired work with ⟨retired, hafter⟩
    exact ⟨retired, scene.store.journal, congrArg (Scene.mk · scene.surroundings) hafter⟩
  cases step with
  | outside disk => cases h
  | grow other key item =>
      cases h
      exact hon _
  | operate reactions operation =>
      cases operation with
      | assign target key value =>
          cases h
          exact hon _
      | reset target =>
          cases h
          show ∃ retired journal, (silently (onStore (Store.resetHeld handle)) scene).2 = _
          rw [snd_silently]
          exact hon _
      | update target entries =>
          cases h
          rcases Store.updateHeld_of_retired hretired entries with ⟨retired, journal, hafter⟩
          refine ⟨retired, journal, ?_⟩
          show (silently (onStore (Store.updateHeld handle entries)) scene).2 = _
          rw [snd_silently]
          exact congrArg (Scene.mk · scene.surroundings) hafter
      | _ => cases h

theorem not_replaces_of_writesTo (h : step.WritesTo handle) : ¬ step.Replaces scene := by
  cases step with
  | operate reactions operation =>
      cases operation with
      | load => cases h
      | renew => cases h
      | openFile => cases h
      | _ => exact id
  | grow other key item => exact id
  | outside disk => exact id

theorem retired_apply (step : Step σ) (h : handle.edition < scene.store.retired.length) :
    handle.edition < (step.apply scene).store.retired.length := by
  by_cases hreplaces : step.Replaces scene
  · exact Nat.lt_trans h (supersedes_apply hreplaces).length_lt
  · rw [(edits_apply hreplaces).count]
    exact h

theorem held_apply (hspared : ¬ step.WritesTo handle)
    (h : handle.edition < scene.store.retired.length) :
    (step.apply scene).store.held handle = scene.store.held handle := by
  by_cases hreplaces : step.Replaces scene
  · exact (supersedes_apply hreplaces).held (Nat.le_of_lt h)
  · exact (edits_apply hreplaces).held handle h hspared

end Step

theorem isCutOff_of_retired (h : handle.edition < scene.store.retired.length) :
    scene.IsCutOff handle where
  writes := fun step hwrites => step.apply_of_writesTo hwrites h
  looksUp := by
    intro step hwrites name
    have hspares : ¬ step.Replaces scene := Step.not_replaces_of_writesTo hwrites
    have hcount := (Step.edits_apply hspares).count
    rcases step.apply_of_writesTo hwrites h with ⟨retired, journal, happly⟩
    rw [happly] at hcount ⊢
    show (scene.store.find name).map (fun part => Store.Handle.mk retired.length part.name) = _
    rw [hcount]
    rfl
  gives := by
    intro step hwrites name key
    rcases step.apply_of_writesTo hwrites h with ⟨retired, journal, happly⟩
    rw [happly]
    rfl
  saves := by
    intro step hwrites
    rcases step.apply_of_writesTo hwrites h with ⟨retired, journal, happly⟩
    rw [happly]
    exact scene.store.save_congr retired journal
  spared := fun step hspared => step.held_apply hspared h

theorem retired_through (h : handle.edition < scene.store.retired.length) (steps : List (Step σ)) :
    handle.edition < (scene.through steps).store.retired.length := by
  induction steps generalizing scene with
  | nil => exact h
  | cons step rest ih => exact ih (step.retired_apply h)

theorem held_through_spared (h : handle.edition < scene.store.retired.length)
    {steps : List (Step σ)} (hspared : ∀ step ∈ steps, ¬ step.WritesTo handle) :
    (scene.through steps).store.held handle = scene.store.held handle := by
  induction steps generalizing scene with
  | nil => rfl
  | cons step rest ih =>
      rw [List.forall_mem_cons] at hspared
      exact (ih (step.retired_apply h) hspared.2).trans (step.held_apply hspared.1 h)

/-- A section that was looked up and kept.  As long as all sections are not replaced, by a load that
reads a file which is there or by a new start, it is the section that counts.  As soon as they are,
it is apart from the settings for good, and has the values that it had just before until somebody
writes to it. -/
theorem held_through (hhold : scene.store.hold name = .ok handle) {steps : List (Step σ)}
    (hlasts : scene.Lasts steps) :
    (scene.through steps).Shares name handle ∧
    ∀ step : Step σ, step.Replaces (scene.through steps) → ∀ rest : List (Step σ),
      ((step.apply (scene.through steps)).through rest).IsCutOff handle ∧
      ((∀ other ∈ rest, ¬ other.WritesTo handle) →
        ((step.apply (scene.through steps)).through rest).store.held handle =
          (scene.through steps).store.held handle) := by
  have hkept := hold_through hhold hlasts
  refine ⟨shares_of_hold hkept, ?_⟩
  intro step hreplaces rest
  have hsupersedes := step.supersedes_apply hreplaces
  have hcounted : handle.edition = (scene.through steps).store.retired.length := by
    rw [(Store.hold_eq_ok.mp hkept).2]
  have hretired : handle.edition < (step.apply (scene.through steps)).store.retired.length :=
    hcounted ▸ hsupersedes.length_lt
  refine ⟨isCutOff_of_retired (retired_through hretired rest), ?_⟩
  intro hspared
  exact (held_through_spared hretired hspared).trans
    (hsupersedes.held (Nat.le_of_eq hcounted))

def quiet : Reactions Unit :=
  fun _ _ _ => ⟨(), [], [], false⟩

def unreadSteps : List (Step Unit) :=
  [.operate quiet (.set (Text.of "app") (Text.of "window_x") (.int 7)),
    .outside (onFile (Text.of "\x7b")).store.disk, .operate quiet .load,
    .operate quiet (.assign (.held ⟨0, Text.of "app"⟩) (Text.of "window_y") (.int 5)),
    .outside (Disk.empty (Text.of "/home")), .operate quiet .load,
    .outside (onFile (Text.of "\x7b\x7d")).store.disk]

def rereading : Step Unit :=
  .operate quiet .load

def rereadSteps : List (Step Unit) :=
  [.operate quiet (.set (Text.of "app") (Text.of "window_x") (.int 9)), .operate quiet .save]

def unread : Scene Unit :=
  (onFile []).through unreadSteps

def reread : Scene Unit :=
  (rereading.apply unread).through rereadSteps

def shown (scene : Scene Unit) (key : Text) : Option Text :=
  (scene.store.get (Text.of "app") key).toOption.bind Value.quoted

/-- The kept section has what was set to it and to the settings.  After an empty file is read, the
settings do not have it any more, and the kept section still does. -/
theorem held_through_unread :
    ((onFile []).store.hold (Text.of "app") = .ok ⟨0, Text.of "app"⟩ ∧
      (onFile []).Lasts unreadSteps ∧ rereading.Replaces unread ∧
      ∀ step ∈ rereadSteps, ¬ step.WritesTo ⟨0, Text.of "app"⟩) ∧
    unread.Shares (Text.of "app") ⟨0, Text.of "app"⟩ ∧ reread.IsCutOff ⟨0, Text.of "app"⟩ ∧
    reread.store.held ⟨0, Text.of "app"⟩ = unread.store.held ⟨0, Text.of "app"⟩ ∧
    shown unread (Text.of "window_x") = some (Text.of "7") ∧
    shown unread (Text.of "window_y") = some (Text.of "5") ∧
    shown reread (Text.of "window_x") = some (Text.of "9") ∧
    shown reread (Text.of "window_y") = some (Text.of "0") := by
  have hhold : (onFile []).store.hold (Text.of "app") = .ok ⟨0, Text.of "app"⟩ := rfl
  have hlasts : (onFile []).Lasts unreadSteps := by
    refine ⟨id, id, ?_, id, id, ?_, id, trivial⟩
    · intro hloads
      exact absurd (congrArg Except.isOk hloads.2) (by decide +kernel)
    · intro hloads
      exact absurd hloads.1 (by decide +kernel)
  have hreplaces : rereading.Replaces unread := by
    refine ⟨by decide +kernel, ?_⟩
    have hok : (Store.load unread.store).1.isOk = true := by decide +kernel
    cases hload : (Store.load unread.store).1 with
    | error fault =>
        rw [hload] at hok
        cases hok
    | ok done => rfl
  have hspared : ∀ step ∈ rereadSteps, ¬ step.WritesTo ⟨0, Text.of "app"⟩ := by
    simp [rereadSteps, Step.WritesTo]
  rcases held_through hhold hlasts with ⟨hshares, hthrough⟩
  rcases hthrough rereading hreplaces rereadSteps with ⟨hcut, hkept⟩
  exact ⟨⟨hhold, hlasts, hreplaces, hspared⟩, hshares, hcut, hkept hspared, by decide +kernel,
    by decide +kernel, by decide +kernel, by decide +kernel⟩

end Scene

end ContainerDesk
