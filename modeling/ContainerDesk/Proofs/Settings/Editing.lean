import ContainerDesk.Proofs.Settings.History
import ContainerDesk.Proofs.Settings.Observers
import ContainerDesk.Proofs.Settings.Updating

/-!
# Edits and replacements

A step either puts other sections in the place of all that count, or it is an edit.  Only a
load that reads a file which is there, and a new start, put others in their place, and then
the sections that counted are an earlier edition.

After an edit the store belongs to the same place, has the same unknown sections and as many
earlier editions as before, and the sections that count keep their names.  A section of an
earlier edition is changed only by what is written to it through whoever keeps it.
-/

namespace ContainerDesk

namespace Store

variable {store between after : Store} {handle : Handle} {name : Text}

theorem hold_eq_ok :
    store.hold name = .ok handle ↔
      name ∈ store.live.map (·.name) ∧ handle = ⟨store.retired.length, name⟩ := by
  unfold hold find
  cases hpart : store.live.part? name with
  | none =>
      have hname := Edition.part_eq_none.mp hpart
      exact ⟨fun h => (nomatch h), fun h => absurd h.1 hname⟩
  | some part =>
      rcases Edition.part_eq_some hpart with ⟨hmem, rfl⟩
      constructor
      · intro h
        exact ⟨List.mem_map.mpr ⟨part, hmem, rfl⟩, (Except.ok.inj h).symm⟩
      · intro h
        rw [h.2]
        rfl

theorem name_of_held {part : Section} (h : store.held handle = .ok part) :
    part.name = handle.sectionName := by
  rcases held_eq_ok.mp h with ⟨edition, _, hpart⟩
  exact (Edition.part_eq_some hpart).2

theorem held_of_retired (hretired : handle.edition < store.retired.length)
    (h : after.retired[handle.edition]? = store.retired[handle.edition]?) :
    after.held handle = store.held handle := by
  have hlength : handle.edition < after.retired.length := by
    rw [List.getElem?_eq_getElem hretired] at h
    exact (List.getElem?_eq_some_iff.mp h).1
  unfold held edition?
  rw [List.getElem?_append_left hretired, List.getElem?_append_left hlength, h]

/-!
# Edits
-/

/-- Is the second store the first after edits, of which only some touch certain sections of earlier
editions? -/
structure Edits (touched : Handle → Prop) (store after : Store) : Prop where
  place : after.place = store.place
  extra : after.extra = store.extra
  count : after.retired.length = store.retired.length
  names : after.live.map (·.name) = store.live.map (·.name)
  held : ∀ handle, handle.edition < store.retired.length → ¬ touched handle →
    after.held handle = store.held handle

variable {touched touched' : Handle → Prop}

namespace Edits

theorem trans (h : Edits touched store between) (hlater : Edits touched between after) :
    Edits touched store after where
  place := hlater.place.trans h.place
  extra := hlater.extra.trans h.extra
  count := hlater.count.trans h.count
  names := hlater.names.trans h.names
  held := fun handle hretired hspared =>
    (hlater.held handle (h.count ▸ hretired) hspared).trans (h.held handle hretired hspared)

theorem mono (h : Edits touched store after)
    (htouched : ∀ handle, handle.edition < store.retired.length → touched handle →
      touched' handle) : Edits touched' store after :=
  { h with
    held := fun handle hretired hspared =>
      h.held handle hretired fun hmem => hspared (htouched handle hretired hmem) }

theorem hold (h : Edits touched store after) (hhold : store.hold name = .ok handle) :
    after.hold name = .ok handle := by
  rw [hold_eq_ok] at hhold ⊢
  rw [h.names, h.count]
  exact hhold

end Edits

theorem edits_rest (store : Store) (observers : List Observer) (disk : Disk) (journal : Journal) :
    Edits touched store { store with observers, disk, journal } :=
  ⟨rfl, rfl, rfl, rfl, fun _ hretired _ => held_of_retired hretired rfl⟩

theorem edits_refl (store : Store) : Edits touched store store :=
  store.edits_rest store.observers store.disk store.journal

theorem edits_replace (store : Store) (part : Section) :
    Edits touched store (store.replace part) where
  place := rfl
  extra := rfl
  count := rfl
  names := store.live.names_replace part
  held := fun _ hretired _ => held_of_retired hretired rfl

theorem edits_replaceHeld (store : Store) (handle : Handle) {part : Section}
    (hname : part.name = handle.sectionName) :
    Edits (· = handle) store (store.replaceHeld handle part) := by
  unfold replaceHeld
  split
  · exact store.edits_replace part
  · refine ⟨rfl, rfl, List.length_modify .., rfl, ?_⟩
    intro other hretired hother
    have hlength : other.edition <
        (store.retired.modify handle.edition (·.replace part)).length := by
      rwa [List.length_modify]
    have hpart : ((store.retired.modify handle.edition (·.replace part))[other.edition]?).bind
          (·.part? other.sectionName) =
        (store.retired[other.edition]?).bind (·.part? other.sectionName) := by
      rw [List.getElem?_modify]
      cases store.retired[other.edition]? with
      | none => rfl
      | some edition =>
          show (if handle.edition = other.edition then edition.replace part
            else edition).part? other.sectionName = edition.part? other.sectionName
          split
          · -- Both are sections of one edition, so their names are apart.
            rename_i hedition
            apply Edition.part_replace_of_ne
            intro heq
            apply hother
            rcases other with ⟨number, sectionName⟩
            rcases handle with ⟨number', sectionName'⟩
            cases hedition
            cases heq.trans hname
            rfl
          · rfl
    unfold held edition?
    dsimp only
    rw [List.getElem?_append_left hretired, List.getElem?_append_left hlength, hpart]

theorem edits_onHeld (store : Store) (handle : Handle) {α : Type}
    {work : Section → Except Fault (α × Section)}
    (hwork : ∀ part result after, work part = .ok (result, after) → after.name = part.name) :
    Edits (· = handle) store (onHeld handle work store).2 := by
  unfold onHeld
  split
  · exact store.edits_refl
  · rename_i part hpart
    split
    · exact store.edits_refl
    · rename_i result after hresult
      exact store.edits_replaceHeld handle
        ((hwork part result after hresult).trans (name_of_held hpart))

theorem edits_assignHeld (store : Store) (handle : Handle) (key : Text) (value : Value) :
    Edits (· = handle) store (assignHeld handle key value store).2 :=
  store.edits_onHeld handle fun _ _ _ => Section.name_of_assign

theorem edits_appendHeld (store : Store) (handle : Handle) (key : Text) (item : Value) :
    Edits (· = handle) store (appendHeld handle key item store).2 :=
  store.edits_onHeld handle fun _ _ _ => Section.name_of_append

theorem edits_resetHeld (store : Store) (handle : Handle) :
    Edits (· = handle) store (resetHeld handle store).2 := by
  apply store.edits_onHeld handle
  intro part result after hreset
  cases hreset
  rfl

theorem edits_updateHeld (store : Store) (handle : Handle) (entries : List (Text × Value)) :
    Edits (· = handle) store (updateHeld handle entries store).2 := by
  unfold updateHeld
  split
  · exact store.edits_refl
  · rename_i part hpart
    split
    · exact store.edits_rest _ _ _
    · rename_i hupdate
      have hname := (Section.name_of_update hupdate).trans (name_of_held hpart)
      exact (store.edits_replaceHeld handle hname).trans (edits_rest _ _ _ _)

theorem edits_assign {key : Text} {value old : Value}
    (h : store.assign name key value = .ok (old, after)) : Edits touched store after := by
  rcases assign_eq_ok h with ⟨part, _, _, _, rfl⟩
  exact store.edits_replace _

theorem edits_register (store : Store) (observer : Observer) :
    Edits touched store (store.register observer) := by
  rcases exists_observers_of_register store observer with ⟨observers, h⟩
  rw [h]
  exact store.edits_rest _ _ _

theorem edits_save (store : Store) : Edits touched store (save store).2 := by
  rcases exists_disk_of_save store with ⟨disk, h⟩
  rw [h]
  exact store.edits_rest _ _ _

/-!
# Replacements
-/

/-- Are the sections that counted in one store an earlier edition in the other? -/
def Supersedes (after store : Store) : Prop :=
  ∃ newer, after.retired = store.retired ++ store.live :: newer

theorem supersedes_renew (store : Store) : store.renew.Supersedes store :=
  ⟨[], rfl⟩

theorem supersedes_load (h : store.LoadsFile) : (load store).2.Supersedes store := by
  rcases load_of_loadsFile h with ⟨edition, extra, journal, hload⟩
  rw [hload]
  exact ⟨[], rfl⟩

theorem Supersedes.load (h : between.Supersedes store) : (load between).2.Supersedes store := by
  rcases h with ⟨newer, hnewer⟩
  by_cases hfile : between.LoadsFile
  · rcases supersedes_load hfile with ⟨newest, hnewest⟩
    exact ⟨newer ++ between.live :: newest, by rw [hnewest, hnewer]; simp⟩
  · rcases load_of_not_loadsFile hfile with ⟨disk, journal, hload⟩
    rw [hload]
    exact ⟨newer, hnewer⟩

theorem supersedes_openFile (h : (openFile store).1 = .ok ()) :
    (openFile store).2.Supersedes store := by
  have hsupersedes := store.supersedes_renew.load
  unfold openFile at h ⊢
  split at h
  · rename_i after hafter
    rw [hafter] at hsupersedes
    rcases exists_observers_of_register after .changeJournal with ⟨observers, hobservers⟩
    rw [hobservers]
    exact hsupersedes
  · rename_i fault after hafter
    rw [hafter] at hsupersedes
    split at h
    · rename_i hsettings
      rw [if_pos hsettings]
      rcases exists_observers_of_register (after.note .warning .start _) .changeJournal with
        ⟨observers, hobservers⟩
      rw [hobservers]
      exact hsupersedes
    · cases h

theorem openFile_of_not_ok (h : (openFile store).1 ≠ .ok ()) :
    ∃ disk journal, (openFile store).2 = { store with disk, journal } := by
  unfold openFile at h ⊢
  split
  · rename_i hafter
    rw [hafter] at h
    exact absurd rfl h
  · rename_i fault after hafter
    rw [hafter] at h
    dsimp only at h
    split
    · rename_i hsettings
      rw [if_pos hsettings] at h
      exact absurd rfl h
    · exact ⟨_, _, rfl⟩

theorem Supersedes.held (h : after.Supersedes store)
    (hedition : handle.edition ≤ store.retired.length) :
    after.held handle = store.held handle := by
  rcases h with ⟨newer, hnewer⟩
  have hlength : handle.edition < (store.retired ++ [store.live]).length := by
    rw [List.length_append, List.length_singleton]
    omega
  have hsplit : after.retired ++ [after.live] =
      (store.retired ++ [store.live]) ++ (newer ++ [after.live]) := by
    rw [hnewer]
    simp
  unfold Store.held edition?
  rw [hsplit, List.getElem?_append_left hlength]

theorem Supersedes.length_lt (h : after.Supersedes store) :
    store.retired.length < after.retired.length := by
  rcases h with ⟨newer, hnewer⟩
  rw [hnewer, List.length_append, List.length_cons]
  omega

end Store

/-!
# Steps
-/

namespace Scene

variable {σ : Type} {base : Store} {touched : Store.Handle → Prop}

theorem keptBy_edits (reactions : Reactions σ) :
    KeptBy (fun scene : Scene σ => base.Edits touched scene.store) reactions where
  register := fun scene observer h => h.trans (scene.store.edits_register observer)
  unregister := fun _ _ h => h.trans (Store.edits_rest _ _ _ _)
  noteAll := fun _ _ h => h.trans (Store.edits_rest _ _ _ _)
  assign := fun _ _ _ _ _ _ h hassign => h.trans (Store.edits_assign hassign)
  react := fun _ _ _ h => h

theorem snd_silently (action : Action (Scene σ) Unit) (scene : Scene σ) :
    (silently action scene).2 = (action scene).2 := by
  unfold silently
  rw [Action.bind_apply]
  split
  · rename_i h
    rw [h]
    rfl
  · rename_i h
    rw [h]

theorem store_silently (action : Action Store Unit) (scene : Scene σ) :
    (silently (onStore action) scene).2.store = (action scene.store).2 := by
  rw [snd_silently]
  rfl

theorem edits_onTarget (target : Target) (scene : Scene σ) {α : Type}
    {work : Store.Handle → Action (Scene σ) α}
    (hwork : ∀ handle, scene.store.Edits (· = handle) (work handle scene).2.store) :
    scene.store.Edits (target = .held ·) ((handleOf target >>= work) scene).2.store := by
  cases target with
  | held handle =>
      apply (hwork handle).mono
      rintro other - rfl
      rfl
  | live name =>
      cases hhold : scene.store.hold name with
      | error fault =>
          rw [Action.bind_of_error (show handleOf (.live name) scene = (.error fault, scene) from
            congrArg (·, scene) hhold)]
          exact scene.store.edits_refl
      | ok handle =>
          rw [Action.bind_of_ok (show handleOf (.live name) scene = (.ok handle, scene) from
            congrArg (·, scene) hhold)]
          apply (hwork handle).mono
          -- A section that counts is none of an earlier edition.
          rintro other hretired rfl
          rw [(Store.hold_eq_ok.mp hhold).2] at hretired
          exact absurd hretired (Nat.lt_irrefl _)

namespace Step

def WritesTo (handle : Store.Handle) : Step σ → Prop
  | .operate _ (.assign target _ _) => target = .held handle
  | .operate _ (.update target _) => target = .held handle
  | .operate _ (.reset target) => target = .held handle
  | .grow other _ _ => other = handle
  | _ => False

def Replaces (scene : Scene σ) : Step σ → Prop
  | .operate _ .load => scene.store.LoadsFile
  | .operate _ .renew => True
  | .operate _ .openFile => (Store.openFile scene.store).1 = .ok ()
  | _ => False

theorem supersedes_apply {step : Step σ} {scene : Scene σ} (h : step.Replaces scene) :
    (step.apply scene).store.Supersedes scene.store := by
  cases step with
  | grow handle key item => cases h
  | outside disk => cases h
  | operate reactions operation =>
      cases operation with
      | load =>
          show (silently (onStore Store.load) scene).2.store.Supersedes _
          rw [store_silently]
          exact Store.supersedes_load h
      | renew => exact scene.store.supersedes_renew
      | openFile =>
          show (silently (onStore Store.openFile) scene).2.store.Supersedes _
          rw [store_silently]
          exact Store.supersedes_openFile h
      | _ => cases h

/-- All other steps are edits, and the sections of earlier editions to which they do not write stay
as they are. -/
theorem edits_apply {step : Step σ} {scene : Scene σ} (h : ¬ step.Replaces scene) :
    scene.store.Edits (fun handle => step.WritesTo handle) (step.apply scene).store := by
  cases step with
  | grow handle key item =>
      apply (scene.store.edits_appendHeld handle key item).mono
      rintro other - rfl
      rfl
  | outside disk => exact scene.store.edits_rest _ disk _
  | operate reactions operation =>
      cases operation with
      | set name key value =>
          show scene.store.Edits _ (silently (set reactions name key value) scene).2.store
          rw [snd_silently]
          exact keeps_setWithin (keptBy_edits reactions) nestingLimit name key value scene
            scene.store.edits_refl
      | append name key item =>
          apply (edits_onTarget (.live name) scene
            fun handle => scene.store.edits_appendHeld handle key item).mono
          rintro other - heq
          cases heq
      | assign target key value =>
          exact edits_onTarget target scene
            fun handle => scene.store.edits_assignHeld handle key value
      | update target entries =>
          apply edits_onTarget target scene
          intro handle
          rw [store_silently]
          exact scene.store.edits_updateHeld handle entries
      | reset target =>
          apply edits_onTarget target scene
          intro handle
          rw [store_silently]
          exact scene.store.edits_resetHeld handle
      | register observer => exact scene.store.edits_register observer
      | unregister observer => exact scene.store.edits_rest _ _ _
      | save =>
          show scene.store.Edits _ (silently (onStore Store.save) scene).2.store
          rw [store_silently]
          exact scene.store.edits_save
      | load =>
          rcases Store.load_of_not_loadsFile h with ⟨disk, journal, hload⟩
          show scene.store.Edits _ (silently (onStore Store.load) scene).2.store
          rw [store_silently, hload]
          exact scene.store.edits_rest _ _ _
      | renew => exact absurd trivial h
      | openFile =>
          rcases Store.openFile_of_not_ok h with ⟨disk, journal, hopen⟩
          show scene.store.Edits _ (silently (onStore Store.openFile) scene).2.store
          rw [store_silently, hopen]
          exact scene.store.edits_rest _ _ _

end Step

end Scene

end ContainerDesk
