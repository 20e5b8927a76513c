import ContainerDesk.Proofs.Settings.Editing
import ContainerDesk.Proofs.Settings.Reload
import Mathlib.Data.List.Permutation

/-!
# Unknown sections on their way

A file may have sections that the schema does not know.  They are looked at only when
the next file takes their place: until then every save writes them, before the sections
of the schema, as the file had them.
-/

namespace ContainerDesk

namespace Store

structure Carries (place : Place) (extra : List (Text × Value)) (store : Store) : Prop where
  place : store.place = place
  extra : store.extra = extra

/-!
# The content of a file
-/

theorem IsSound.valueIn_content {store : Store} (h : store.IsSound) {name key : Text}
    {value : Value} (hget : store.get name key = .ok value) :
    Schema.valueIn? ((Schema.versionKey, .text Schema.version) :: store.extra ++ store.tables)
      name key = some value := by
  unfold Store.get at hget
  split at hget
  · cases hget
  · rename_i part hfind
    have hpart := h.find hfind
    have hkeys : (part.entries.map (·.1)).Nodup := by
      rw [Section.keys_entries]
      exact hpart.nodup_keys
    unfold Store.find at hfind
    split at hfind
    · rename_i found hfound
      cases hfind
      rcases Edition.part_eq_some hfound with ⟨hmem, rfl⟩
      have htable : (part.name, Value.table part.entries) ∈
          (Schema.versionKey, .text Schema.version) :: store.extra ++ store.tables :=
        List.mem_append_right _ (List.mem_map.mpr ⟨part, hmem, rfl⟩)
      rcases Section.get_eq_ok hget with ⟨setting, hsetting, rfl, rfl⟩
      unfold Schema.valueIn?
      rw [lookup_of_mem h.nodup_keys htable]
      exact lookup_of_mem hkeys (List.mem_map.mpr ⟨setting, hsetting, rfl⟩)
    · cases hfind

end Store

/-- Does the operation leave the file that was loaded in force?  Only integers are appended. -/
def Operation.IsEdit : Operation → Prop
  | .load | .renew | .openFile => False
  | .append _ _ item => ∃ n, item = .int n
  | _ => True

namespace Scene

variable {σ : Type} {place : Place} {extra : List (Text × Value)}

def Step.IsEdit : Step σ → Prop
  | .operate _ operation => operation.IsEdit
  | .grow _ _ item => ∃ n, item = .int n
  | .outside _ => True

theorem Step.IsEdit.appendsInteger {step : Step σ} (h : step.IsEdit) : step.AppendsInteger := by
  cases step with
  | operate reactions operation =>
      cases operation with
      | append name key item => exact h
      | _ => trivial
  | grow handle key item => exact h
  | outside disk => trivial

def Carries (place : Place) (extra : List (Text × Value)) (scene : Scene σ) : Prop :=
  scene.store.Carries place extra

theorem Step.IsEdit.not_replaces {step : Step σ} (h : step.IsEdit) (scene : Scene σ) :
    ¬ step.Replaces scene := by
  cases step with
  | operate reactions operation =>
      cases operation with
      | load => exact absurd h id
      | renew => exact absurd h id
      | openFile => exact absurd h id
      | _ => exact id
  | grow handle key item => exact id
  | outside disk => exact id

theorem carries_apply {step : Step σ} (hedit : step.IsEdit) {scene : Scene σ}
    (h : scene.Carries place extra) : (step.apply scene).Carries place extra := by
  have hedits := Step.edits_apply (hedit.not_replaces scene)
  exact ⟨hedits.place.trans h.place, hedits.extra.trans h.extra⟩

theorem carries_through {steps : List (Step σ)} (hedits : ∀ step ∈ steps, step.IsEdit)
    {scene : Scene σ} (h : scene.Carries place extra) :
    (scene.through steps).Carries place extra := by
  induction steps generalizing scene with
  | nil => exact h
  | cons step rest ih =>
      apply ih (fun other hother => hedits other (List.mem_cons_of_mem _ hother))
      exact carries_apply (hedits step List.mem_cons_self) h

/-- A file that was loaded goes on in every later one, however much was edited in between.  What a
save that ends well writes is the version, then the unknown sections of the file, as they were and
in their order, then the sections of the schema with the values that they have by then.  All names
are apart from each other. -/
theorem save_through {scene : Scene σ} (h : scene.Reachable)
    (hthere : scene.store.disk.occupied scene.store.place = .ok true) {loaded : Store}
    (hload : Store.load scene.store = (.ok (), loaded)) :
    ∃ octets entries, scene.store.disk.read scene.store.place = .ok octets ∧
      Store.parse octets = .ok (.table entries) ∧
      ∀ steps : List (Step σ), (∀ step ∈ steps, step.IsEdit) → ∀ edited saved,
        edited = (through ⟨loaded, scene.surroundings⟩ steps).store →
        Store.save edited = (.ok (), saved) →
          ∃ written content, saved.disk.read scene.store.place = .ok written ∧
            Store.parse written = .ok (.table content) ∧
            content = (Schema.versionKey, .text Schema.version) ::
              entries.filter (fun entry => Schema.isUnknown entry.1) ++ edited.tables ∧
            edited.tables.map (·.1) = Schema.sections.map (·.1) ∧ (content.map (·.1)).Nodup ∧
            ∀ name key field, Schema.field? name key = some field →
              ∃ value, edited.get name key = .ok value ∧
                Schema.valueIn? content name key = some value := by
  have hsound : scene.store.IsSound := h.isSound
  rcases Store.load_eq_ok hload with
    ⟨entries, edition, extra, notes, _, hentries, hedition, hagrees⟩ | ⟨hfree, _⟩
  · -- The bytes of the file do not matter from here on, only its names and unknown sections do.
    rcases Store.readEntries_eq_ok hentries with ⟨octets, hread, hparse⟩
    refine ⟨octets, entries, hread, hparse, ?_⟩
    intro steps hedits edited saved hedited hsave
    have hextra := (Edition.isSound_fresh.absorb hedition).2
    have hcarried : edited.Carries scene.store.place
        (entries.filter fun entry => Schema.isUnknown entry.1) := by
      rw [hedited]
      apply carries_through hedits
      exact ⟨hagrees.place, hagrees.extra.trans hextra⟩
    have hloaded : loaded.IsSound := by
      have hafter := hsound.load
      rw [hload] at hafter
      exact hafter
    have hkept : edited.IsSound := by
      rw [hedited]
      exact isSound_through (fun step hstep => (hedits step hstep).appendsInteger) hloaded
    rcases hkept.place with ⟨way, hway⟩
    rcases Store.standing_of_save way hway hsave with ⟨t, written, hwrite, hencode, _, hfile, _⟩
    rw [← hcarried.extra]
    refine ⟨written, _, ?_, hkept.parse_content hwrite hencode, rfl, ?_, hkept.nodup_keys, ?_⟩
    · rw [← hcarried.place, hway]
      exact Disk.read_of_file hfile
    · exact (Store.map_tables edited).trans hkept.live.names
    · intro name key field hfield
      rcases hkept.get_of_field hfield with ⟨value, hget, _⟩
      exact ⟨value, hget, hkept.valueIn_content hget⟩
  · rw [hthere] at hfree
    cases hfree

def mixedFile : Text :=
  Text.of ("\x7b\"zoom\": [12, NaN], \"app\": \x7b\"window_x\": 7\x7d, \"version\": 0, " ++
    "\"bar\": \x7b\"app\": null\x7d\x7d")

def mixedEdits : List (Scene.Step Unit) :=
  let quiet : Reactions Unit := fun _ _ _ => ⟨(), [], [], false⟩
  [.operate quiet (.set (Text.of "app") (Text.of "window_width") (.int 1000)),
    .operate quiet .save, .operate quiet (.reset (.live (Text.of "app")))]

theorem save_through_mixed :
    ((onFile mixedFile).Reachable ∧ ∀ step ∈ mixedEdits, step.IsEdit) ∧
    ∃ loaded edited saved written,
      Store.load (onFile mixedFile).store = (.ok (), loaded) ∧
      edited = (through ⟨loaded, ()⟩ mixedEdits).store ∧
      Store.save edited = (.ok (), saved) ∧
      saved.disk.read (onFile mixedFile).store.place = .ok written ∧
      Store.parse written = .ok (.table ((Schema.versionKey, .text Schema.version) ::
        [(Text.of "zoom", .list [.int 12, .float .nan]),
          (Text.of "bar", .table [(Text.of "app", .null)])] ++ edited.tables)) := by
  have hreachable : (onFile mixedFile).Reachable := reachable_onFile mixedFile
  have hedits : ∀ step ∈ mixedEdits, step.IsEdit := by
    simp [mixedEdits, Step.IsEdit, Operation.IsEdit]
  refine ⟨⟨hreachable, hedits⟩, ?_⟩
  have hloads : (Store.load (onFile mixedFile).store).1.isOk = true := by decide +kernel
  have hsaves : (Store.save (through ⟨(Store.load (onFile mixedFile).store).2, ()⟩
      mixedEdits).store).1.isOk = true := by
    decide +kernel
  have hspelled : Store.parse (Utf8.encodeAll mixedFile) =
      .ok (.table [(Text.of "zoom", .list [.int 12, .float .nan]),
        (Text.of "app", .table [(Text.of "window_x", .int 7)]), (Text.of "version", .int 0),
        (Text.of "bar", .table [(Text.of "app", .null)])]) := by
    cbv
  rcases hload : Store.load (onFile mixedFile).store with ⟨result, loaded⟩
  rw [hload] at hloads hsaves
  cases result with
  | error fault => cases hloads
  | ok done =>
      rcases save_through hreachable rfl hload with ⟨octets, entries, hread, hparse, hthrough⟩
      rw [← Except.ok.inj hread, hspelled] at hparse
      cases hparse
      rcases hsave : Store.save (through ⟨loaded, ()⟩ mixedEdits).store with ⟨result, saved⟩
      rw [hsave] at hsaves
      cases result with
      | error fault => cases hsaves
      | ok done =>
          rcases hthrough mixedEdits hedits _ saved rfl hsave with
            ⟨written, content, hwritten, hcontent, heq, _⟩
          exact ⟨loaded, _, saved, written, rfl, rfl, hsave, hwritten, heq ▸ hcontent⟩

end Scene

end ContainerDesk
