import ContainerDesk.Proofs.Settings.Opening

/-!
# What decides on a load

Whether a file is loaded, what is loaded from it, and which fault ends the load otherwise
is decided by the entries of the file alone.  The store that loads it has no say in it.
-/

namespace ContainerDesk

namespace Store

variable {store : Store}

theorem load_of_refused {octets : List Octet} {entries : List (Text × Value)} {fault : Fault}
    (hread : store.disk.read store.place = .ok octets)
    (hparse : parse octets = .ok (.table entries))
    (h : (Edition.ofEntries entries).1 = .error fault) : (load store).1 = .error fault := by
  unfold load
  rw [occupied_of_read hread]
  dsimp only
  rw [readEntries_of_file hread hparse]
  rcases hedition : Edition.ofEntries entries with ⟨result, notes⟩
  rw [hedition] at h
  cases h
  dsimp only
  rw [hedition]

/-- The entries of a settings file alone decide on a load.  It succeeds exactly if all of them may
stand there, and then the settings are those of the entries and otherwise the defaults, whatever
they were before.  Else the first entry that may not stand there gives the fault. -/
theorem load_by_entries {octets : List Octet} {entries : List (Text × Value)}
    (hread : store.disk.read store.place = .ok octets)
    (hparse : parse octets = .ok (.table entries)) :
    ((load store).1.isOk = true ↔ ∀ entry ∈ entries, Schema.Allows entry) ∧
    ((∀ entry ∈ entries, Schema.Allows entry) →
      ∃ loaded, load store = (.ok (), loaded) ∧ loaded.Reflects entries ∧
        ∀ other : Store, other.disk.read other.place = .ok octets →
          ∃ same, load other = (.ok (), same) ∧ same.live = loaded.live ∧
            same.extra = loaded.extra) ∧
    (∀ front entry rest, entries = front ++ entry :: rest →
      (∀ other ∈ front, Schema.Allows other) → ¬ Schema.Allows entry →
        ∃ fault, Schema.Offends entry fault ∧ (load store).1 = .error fault) := by
  have htaken : (∀ entry ∈ entries, Schema.Allows entry) →
      ∃ loaded, load store = (.ok (), loaded) ∧ loaded.Reflects entries ∧
        ∀ other : Store, other.disk.read other.place = .ok octets →
          ∃ same, load other = (.ok (), same) ∧ same.live = loaded.live ∧
            same.extra = loaded.extra := by
    intro hallowed
    rcases Edition.exists_ofEntries hallowed with ⟨edition, extra, notes, hedition⟩
    rcases load_of_entries store (occupied_of_read hread) (readEntries_of_file hread hparse)
      hedition with ⟨loaded, hload, hagrees⟩
    refine ⟨loaded, hload, ?_, ?_⟩
    · apply reflects_of_ofEntries hparse
      rw [hagrees.live, hagrees.extra]
      exact hedition
    · intro other hother
      rcases load_of_entries other (occupied_of_read hother) (readEntries_of_file hother hparse)
        hedition with ⟨same, hsame, hsameAgrees⟩
      exact ⟨same, hsame, hsameAgrees.live.trans hagrees.live.symm,
        hsameAgrees.extra.trans hagrees.extra.symm⟩
  have hrefused : ∀ front entry rest, entries = front ++ entry :: rest →
      (∀ other ∈ front, Schema.Allows other) → ¬ Schema.Allows entry →
        ∃ fault, Schema.Offends entry fault ∧ (load store).1 = .error fault := by
    intro front entry rest hsplit hfront hentry
    have hshown : entry.2.CanShow :=
      Value.canShow_table.mp (canShow_of_parse hparse) entry (by simp [hsplit])
    rcases Edition.exists_offence_ofEntries hfront hshown hentry rest with
      ⟨fault, hoffends, hedition⟩
    exact ⟨fault, hoffends, load_of_refused hread hparse (hsplit ▸ hedition)⟩
  refine ⟨⟨?_, ?_⟩, htaken, hrefused⟩
  · intro hok
    apply Classical.byContradiction
    intro hnot
    push Not at hnot
    rcases exists_first hnot with ⟨front, entry, rest, hsplit, hfront, hentry⟩
    rcases hrefused front entry rest hsplit
      (fun other hother => Classical.not_not.mp (hfront other hother)) hentry with
      ⟨fault, _, hload⟩
    rw [hload] at hok
    cases hok
  · intro hallowed
    rcases htaken hallowed with ⟨loaded, hload, _⟩
    rw [hload]
    rfl

def offendingFile : Text :=
  Text.of "\x7b\"x\": 1, \"app\": \x7b\"language\": \"fr\", \"window_x\": []\x7d, " ++
    Text.of "\"logging\": 5\x7d"

def offendingEntry : Text × Value :=
  (Text.of "app", .table [(Text.of "language", .text (Text.of "fr")),
    (Text.of "window_x", .list [])])

def offendingFault : Fault :=
  .invalidSetting (Text.of "app.language") (.text (Text.of "fr"))
    (Text.of "'fr' is not one of ['en', 'ru']")

/-- The first value that will not do is named, and neither the other nor the section behind it. -/
theorem load_by_entries_offending :
    (Scene.onFile offendingFile).store.disk.read (Scene.onFile offendingFile).store.place =
        .ok (Utf8.encodeAll offendingFile) ∧
      parse (Utf8.encodeAll offendingFile) = .ok (.table [(Text.of "x", .int 1), offendingEntry,
        (Text.of "logging", .int 5)]) ∧
      Schema.Offends offendingEntry offendingFault ∧
      (load (Scene.onFile offendingFile).store).1 = .error offendingFault := by
  have hread : (Scene.onFile offendingFile).store.disk.read
      (Scene.onFile offendingFile).store.place = .ok (Utf8.encodeAll offendingFile) := rfl
  have hparse : parse (Utf8.encodeAll offendingFile) = .ok (.table [(Text.of "x", .int 1),
      offendingEntry, (Text.of "logging", .int 5)]) := by
    cbv
  have hfront : ∀ other ∈ [(Text.of "x", Value.int 1)], Schema.Allows other :=
    Edition.isOk_ofEntries.mp (by decide +kernel)
  have hentry : ¬ Schema.Allows offendingEntry := by
    intro hallows
    have hfails : (Edition.ofEntries [offendingEntry]).1.isOk = false := by decide +kernel
    rw [Edition.isOk_ofEntries.mpr (List.forall_mem_singleton.mpr hallows)] at hfails
    cases hfails
  have hload : (load (Scene.onFile offendingFile).store).1 = .error offendingFault :=
    load_of_refused hread hparse rfl
  rcases (load_by_entries hread hparse).2.2 _ _ _ rfl hfront hentry with
    ⟨named, hoffends, hnamed⟩
  rw [hload] at hnamed
  exact ⟨hread, hparse, Except.error.inj hnamed ▸ hoffends, hload⟩

end Store

end ContainerDesk
