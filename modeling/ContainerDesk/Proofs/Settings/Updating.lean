import ContainerDesk.Proofs.Json.Written
import ContainerDesk.Proofs.Settings.Loading

/-!
# Updates as a whole or not at all

An update of a section goes through its entries in order.  Keys that the section does not
have are noted and passed over; the first value that a field refuses ends the update, and
nothing of it is stored.

What comes before an entry decides only what is noted and what would be stored, so the end
of an update can be read off the entry at which it ends.
-/

namespace ContainerDesk

theorem Json.Consists.canShow {P : CodePoint → Prop} {value : Value}
    (h : Json.Consists Json.IsShort P value) : value.CanShow := by
  induction h with
  | null => exact ⟨_, rfl⟩
  | bool b => exact ⟨_, rfl⟩
  | int h => exact Value.canShow_int h
  | float x => exact ⟨_, rfl⟩
  | text h => exact ⟨_, rfl⟩
  | list _ ih => exact Value.canShow_list.mpr ih
  | table _ _ ih => exact Value.canShow_table.mpr ih

namespace Section

theorem entries_putAll_known (part : Section) {entries : List (Text × Value)}
    (hkeys : (entries.map (·.1)).Nodup) :
    (part.putAll (part.known entries)).entries =
      part.entries.map fun held => (held.1, (entries.lookup held.1).getD held.2) := by
  unfold Section.entries known
  rw [settings_putAll part ((List.filter_sublist.map _).nodup hkeys), List.map_map, List.map_map]
  apply List.map_congr_left
  intro setting hsetting
  have hknown : (part.setting? setting.key).isSome = true :=
    List.find?_isSome.mpr ⟨setting, hsetting, by simp⟩
  have hlookup := lookup_filter (fun key => (part.setting? key).isSome) hknown entries
  simp only [Function.comp_apply, hlookup]

end Section

/-!
# Held sections
-/

namespace Store

variable {store : Store} {handle : Handle} {part updated : Section}

theorem held_eq_ok :
    store.held handle = .ok part ↔
      ∃ edition, store.edition? handle.edition = some edition ∧
        edition.part? handle.sectionName = some part := by
  rw [← Option.bind_eq_some_iff]
  unfold held
  cases (store.edition? handle.edition).bind (·.part? handle.sectionName) with
  | none => exact ⟨fun h => (nomatch h), fun h => (nomatch h)⟩
  | some found => exact ⟨fun h => congrArg some (Except.ok.inj h),
      fun h => congrArg Except.ok (Option.some.inj h)⟩

theorem held_replaceHeld (h : store.held handle = .ok part) (hname : updated.name = part.name) :
    (store.replaceHeld handle updated).held handle = .ok updated := by
  rcases held_eq_ok.mp h with ⟨edition, hedition, hpart⟩
  apply held_eq_ok.mpr
  refine ⟨edition.replace updated, ?_, ?_⟩
  · unfold edition? at hedition ⊢
    unfold replaceHeld
    split
    · rename_i hlive
      rw [hlive, List.getElem?_append_right (Nat.le_refl _), Nat.sub_self] at hedition
      cases hedition
      rw [hlive]
      exact List.getElem?_concat_length
    · rename_i hretired
      have hlength := (List.getElem?_eq_some_iff.mp hedition).1
      rw [List.length_append, List.length_singleton] at hlength
      have hlt : handle.edition < store.retired.length := by omega
      rw [List.getElem?_append_left hlt] at hedition
      dsimp only
      rw [List.getElem?_append_left (by rwa [List.length_modify]), List.getElem?_modify_eq,
        hedition]
      rfl
  · have hsame : part.name = updated.name := hname.symm
    rw [Edition.part_replace, hpart, Option.map_some, if_pos hsame]

/-- An update of a held section fails exactly if one of its values is refused.  Then the fault names
the first of them and nothing is stored; otherwise every key of the section has its new value, and
those without one keep what they had.  Either way the unknown keys up to the end of the update are
noted, and no more. -/
theorem updateHeld_all_or_nothing (hheld : store.held handle = .ok part)
    (hcomplain : part.CanComplain) {entries : List (Text × Value)}
    (hkeys : (entries.map (·.1)).Nodup)
    (hvalues : ∀ entry ∈ entries, Json.Consists Json.IsShort (fun _ => True) entry.2) :
    ((updateHeld handle entries store).1.isOk = false ↔ ∃ entry ∈ entries, part.Refuses entry) ∧
    (∀ front entry rest, entries = front ++ entry :: rest →
      (∀ other ∈ front, ¬ part.Refuses other) → part.Refuses entry →
        ∃ setting reason, part.setting? entry.1 = some setting ∧
          setting.field.complaint entry.2 = .ok (some reason) ∧
          updateHeld handle entries store =
            (.error (.invalidSetting (part.settingName entry.1) entry.2 reason),
              store.noteAll (part.ignored front))) ∧
    ((∀ entry ∈ entries, ¬ part.Refuses entry) →
      ∃ updated, updateHeld handle entries store =
          (.ok (), (store.replaceHeld handle updated).noteAll (part.ignored entries)) ∧
        (store.replaceHeld handle updated).held handle = .ok updated ∧
        updated.name = part.name ∧ updated.schema = part.schema ∧
        updated.entries =
          part.entries.map fun held => (held.1, (entries.lookup held.1).getD held.2)) := by
  have hrefused : ∀ front entry rest, entries = front ++ entry :: rest →
      (∀ other ∈ front, ¬ part.Refuses other) → part.Refuses entry →
        ∃ setting reason, part.setting? entry.1 = some setting ∧
          setting.field.complaint entry.2 = .ok (some reason) ∧
          updateHeld handle entries store =
            (.error (.invalidSetting (part.settingName entry.1) entry.2 reason),
              store.noteAll (part.ignored front)) := by
    rintro front entry rest rfl hfront hentry
    have hshown : entry.2.CanShow := (hvalues entry (by simp)).canShow
    rcases hcomplain.exists_complaint hshown hentry with
      ⟨setting, reason, hsetting, hcomplaint, hcheck⟩
    refine ⟨setting, reason, hsetting, hcomplaint, ?_⟩
    unfold updateHeld
    rw [hheld]
    dsimp only
    rw [Section.update_of_refuses hfront hentry hcheck]
  have haccepted : (∀ entry ∈ entries, ¬ part.Refuses entry) →
      updateHeld handle entries store =
        (.ok (), (store.replaceHeld handle (part.putAll (part.known entries))).noteAll
          (part.ignored entries)) := by
    intro hentries
    unfold updateHeld
    rw [hheld]
    dsimp only
    rw [Section.update_of_accepts hentries]
  refine ⟨⟨?_, ?_⟩, hrefused, ?_⟩
  · intro hfails
    apply Classical.byContradiction
    intro hnone
    rw [haccepted fun entry hentry hentryRefused => hnone ⟨entry, hentry, hentryRefused⟩] at hfails
    cases hfails
  · intro hsome
    rcases exists_first hsome with ⟨front, entry, rest, hentries, hfront, hentry⟩
    rcases hrefused front entry rest hentries hfront hentry with ⟨_, _, _, _, hupdate⟩
    rw [hupdate]
    rfl
  · intro hentries
    have hname := Section.name_putAll part (part.known entries)
    exact ⟨_, haccepted hentries, held_replaceHeld hheld hname, hname,
      Section.schema_putAll part _, part.entries_putAll_known hkeys⟩

def usualApp : Section :=
  Section.fresh (Text.of "app") ((Schema.sections.lookup (Text.of "app")).getD [])

def mixedEntries : List (Text × Value) :=
  [(Text.of "window_x", .int 7), (Text.of "theme", .list [.int 1]),
    (Text.of "language", .text (Text.of "fr")), (Text.of "window_y", .null)]

/-- In a section of an earlier edition, too, nothing is stored, and only the unknown key before the
refused one is noted. -/
theorem updateHeld_all_or_nothing_mixed :
    spoiled.renew.held ⟨0, Text.of "app"⟩ = .ok usualApp ∧ usualApp.CanComplain ∧
      (mixedEntries.map (·.1)).Nodup ∧
      (∀ entry ∈ mixedEntries, Json.Consists Json.IsShort (fun _ => True) entry.2) ∧
      updateHeld ⟨0, Text.of "app"⟩ mixedEntries spoiled.renew =
        (.error (.invalidSetting (Text.of "app.language") (.text (Text.of "fr"))
            (Text.of "'fr' is not one of ['en', 'ru']")),
          spoiled.renew.noteAll [⟨.warning, .sections,
            Text.of "Ignoring unknown setting app.theme"⟩]) := by
  have hheld : spoiled.renew.held ⟨0, Text.of "app"⟩ = .ok usualApp := rfl
  have hcomplain : usualApp.CanComplain := Section.canComplain_of_schema List.mem_cons_self
  have hkeys : (mixedEntries.map (·.1)).Nodup := by decide
  have hvalues : ∀ entry ∈ mixedEntries,
      Json.Consists Json.IsShort (fun _ => True) entry.2 := by
    have hshort {n : Int} (h : n.natAbs < 10 ^ 1) : Json.IsShort n :=
      Nat.lt_of_lt_of_le h (Nat.pow_le_pow_right (by decide) (by decide))
    simp only [mixedEntries, List.forall_mem_cons]
    refine ⟨.int (hshort (by decide)), .list ?_, .text fun _ _ => trivial, .null, ?_⟩
    · intro item hitem
      rw [List.mem_singleton.mp hitem]
      exact .int (hshort (by decide))
    · exact fun entry hentry => absurd hentry List.not_mem_nil
  have hfront : ∀ other ∈ mixedEntries.take 2, ¬ usualApp.Refuses other := by
    simp only [mixedEntries, List.take_succ_cons, List.take_zero, List.forall_mem_cons]
    refine ⟨?_, ?_, fun entry hentry => absurd hentry List.not_mem_nil⟩
    · rintro ⟨setting, hsetting, hrefused⟩
      cases hsetting
      exact hrefused (Field.accepts_range.mpr ⟨7, rfl, by decide⟩)
    · rintro ⟨setting, hsetting, _⟩
      cases hsetting
  have hrefuses : usualApp.Refuses (Text.of "language", .text (Text.of "fr")) := by
    refine ⟨_, rfl, ?_⟩
    intro haccepts
    rcases Field.accepts_choice.mp haccepts with ⟨t, ht, heq⟩
    cases heq
    exact absurd ht (by decide)
  rcases (updateHeld_all_or_nothing hheld hcomplain hkeys hvalues).2.1 (mixedEntries.take 2) _ _
    rfl hfront hrefuses with ⟨setting, reason, hsetting, hcomplaint, hupdate⟩
  cases hsetting
  cases hcomplaint
  exact ⟨hheld, hcomplain, hkeys, hvalues, hupdate⟩

end Store

end ContainerDesk
