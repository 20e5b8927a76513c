import ContainerDesk.Proofs.Settings.Taking

/-!
# Storing one value

A value that is stored stands where it was put and leaves all other settings as they
were.  A sound store takes a value for a setting of the schema exactly if the field of
the setting accepts it.
-/

namespace ContainerDesk

namespace Section

variable {part : Section} {key : Text} {value : Value}

theorem get_eq_ok_iff : part.get key = .ok value ↔ part.value? key = some value := by
  unfold get find value?
  cases part.setting? key with
  | none => exact ⟨fun h => (nomatch h), fun h => (nomatch h)⟩
  | some setting =>
      constructor
      · exact fun h => congrArg some (Except.ok.inj h)
      · exact fun h => congrArg Except.ok (Option.some.inj h)

theorem value_put (part : Section) (key other : Text) (value : Value) :
    (part.put key value).value? other =
      (part.value? other).map fun old => if other = key then value else old := by
  have hkeys : ([(key, value)].map (·.1)).Nodup := List.pairwise_singleton _ key
  show (part.putAll [(key, value)]).value? other = _
  rw [part.value_putAll hkeys]
  congr 1
  funext old
  by_cases h : other = key
  · simp [h]
  · have hb : (other == key) = false := by simpa using h
    simp [List.lookup_cons, h, hb]

end Section

def Schema.Takes (name key : Text) (value : Value) : Prop :=
  ∃ field, field? name key = some field ∧ field.Accepts value

namespace Store

variable {store after : Store} {name key : Text} {value old : Value}

theorem get_eq_ok_iff :
    store.get name key = .ok value ↔ store.live.value? name key = some value := by
  unfold get find Edition.value?
  cases store.live.part? name with
  | none => exact ⟨fun h => (nomatch h), fun h => (nomatch h)⟩
  | some part => exact Section.get_eq_ok_iff

/-- What storing a value does: the value that it gives stood there before, and the new one stands
there now. -/
theorem assign_eq_ok (h : store.assign name key value = .ok (old, after)) :
    ∃ part, store.live.part? name = some part ∧ part.check key value = .ok () ∧
      part.value? key = some old ∧ after = store.replace (part.put key value) := by
  unfold assign at h
  cases hfind : store.find name with
  | error fault =>
      rw [hfind] at h
      cases h
  | ok part =>
      rw [hfind] at h
      dsimp only at h
      unfold Section.assign at h
      cases hcheck : part.check key value with
      | error fault =>
          rw [hcheck] at h
          cases h
      | ok done =>
          rw [hcheck] at h
          cases hget : part.get key with
          | error fault =>
              rw [hget] at h
              cases h
          | ok found =>
              rw [hget] at h
              cases h
              refine ⟨part, ?_, hcheck, Section.get_eq_ok_iff.mp hget, rfl⟩
              unfold find at hfind
              split at hfind
              · cases hfind
                assumption
              · cases hfind

theorem get_old_of_assign (h : store.assign name key value = .ok (old, after)) :
    store.get name key = .ok old := by
  rcases assign_eq_ok h with ⟨part, hpart, _, hold, _⟩
  apply get_eq_ok_iff.mpr
  unfold Edition.value?
  rw [hpart]
  exact hold

theorem get_of_assign (h : store.assign name key value = .ok (old, after)) :
    after.get name key = .ok value := by
  rcases assign_eq_ok h with ⟨part, hpart, _, hold, rfl⟩
  apply get_eq_ok_iff.mpr
  rcases Edition.part_eq_some hpart with ⟨_, rfl⟩
  show (store.live.replace (part.put key value)).value? part.name key = some value
  rw [Edition.value_replace_self hpart (Section.name_put part key value), Section.value_put, hold,
    Option.map_some, if_pos rfl]

theorem get_of_assign_of_ne (h : store.assign name key value = .ok (old, after))
    {otherName otherKey : Text} (hne : (otherName, otherKey) ≠ (name, key)) {found : Value}
    (hget : store.get otherName otherKey = .ok found) :
    after.get otherName otherKey = .ok found := by
  rcases assign_eq_ok h with ⟨part, hpart, _, _, rfl⟩
  rw [get_eq_ok_iff] at hget ⊢
  rcases Edition.part_eq_some hpart with ⟨_, rfl⟩
  show (store.live.replace (part.put key value)).value? otherName otherKey = some found
  by_cases hname : otherName = part.name
  · subst hname
    have hkey : otherKey ≠ key := fun hkey => hne (by rw [hkey])
    unfold Edition.value? at hget
    rw [hpart] at hget
    rw [Edition.value_replace_self hpart (Section.name_put part key value), Section.value_put]
    show Option.map _ (part.value? otherKey) = some found
    rw [show part.value? otherKey = some found from hget, Option.map_some, if_neg hkey]
  · rw [Edition.value_replace_of_ne (by rwa [Section.name_put]), hget]

theorem get_of_assign_of_eq (h : store.assign name key value = .ok (old, after))
    {otherName otherKey : Text} (heq : (otherName, otherKey) = (name, key) → value = old)
    {found : Value} (hget : store.get otherName otherKey = .ok found) :
    after.get otherName otherKey = .ok found := by
  by_cases hplace : (otherName, otherKey) = (name, key)
  · have hvalue := heq hplace
    cases hplace
    rw [get_old_of_assign h, ← hvalue] at hget
    rw [get_of_assign h, hget]
  · exact get_of_assign_of_ne h hplace hget

theorem exists_live_of_assign (h : store.assign name key value = .ok (old, after)) :
    ∃ live, after = { store with live } := by
  rcases assign_eq_ok h with ⟨part, _, _, _, rfl⟩
  exact ⟨_, rfl⟩

/-!
# What a sound store takes
-/

variable {field : Field}

theorem IsSound.takes_of_assign (h : store.IsSound)
    (hassign : store.assign name key value = .ok (old, after)) : Schema.Takes name key value := by
  rcases assign_eq_ok hassign with ⟨part, hpart, hcheck, _, _⟩
  rcases Section.check_eq_ok.mp hcheck with ⟨field, hfield, haccepts⟩
  refine ⟨field, ?_, haccepts⟩
  rw [Schema.field?, h.live.lookup_sections, hpart]
  exact hfield

theorem IsSound.accepts_of_assign (h : store.IsSound) (hfield : Schema.field? name key = some field)
    (hassign : store.assign name key value = .ok (old, after)) : field.Accepts value := by
  rcases h.takes_of_assign hassign with ⟨found, hfound, haccepts⟩
  rw [hfield] at hfound
  cases hfound
  exact haccepts

theorem IsSound.exists_assign (h : store.IsSound) (htakes : Schema.Takes name key value) :
    ∃ old after, store.assign name key value = .ok (old, after) := by
  rcases htakes with ⟨field, hfield, haccepts⟩
  rcases h.get_of_field hfield with ⟨old, hget, _⟩
  rcases Option.bind_eq_some_iff.mp (get_eq_ok_iff.mp hget) with ⟨part, hpart, hold⟩
  rw [Schema.field?, h.live.lookup_sections, hpart] at hfield
  have hcheck : part.check key value = .ok () :=
    Section.check_eq_ok.mpr ⟨field, hfield, haccepts⟩
  refine ⟨old, store.replace (part.put key value), ?_⟩
  unfold Store.assign Store.find
  rw [hpart]
  dsimp only
  unfold Section.assign
  rw [hcheck]
  dsimp only
  rw [Section.get_eq_ok_iff.mpr hold]

theorem IsSound.not_takes_of_assign (h : store.IsSound) {fault : Fault}
    (hassign : store.assign name key value = .error fault) : ¬ Schema.Takes name key value := by
  intro htakes
  rcases h.exists_assign htakes with ⟨old, after, hok⟩
  rw [hassign] at hok
  cases hok

end Store

end ContainerDesk
