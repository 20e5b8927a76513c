import ContainerDesk.Proofs.Json.Readable
import ContainerDesk.Value.Display

/-!
# Values that can be shown

Only an integer beyond the digit limit keeps a value from being shown in a message.  The
reader of files keeps to the same limit, so all that it gives can be shown.
-/

namespace ContainerDesk

theorem integerNumeral_of_lt {n : Int} (h : n.natAbs < 10 ^ digitLimit) :
    integerNumeral? n = some (integerNumeral n) := by
  unfold integerNumeral?
  rw [Nat.pow_eq, if_pos h]

namespace Value

def CanShow (value : Value) : Prop :=
  ∃ shown, value.quoted = some shown

theorem quotedItems_eq_some {items : List Value} :
    (∃ shown, quotedItems items = some shown) ↔ ∀ item ∈ items, item.CanShow := by
  induction items with
  | nil => exact ⟨fun _ item hitem => absurd hitem List.not_mem_nil, fun _ => ⟨[], rfl⟩⟩
  | cons item rest ih =>
      rw [List.forall_mem_cons, ← ih, quotedItems]
      constructor
      · rintro ⟨shown, h⟩
        split at h
        · rename_i first others hfirst hothers
          exact ⟨⟨first, hfirst⟩, ⟨others, hothers⟩⟩
        · cases h
      · rintro ⟨⟨first, hfirst⟩, ⟨others, hothers⟩⟩
        rw [hfirst, hothers]
        exact ⟨_, rfl⟩

theorem quotedEntries_eq_some {entries : List (Text × Value)} :
    (∃ shown, quotedEntries entries = some shown) ↔ ∀ entry ∈ entries, entry.2.CanShow := by
  induction entries with
  | nil => exact ⟨fun _ entry hentry => absurd hentry List.not_mem_nil, fun _ => ⟨[], rfl⟩⟩
  | cons entry rest ih =>
      rcases entry with ⟨key, value⟩
      rw [List.forall_mem_cons, ← ih, quotedEntries]
      constructor
      · rintro ⟨shown, h⟩
        split at h
        · rename_i first others hfirst hothers
          exact ⟨⟨first, hfirst⟩, ⟨others, hothers⟩⟩
        · cases h
      · rintro ⟨⟨first, hfirst⟩, ⟨others, hothers⟩⟩
        rw [hfirst, hothers]
        exact ⟨_, rfl⟩

theorem canShow_list {items : List Value} :
    (Value.list items).CanShow ↔ ∀ item ∈ items, item.CanShow := by
  rw [← quotedItems_eq_some]
  unfold CanShow
  rw [quoted]
  cases quotedItems items with
  | none => simp
  | some shown => simp

theorem canShow_table {entries : List (Text × Value)} :
    (Value.table entries).CanShow ↔ ∀ entry ∈ entries, entry.2.CanShow := by
  rw [← quotedEntries_eq_some]
  unfold CanShow
  rw [quoted]
  cases quotedEntries entries with
  | none => simp
  | some shown => simp

theorem canShow_int {n : Int} (h : n.natAbs < 10 ^ digitLimit) : (Value.int n).CanShow :=
  ⟨_, integerNumeral_of_lt h⟩

end Value

namespace Json

theorem isHereditary_canShow : IsHereditary fun _ value => value.CanShow where
  word := by
    intro _ word hmem
    simp only [words, List.mem_cons, List.not_mem_nil, or_false] at hmem
    rcases hmem with rfl | rfl | rfl | rfl | rfl | rfl
    all_goals exact ⟨_, rfl⟩
  int := Value.canShow_int
  float := fun _ => ⟨_, rfl⟩
  text := fun _ => ⟨_, rfl⟩
  list := Value.canShow_list.mpr
  table := fun h => Value.canShow_table.mpr fun entry hentry => h entry (mem_tableOf hentry)

end Json

end ContainerDesk
