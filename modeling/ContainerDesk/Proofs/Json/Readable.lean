import ContainerDesk.Json.Reader
import ContainerDesk.Proofs.Number.Numeral
import ContainerDesk.Proofs.Value.Table

/-!
# What a text can spell

The values that the reader can give: no octets, no tuples, in every table each key
once, and lists and tables in each other up to the depth.
-/

namespace ContainerDesk

namespace Json

/-- Can the reader give a value, when it may open `depth` lists and tables in each other? -/
inductive IsReadable : Nat → Value → Prop where
  | null {depth : Nat} : IsReadable depth .null
  | bool {depth : Nat} (b : Bool) : IsReadable depth (.bool b)
  | int {depth : Nat} (n : Int) : IsReadable depth (.int n)
  | float {depth : Nat} (x : Binary64) : IsReadable depth (.float x)
  | text {depth : Nat} (t : Text) : IsReadable depth (.text t)
  | list {depth : Nat} {items : List Value} (hitems : ∀ item ∈ items, IsReadable depth item) :
      IsReadable (depth + 1) (.list items)
  | table {depth : Nat} {entries : List (Text × Value)} (hkeys : (entries.map (·.1)).Nodup)
      (hvalues : ∀ entry ∈ entries, IsReadable depth entry.2) :
      IsReadable (depth + 1) (.table entries)

/-!
# Tables
-/

theorem tableOf_eq_self {entries : List (Text × Value)} (h : (entries.map (·.1)).Nodup) :
    tableOf entries = entries := by
  unfold tableOf
  rw [foldl_putEntry (by rwa [List.nil_append]), List.nil_append]

theorem nodup_keys_foldl_putEntry (entries : List (Text × Value)) {table : List (Text × Value)}
    (h : (table.map (·.1)).Nodup) :
    ((entries.foldl (fun table entry => putEntry entry.1 entry.2 table) table).map
      (·.1)).Nodup := by
  induction entries generalizing table with
  | nil => exact h
  | cons entry rest ih => exact ih (nodup_keys_putEntry entry.2 h)

theorem mem_foldl_putEntry {entries table : List (Text × Value)} {entry : Text × Value}
    (h : entry ∈ entries.foldl (fun table entry => putEntry entry.1 entry.2 table) table) :
    entry ∈ entries ∨ entry ∈ table := by
  induction entries generalizing table with
  | nil => exact .inr h
  | cons first rest ih =>
      rcases ih h with hrest | htable
      · exact .inl (List.mem_cons_of_mem _ hrest)
      · rcases mem_putEntry htable with rfl | htable
        · exact .inl List.mem_cons_self
        · exact .inr htable

theorem mem_tableOf {entries : List (Text × Value)} {entry : Text × Value}
    (h : entry ∈ tableOf entries) : entry ∈ entries := by
  rcases mem_foldl_putEntry h with hmem | hmem
  · exact hmem
  · exact absurd hmem List.not_mem_nil

/-!
# What the reader gives
-/

/-- Does a property pass from the parts that the reader gives to what it makes of them? -/
structure IsHereditary (P : Nat → Value → Prop) : Prop where
  word : ∀ {depth word}, word ∈ words → P depth word.2
  int : ∀ {depth} {n : Int}, n.natAbs < 10 ^ digitLimit → P depth (.int n)
  float : ∀ {depth} x, P depth (.float x)
  text : ∀ {depth} t, P depth (.text t)
  list : ∀ {depth items}, (∀ item ∈ items, P depth item) → P (depth + 1) (.list items)
  table : ∀ {depth entries}, (∀ entry ∈ entries, P depth entry.2) →
    P (depth + 1) (.table (tableOf entries))

namespace IsHereditary

variable {P : Nat → Value → Prop}

theorem of_readWord (h : IsHereditary P) {cursor after : Cursor} {value : Value}
    (hread : readWord? cursor = some (value, after)) (depth : Nat) : P depth value := by
  unfold readWord? at hread
  rcases Option.map_eq_some_iff.mp hread with ⟨word, hfound, hvalue⟩
  rw [← (Prod.mk.inj hvalue).1]
  exact h.word (List.mem_of_find?_eq_some hfound)

theorem isDigitRow_whole (unsigned : Text) :
    IsDigitRow (match unsigned with
      | c :: _ => if c.val = 48 then [c] else unsigned.takeWhile CodePoint.isDigit
      | [] => []) := by
  split
  · split
    · rename_i c _ hzero
      intro d hd
      rw [List.mem_singleton.mp hd, CodePoint.isDigit, hzero]
      rfl
    · exact List.all_eq_true.mp List.all_takeWhile
  · exact isDigitRow_nil

theorem of_readNumber (h : IsHereditary P) {cursor after : Cursor} {value : Value}
    (hread : readNumber cursor = .ok (value, after)) (depth : Nat) : P depth value := by
  unfold readNumber at hread
  split at hread
  extract_lets whole at hread
  split at hread
  · cases hread
  · split at hread
    · split at hread
      · cases hread
      · rename_i hlimit
        rw [← (Prod.mk.inj (Except.ok.inj hread)).1]
        apply h.int
        have hsize : digitsValue whole < 10 ^ digitLimit :=
          Nat.lt_of_lt_of_le (digitsValue_lt_pow (isDigitRow_whole _))
            (Nat.pow_le_pow_right (by decide) (Nat.not_lt.mp hlimit))
        split
        · rwa [Int.natAbs_neg, Int.natAbs_natCast]
        · rwa [Int.natAbs_natCast]
    · rw [← (Prod.mk.inj (Except.ok.inj hread)).1]
      exact h.float _

/-- Do the three readers, with some fuel, give only what has the property? -/
structure Holds (P : Nat → Value → Prop) (fuel : Nat) : Prop where
  value : ∀ {depth cursor value after}, readValue depth fuel cursor = .ok (value, after) →
    P depth value
  items : ∀ {depth cursor items after}, readItems depth fuel cursor = .ok (items, after) →
    ∀ item ∈ items, P depth item
  entries : ∀ {depth cursor entries after}, readEntries depth fuel cursor = .ok (entries, after) →
    ∀ entry ∈ entries, P depth entry.2

section Steps

variable {fuel depth : Nat} {cursor after : Cursor}

theorem value_succ (h : IsHereditary P) (ih : Holds P fuel) {value : Value}
    (hread : readValue depth (fuel + 1) cursor = .ok (value, after)) : P depth value := by
  rw [readValue] at hread
  split at hread
  · cases hread
  · rename_i c rest _
    split at hread
    · split at hread
      · cases hread
      · cases hread
        exact h.text _
    · split at hread
      · cases hread
      · rename_i hlimit
        -- What opens a table or a list was let through, so some depth is left for its parts.
        have hdepth (hopen : c.val = 123 ∨ c.val = 91) : depth = depth - 1 + 1 := by
          have hne : depth ≠ 0 := by
            intro hzero
            apply hlimit
            rcases hopen with hopen | hopen <;> simp [hzero, hopen]
          omega
        split at hread
        · rename_i hbrace
          rw [hdepth (.inl hbrace)]
          extract_lets inside at hread
          split at hread
          · cases hread
          · split at hread
            · cases hread
              exact h.table fun _ hentry => absurd hentry List.not_mem_nil
            · split at hread
              · cases hread
              · rename_i hentries
                cases hread
                exact h.table (ih.entries hentries)
        · split at hread
          · rename_i hbracket
            rw [hdepth (.inr hbracket)]
            extract_lets inside at hread
            split at hread
            · cases hread
            · split at hread
              · cases hread
                exact h.list fun _ hitem => absurd hitem List.not_mem_nil
              · split at hread
                · cases hread
                · rename_i hitems
                  cases hread
                  exact h.list (ih.items hitems)
          · split at hread
            · rename_i hword
              cases hread
              exact h.of_readWord hword depth
            · exact h.of_readNumber hread depth

theorem items_succ (ih : Holds P fuel) {items : List Value}
    (hread : readItems depth (fuel + 1) cursor = .ok (items, after)) :
    ∀ item ∈ items, P depth item := by
  rw [readItems] at hread
  split at hread
  · cases hread
  · rename_i hvalue
    extract_lets next at hread
    split at hread
    · cases hread
    · split at hread
      · cases hread
        intro item hitem
        rw [List.mem_singleton.mp hitem]
        exact ih.value hvalue
      · split at hread
        · split at hread
          · cases hread
          · rename_i hitems
            cases hread
            intro item hitem
            rcases List.mem_cons.mp hitem with rfl | hitem
            · exact ih.value hvalue
            · exact ih.items hitems item hitem
        · cases hread

theorem entries_succ (ih : Holds P fuel) {entries : List (Text × Value)}
    (hread : readEntries depth (fuel + 1) cursor = .ok (entries, after)) :
    ∀ entry ∈ entries, P depth entry.2 := by
  rw [readEntries] at hread
  split at hread
  · cases hread
  · split at hread
    · cases hread
    · split at hread
      · cases hread
      · extract_lets afterKey at hread
        split at hread
        · cases hread
        · split at hread
          · cases hread
          · split at hread
            · cases hread
            · rename_i hvalue
              extract_lets next at hread
              split at hread
              · cases hread
              · split at hread
                · cases hread
                  intro entry hentry
                  rw [List.mem_singleton.mp hentry]
                  exact ih.value hvalue
                · split at hread
                  · split at hread
                    · cases hread
                    · rename_i hentries
                      cases hread
                      intro entry hentry
                      rcases List.mem_cons.mp hentry with rfl | hentry
                      · exact ih.value hvalue
                      · exact ih.entries hentries entry hentry
                  · cases hread

end Steps

theorem holds (h : IsHereditary P) (fuel : Nat) : Holds P fuel := by
  induction fuel with
  | zero =>
      constructor
      · intro depth cursor value after hread
        rw [readValue] at hread
        cases hread
      · intro depth cursor items after hread
        rw [readItems] at hread
        cases hread
      · intro depth cursor entries after hread
        rw [readEntries] at hread
        cases hread
  | succ fuel ih =>
      exact ⟨h.value_succ ih, items_succ ih, entries_succ ih⟩

/-- What a text spells has every hereditary property. -/
theorem of_read (h : IsHereditary P) {t : Text} {value : Value} (hread : read t = .ok value) :
    P depthLimit value := by
  unfold read at hread
  split at hread
  · cases hread
  · split at hread
    · cases hread
    · rename_i hvalue
      extract_lets after at hread
      split at hread
      · cases hread
        exact (h.holds _).value hvalue
      · cases hread

end IsHereditary

theorem isHereditary_isReadable : IsHereditary IsReadable where
  word := by
    intro depth word hmem
    simp only [words, List.mem_cons, List.not_mem_nil, or_false] at hmem
    rcases hmem with rfl | rfl | rfl | rfl | rfl | rfl
    · exact .null
    · exact .bool true
    · exact .bool false
    · exact .float .nan
    · exact .float (.infinite false)
    · exact .float (.infinite true)
  int := fun {_ n} _ => .int n
  float := .float
  text := .text
  list := .list
  table := fun h => .table (nodup_keys_foldl_putEntry _ List.nodup_nil)
    fun entry hentry => h entry (mem_tableOf hentry)

end Json

end ContainerDesk
