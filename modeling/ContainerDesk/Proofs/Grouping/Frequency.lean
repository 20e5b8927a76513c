import ContainerDesk.Grouping.Frequency
import ContainerDesk.Proofs.Value.Table
import Mathlib.Data.List.Nodup

/-!
# The index of shared candidates

The index has one entry for each text that stands in a set, and the entry counts the
sets that contain it, each of them once.  So neither the order of the sets, nor the order
inside a set, nor repeats inside a set change the index.
-/

namespace ContainerDesk

namespace Grouping

namespace Frequency

/-!
# Counts
-/

theorem count_nil (candidate : Text) : count [] candidate = 0 := rfl

theorem count_add (index : Frequency) (candidate other : Text) :
    (index.add candidate).count other =
      index.count other + if other = candidate then 1 else 0 := by
  unfold add count
  rw [lookup_putEntry]
  by_cases h : other = candidate
  · simp [h]
  · simp [h]

theorem count_foldl_add {candidates : List Text} (h : candidates.Nodup) (index : Frequency)
    (other : Text) :
    (candidates.foldl add index).count other =
      index.count other + if other ∈ candidates then 1 else 0 := by
  induction candidates generalizing index with
  | nil => simp
  | cons candidate rest ih =>
      have ⟨hnew, hrest⟩ := List.nodup_cons.mp h
      rw [List.foldl_cons, ih hrest, count_add]
      by_cases hother : other = candidate
      · subst hother
        simp [hnew]
      · simp [hother]

def spread (sets : List (List Text)) (candidate : Text) : Nat :=
  sets.countP fun set => decide (candidate ∈ set)

/-- The index counts the sets that contain a candidate. -/
theorem count_ofCandidates (sets : List (List Text)) (candidate : Text) :
    (ofCandidates sets).count candidate = spread sets candidate := by
  -- The sets that are left add to what any index made so far has counted.
  have hrun : ∀ index : Frequency,
      (sets.foldl (fun index candidates => (distinct candidates).foldl add index) index).count
          candidate =
        index.count candidate + spread sets candidate := by
    unfold spread
    induction sets with
    | nil => intro index; simp
    | cons set rest ih =>
        intro index
        rw [List.foldl_cons, ih, count_foldl_add (nodup_distinct set), List.countP_cons]
        by_cases h : candidate ∈ set
        · simp only [mem_distinct, h, if_true, decide_true]
          omega
        · simp [mem_distinct, h]
  rw [ofCandidates, hrun, count_nil, Int.zero_add]

/-!
# Entries
-/

def keys (index : Frequency) : List Text :=
  index.map (·.1)

theorem mem_keys_add {index : Frequency} {candidate other : Text} :
    other ∈ (index.add candidate).keys ↔ other = candidate ∨ other ∈ index.keys := by
  unfold add keys
  by_cases h : candidate ∈ index.map (·.1)
  · rw [keys_putEntry_of_mem _ h]
    constructor
    · exact Or.inr
    · rintro (rfl | hother)
      · exact h
      · exact hother
  · rw [keys_putEntry_of_not_mem _ h, List.mem_append, List.mem_singleton, or_comm]

theorem mem_keys_foldl_add {index : Frequency} {candidates : List Text} {other : Text} :
    other ∈ (candidates.foldl add index).keys ↔ other ∈ candidates ∨ other ∈ index.keys := by
  induction candidates generalizing index with
  | nil => simp
  | cons candidate rest ih =>
      rw [List.foldl_cons, ih, mem_keys_add, List.mem_cons, or_left_comm, or_assoc]

theorem nodup_keys_foldl_add {index : Frequency} (h : index.keys.Nodup) (candidates : List Text) :
    (candidates.foldl add index).keys.Nodup := by
  induction candidates generalizing index with
  | nil => exact h
  | cons candidate rest ih => exact ih (nodup_keys_putEntry _ h)

theorem mem_keys_ofCandidates {sets : List (List Text)} {candidate : Text} :
    candidate ∈ (ofCandidates sets).keys ↔ ∃ set ∈ sets, candidate ∈ set := by
  have hrun : ∀ index : Frequency,
      candidate ∈ (sets.foldl (fun index candidates => (distinct candidates).foldl add index)
          index).keys ↔ (∃ set ∈ sets, candidate ∈ set) ∨ candidate ∈ index.keys := by
    induction sets with
    | nil => intro index; simp
    | cons set rest ih =>
        intro index
        rw [List.foldl_cons, ih, mem_keys_foldl_add, mem_distinct, List.exists_mem_cons_iff,
          or_left_comm, or_assoc]
  rw [ofCandidates, hrun]
  exact or_iff_left List.not_mem_nil

theorem nodup_keys_ofCandidates (sets : List (List Text)) : (ofCandidates sets).keys.Nodup := by
  have hrun : ∀ index : Frequency, index.keys.Nodup →
      (sets.foldl (fun index candidates => (distinct candidates).foldl add index)
        index).keys.Nodup := by
    induction sets with
    | nil => exact fun _ h => h
    | cons set rest ih => exact fun _ h => ih _ (nodup_keys_foldl_add h _)
  exact hrun [] List.nodup_nil

theorem mem_ofCandidates {sets : List (List Text)} {candidate : Text} {count : Int} :
    (candidate, count) ∈ ofCandidates sets ↔
      (∃ set ∈ sets, candidate ∈ set) ∧ count = spread sets candidate := by
  have hcount := count_ofCandidates sets candidate
  unfold Frequency.count at hcount
  constructor
  · intro hmem
    rw [lookup_of_mem (nodup_keys_ofCandidates sets) hmem] at hcount
    exact ⟨mem_keys_ofCandidates.mp (List.mem_map.mpr ⟨_, hmem, rfl⟩), hcount⟩
  · rintro ⟨hoccurs, rfl⟩
    rcases List.mem_map.mp (mem_keys_ofCandidates.mpr hoccurs) with ⟨⟨key, count⟩, hmem, hkey⟩
    obtain rfl : key = candidate := hkey
    rw [lookup_of_mem (nodup_keys_ofCandidates sets) hmem] at hcount
    rw [← hcount]
    exact hmem

/-!
# Rearranging
-/

/-- Can a list of sets be made of another by moving sets, by moving texts inside a set, and by
repeating texts inside a set or taking repeats away? -/
inductive IsRearranged : List (List Text) → List (List Text) → Prop where
  | sets {sets others : List (List Text)} (h : sets.Perm others) : IsRearranged sets others
  | within (before after : List (List Text)) {set other : List Text} (h : set.Perm other) :
      IsRearranged (before ++ set :: after) (before ++ other :: after)
  | repeated (before after : List (List Text)) {set : List Text} {candidate : Text}
      (h : candidate ∈ set) :
      IsRearranged (before ++ set :: after) (before ++ (candidate :: set) :: after)
  | symm {sets others : List (List Text)} (h : IsRearranged sets others) :
      IsRearranged others sets
  | trans {sets others more : List (List Text)} (hothers : IsRearranged sets others)
      (hmore : IsRearranged others more) : IsRearranged sets more

theorem spread_congr (before after : List (List Text)) {set other : List Text} {candidate : Text}
    (h : candidate ∈ set ↔ candidate ∈ other) :
    spread (before ++ set :: after) candidate = spread (before ++ other :: after) candidate := by
  simp only [spread, List.countP_append, List.countP_cons, h]

theorem IsRearranged.spread_eq {sets others : List (List Text)} (h : IsRearranged sets others)
    (candidate : Text) : spread sets candidate = spread others candidate := by
  induction h with
  | sets h => exact h.countP_eq _
  | within before after h => exact spread_congr before after h.mem_iff
  | repeated before after h =>
      apply spread_congr before after
      rw [List.mem_cons]
      exact (or_iff_right_of_imp fun heq => heq ▸ h).symm
  | symm _ ih => exact ih.symm
  | trans _ _ ih ih' => exact ih.trans ih'

theorem spread_pos_iff {sets : List (List Text)} {candidate : Text} :
    0 < spread sets candidate ↔ ∃ set ∈ sets, candidate ∈ set := by
  simp [spread, List.countP_pos_iff]

theorem ofCandidates_perm {sets others : List (List Text)}
    (h : ∀ candidate, spread sets candidate = spread others candidate) :
    (ofCandidates sets).Perm (ofCandidates others) := by
  rw [List.perm_ext_iff_of_nodup (List.Nodup.of_map _ (nodup_keys_ofCandidates sets))
    (List.Nodup.of_map _ (nodup_keys_ofCandidates others))]
  rintro ⟨candidate, count⟩
  rw [mem_ofCandidates, mem_ofCandidates, ← spread_pos_iff, ← spread_pos_iff, h]

/-- The index maps each text to the number of sets that contain it, and has one entry for each text
that stands in a set, none for others.  Rearranging the sets does not change the entries. -/
theorem ofCandidates_counts (sets : List (List Text)) :
    (∀ candidate, (ofCandidates sets).count candidate = spread sets candidate) ∧
      (ofCandidates sets).keys.Nodup ∧
      (∀ candidate, candidate ∈ (ofCandidates sets).keys ↔ ∃ set ∈ sets, candidate ∈ set) ∧
      ∀ others, IsRearranged sets others → (ofCandidates sets).Perm (ofCandidates others) := by
  refine ⟨count_ofCandidates sets, nodup_keys_ofCandidates sets,
    fun _ => mem_keys_ofCandidates, ?_⟩
  intro others hothers
  exact ofCandidates_perm hothers.spread_eq

/-- Sets and texts in another order, and a text twice in its set. -/
theorem ofCandidates_counts_rearranged :
    IsRearranged [[Text.of "web", Text.of "web-1"], [Text.of "web"]]
        [[Text.of "web"], [Text.of "web", Text.of "web-1", Text.of "web"]] ∧
      (ofCandidates [[Text.of "web", Text.of "web-1"], [Text.of "web"]]).count (Text.of "web") =
        2 ∧
      (ofCandidates [[Text.of "web", Text.of "web-1"], [Text.of "web"]]).Perm
        (ofCandidates [[Text.of "web"], [Text.of "web", Text.of "web-1", Text.of "web"]]) := by
  have hrearranged : IsRearranged [[Text.of "web", Text.of "web-1"], [Text.of "web"]]
      [[Text.of "web"], [Text.of "web", Text.of "web-1", Text.of "web"]] :=
    .trans (.sets (.swap _ _ _))
      (.trans (.repeated [[Text.of "web"]] [] List.mem_cons_self)
        (.within [[Text.of "web"]] [] (.cons _ (.swap _ _ _))))
  have hcounts := ofCandidates_counts [[Text.of "web", Text.of "web-1"], [Text.of "web"]]
  exact ⟨hrearranged, (hcounts.1 _).trans (by decide), hcounts.2.2.2 _ hrearranged⟩

/-- A text counts once for each set, also where the set repeats it. -/
example : ofCandidates [[Text.of "b", Text.of "b", Text.of "a"], [], [Text.of "a"]] =
    [(Text.of "b", 1), (Text.of "a", 2)] := by decide

end Frequency

end Grouping

end ContainerDesk
