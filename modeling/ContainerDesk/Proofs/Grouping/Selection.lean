import ContainerDesk.Grouping.Selection
import Mathlib.Data.Prod.Lex

/-!
# The choice of a key

Candidates are compared by how many containers share them, then by their length.  Of the
candidates that may become a key, the best one is the first that none is above: those in
front of it are below it, and those behind it are not above it.

There is at most one best candidate, and the choice of a key ends with it, whatever the
candidates are, in any order and with repeats.
-/

namespace ContainerDesk

namespace Grouping

/-!
# The best candidate
-/

/-- Is a text, if any, the best of some candidates: one that may become a key, preferred to all
such candidates in front of it, and none behind it preferred to it? -/
def IsBest (index : Frequency) (candidates : List Text) : Option Text → Prop
  | none => ∀ other ∈ candidates, isEligible index other = false
  | some leader =>
      isEligible index leader = true ∧
        ∃ before after, candidates = before ++ leader :: after ∧
          (∀ other ∈ before, isEligible index other = true → outranks index leader other = true) ∧
          (∀ other ∈ after, isEligible index other = true → outranks index other leader = false)

theorem outranks_eq_true {index : Frequency} {candidate other : Text} :
    outranks index candidate other = true ↔
      index.count other < index.count candidate ∨
        (index.count other = index.count candidate ∧ other.length < candidate.length) := by
  simp [outranks]

theorem outranks_trans {index : Frequency} {first second third : Text}
    (hfirst : outranks index first second = true) (hsecond : outranks index second third = true) :
    outranks index first third = true := by
  rw [outranks_eq_true] at hfirst hsecond ⊢
  omega

theorem outranks_of_not_outranks {index : Frequency} {first second third : Text}
    (hfirst : outranks index first second = true) (hthird : outranks index third second = false) :
    outranks index first third = true := by
  have hthird : ¬ outranks index third second = true := by simp [hthird]
  rw [outranks_eq_true] at hfirst hthird ⊢
  omega

theorem outranks_asymm {index : Frequency} {first second : Text}
    (h : outranks index first second = true) : outranks index second first = false := by
  cases hback : outranks index second first with
  | false => rfl
  | true =>
      rw [outranks_eq_true] at h hback
      omega

theorem IsBest.better {index : Frequency} {seen : List Text} {best : Option Text}
    (h : IsBest index seen best) (candidate : Text) :
    IsBest index (seen ++ [candidate]) (better index best candidate) := by
  cases heligible : isEligible index candidate with
  | false =>
      simp only [Grouping.better, heligible, Bool.false_eq_true, if_false]
      cases best with
      | none =>
          intro other hother
          rcases List.mem_append.mp hother with hseen | hlast
          · exact h other hseen
          · rw [List.mem_singleton.mp hlast]
            exact heligible
      | some leader =>
          rcases h with ⟨hleader, before, after, hseen, hbefore, hafter⟩
          refine ⟨hleader, before, after ++ [candidate], by simp [hseen], hbefore, ?_⟩
          intro other hother helig
          rcases List.mem_append.mp hother with hmem | hlast
          · exact hafter other hmem helig
          · rw [List.mem_singleton.mp hlast, heligible] at helig
            cases helig
  | true =>
      cases best with
      | none =>
          simp only [Grouping.better, heligible, if_true]
          refine ⟨heligible, seen, [], rfl, ?_, by simp⟩
          intro other hother helig
          rw [h other hother] at helig
          cases helig
      | some leader =>
          rcases h with ⟨hleader, before, after, hseen, hbefore, hafter⟩
          -- Only a candidate that outranks the leader takes its place, and then nothing in front of
          -- it comes up to it.
          cases hout : outranks index candidate leader with
          | true =>
              simp only [Grouping.better, heligible, hout, if_true]
              refine ⟨heligible, seen, [], rfl, ?_, by simp⟩
              intro other hother helig
              rw [hseen] at hother
              rcases List.mem_append.mp hother with hmem | hmem
              · exact outranks_trans hout (hbefore other hmem helig)
              · rcases List.mem_cons.mp hmem with rfl | hmem
                · exact hout
                · exact outranks_of_not_outranks hout (hafter other hmem helig)
          | false =>
              simp only [Grouping.better, heligible, hout, if_true, Bool.false_eq_true, if_false]
              refine ⟨hleader, before, after ++ [candidate], by simp [hseen], hbefore, ?_⟩
              intro other hother helig
              rcases List.mem_append.mp hother with hmem | hlast
              · exact hafter other hmem helig
              · rw [List.mem_singleton.mp hlast]
                exact hout

theorem isBest_foldl_better (index : Frequency) (candidates : List Text) :
    IsBest index candidates (candidates.foldl (better index) none) := by
  have hrun : ∀ (rest seen : List Text) (best : Option Text), IsBest index seen best →
      IsBest index (seen ++ rest) (rest.foldl (better index) best) := by
    intro rest
    induction rest with
    | nil => intro seen best h; simpa using h
    | cons candidate rest ih =>
        intro seen best h
        have hnext := ih (seen ++ [candidate]) (better index best candidate) (h.better candidate)
        simpa using hnext
  exact hrun candidates [] none (by intro other hother; cases hother)

theorem IsBest.outranks_eq_false {index : Frequency} {candidates : List Text} {leader other : Text}
    (h : IsBest index candidates (some leader)) (hother : other ∈ candidates)
    (heligible : isEligible index other = true) : outranks index other leader = false := by
  rcases h with ⟨_, before, after, rfl, hbefore, hafter⟩
  rcases List.mem_append.mp hother with hmem | hmem
  · exact outranks_asymm (hbefore other hmem heligible)
  · rcases List.mem_cons.mp hmem with rfl | hmem
    · cases hself : outranks index other other with
      | false => rfl
      | true => rw [outranks_asymm hself] at hself; cases hself
    · exact hafter other hmem heligible

theorem IsBest.mem {index : Frequency} {candidates : List Text} {leader : Text}
    (h : IsBest index candidates (some leader)) : leader ∈ candidates := by
  rcases h with ⟨_, before, after, rfl, _, _⟩
  simp

theorem eq_or_mem_of_split {first second : Text} {before before' after after' : List Text}
    (h : before ++ first :: after = before' ++ second :: after') :
    first = second ∨ first ∈ before' ∨ second ∈ before := by
  rcases List.append_eq_append_iff.mp h with ⟨between, hbefore, hrest⟩ | ⟨between, hbefore, hrest⟩
  · cases between with
    | nil => exact .inl (List.cons.inj hrest).1
    | cons other between =>
        rw [(List.cons.inj hrest).1, hbefore]
        exact .inr (.inl (by simp))
  · cases between with
    | nil => exact .inl (List.cons.inj hrest).1.symm
    | cons other between =>
        rw [(List.cons.inj hrest).1, hbefore]
        exact .inr (.inr (by simp))

/-- There is only one best candidate: of two, the one in front would be below the other. -/
theorem IsBest.unique {index : Frequency} {candidates : List Text} {best other : Option Text}
    (hbest : IsBest index candidates best) (hother : IsBest index candidates other) :
    best = other := by
  cases best with
  | none =>
      cases other with
      | none => rfl
      | some second => exact absurd (hbest second hother.mem) (by simp [hother.1])
  | some first =>
      cases other with
      | none => exact absurd (hother first hbest.mem) (by simp [hbest.1])
      | some second =>
          have hfirst := hother.outranks_eq_false hbest.mem hbest.1
          have hsecond := hbest.outranks_eq_false hother.mem hother.1
          rcases hbest with ⟨heligible, before, after, hsplit, hbefore, _⟩
          rcases hother with ⟨heligible', before', after', hsplit', hbefore', _⟩
          rcases eq_or_mem_of_split (hsplit.symm.trans hsplit') with heq | hmem | hmem
          · rw [heq]
          · rw [hbefore' first hmem heligible] at hsecond
            cases hsecond
          · rw [hbefore second hmem heligible'] at hfirst
            cases hfirst

/-!
# The order of candidates
-/

/-- What candidates are compared by: first how many share them, then their length. -/
def rank (index : Frequency) (candidate : Text) : Int ×ₗ Nat :=
  toLex (index.count candidate, candidate.length)

theorem outranks_iff_lt {index : Frequency} {candidate other : Text} :
    outranks index candidate other = true ↔ rank index other < rank index candidate := by
  rw [outranks_eq_true, rank, rank, Prod.Lex.toLex_lt_toLex]

theorem isEligible_iff {index : Frequency} {candidate : Text} :
    isEligible index candidate = true ↔ 2 ≤ index.count candidate := by
  rw [isEligible, decide_eq_true_eq, leastShared]

theorem isBest_none_iff {index : Frequency} {candidates : List Text} :
    IsBest index candidates none ↔ ∀ other ∈ candidates, index.count other < 2 := by
  apply forall₂_congr
  intro other _
  rw [← Bool.not_eq_true, isEligible_iff, Int.not_le]

/-- The best candidate stands where none in front of it comes up to it, and none at all is above
it. -/
theorem isBest_some_iff {index : Frequency} {candidates : List Text} {leader : Text} :
    IsBest index candidates (some leader) ↔
      ∃ before after, candidates = before ++ leader :: after ∧ 2 ≤ index.count leader ∧
        (∀ other ∈ candidates, 2 ≤ index.count other → rank index other ≤ rank index leader) ∧
        ∀ other ∈ before, 2 ≤ index.count other → rank index other < rank index leader := by
  constructor
  · intro h
    have hnone : ∀ other ∈ candidates, isEligible index other = true →
        outranks index other leader = false :=
      fun _ => h.outranks_eq_false
    rcases h with ⟨heligible, before, after, hsplit, hbefore, _⟩
    refine ⟨before, after, hsplit, isEligible_iff.mp heligible, ?_, ?_⟩
    · intro other hother hshared
      have hnot := hnone other hother (isEligible_iff.mpr hshared)
      rwa [← Bool.not_eq_true, outranks_iff_lt, not_lt] at hnot
    · intro other hother hshared
      exact outranks_iff_lt.mp (hbefore other hother (isEligible_iff.mpr hshared))
  · rintro ⟨before, after, hsplit, hshared, hnone, hbefore⟩
    refine ⟨isEligible_iff.mpr hshared, before, after, hsplit, ?_, ?_⟩
    · intro other hother heligible
      exact outranks_iff_lt.mpr (hbefore other hother (isEligible_iff.mp heligible))
    · intro other hother heligible
      rw [← Bool.not_eq_true, outranks_iff_lt, not_lt]
      apply hnone other _ (isEligible_iff.mp heligible)
      rw [hsplit]
      exact List.mem_append_right _ (List.mem_cons_of_mem _ hother)

/-!
# The choice
-/

theorem selectKey_of_isBest (label : Text) {candidates : List Text} {index : Frequency}
    {best : Option Text} (h : IsBest index candidates best) :
    selectKey label candidates index = best.getD label := by
  rw [selectKey, (isBest_foldl_better index candidates).unique h]

theorem selectKey_cases (label : Text) (candidates : List Text) (index : Frequency) :
    IsBest index candidates none ∧ selectKey label candidates index = label ∨
      IsBest index candidates (some (selectKey label candidates index)) := by
  have hbest := isBest_foldl_better index candidates
  cases hfold : candidates.foldl (better index) none with
  | none =>
      rw [hfold] at hbest
      exact .inl ⟨hbest, selectKey_of_isBest label hbest⟩
  | some leader =>
      rw [hfold] at hbest
      rw [selectKey_of_isBest label hbest]
      exact .inr hbest

/-- Where two containers or more share a candidate, the key is the best of those: none of them is
shared more often, or as often and longer, and those in front of it fall short of it, so it is the
first of its rank.  Where no candidate is shared, the key is the label, which need not be among the
candidates. -/
theorem selectKey_eq_iff (label : Text) (candidates : List Text) (index : Frequency) (key : Text) :
    selectKey label candidates index = key ↔
      (key = label ∧ ∀ other ∈ candidates, index.count other < 2) ∨
      ∃ before after, candidates = before ++ key :: after ∧ 2 ≤ index.count key ∧
        (∀ other ∈ candidates, 2 ≤ index.count other → rank index other ≤ rank index key) ∧
        ∀ other ∈ before, 2 ≤ index.count other → rank index other < rank index key := by
  have hbest := isBest_foldl_better index candidates
  rw [← isBest_none_iff, ← isBest_some_iff, selectKey]
  constructor
  · intro hkey
    rw [← hkey]
    cases hfold : candidates.foldl (better index) none with
    | none => exact .inl ⟨rfl, hfold ▸ hbest⟩
    | some leader => exact .inr (hfold ▸ hbest)
  · rintro (⟨rfl, hnone⟩ | hsome)
    · rw [hbest.unique hnone]
      rfl
    · rw [hbest.unique hsome]
      rfl

/-- Of two candidates that are shared as often and are as long, the one in front wins.  The label is
longer, but shared less often. -/
example : selectKey (Text.of "web-2-blue")
    [Text.of "web-2-blue", Text.of "db_a", Text.of "web", Text.of "db_b", Text.of "db_a"]
    [(Text.of "db_b", 3), (Text.of "db_a", 3), (Text.of "web", 3), (Text.of "web-2-blue", 2)] =
      Text.of "db_a" := by
  decide

end Grouping

end ContainerDesk
