import ContainerDesk.Proofs.Grouping.Segment

/-!
# The order of candidates

The candidates of a name stand in a fixed order: the name itself, then the name without
its instance number where it has one, then all other cuts from the shortest to the
longest.  The name without its instance number is the longest of the cuts.
-/

namespace ContainerDesk

theorem distinct_sublist {α : Type} [DecidableEq α] (xs : List α) :
    (distinct xs).Sublist xs := by
  induction xs with
  | nil => exact List.Sublist.refl []
  | cons x rest ih => exact (List.filter_sublist.trans ih).cons_cons x

theorem CodePoint.isSeparator_eq_false_of_isDigit {c : CodePoint} (h : c.isDigit = true) :
    c.isSeparator = false := by
  simp only [isDigit, isSeparator, Bool.and_eq_true, Bool.or_eq_false_iff, decide_eq_true_eq,
    decide_eq_false_iff_not] at h ⊢
  omega

namespace Grouping

/-- Is a label a text, which is not empty, with a separator and an instance number behind it?  The
number is written in the digits `0` to `9`. -/
def IsNumbered (label part : Text) : Prop :=
  part ≠ [] ∧ ∃ (c : CodePoint) (digits : Text),
    c.isSeparator = true ∧ digits ≠ [] ∧ (∀ d ∈ digits, d.isDigit = true) ∧
      label = part ++ c :: digits

def IsRising (texts : List Text) : Prop :=
  texts.Pairwise fun first second => first.length < second.length

/-- The orders in which the candidates of a label may stand. -/
inductive IsArranged : Text → List Text → Prop where
  | none : IsArranged [] []
  | numbered {label part : Text} {rest : List Text} (hpart : IsNumbered label part)
      (longest : ∀ cut, IsCut label cut → cut.length ≤ part.length) (rising : IsRising rest) :
      IsArranged label (label :: part :: rest)
  | plain {label : Text} {rest : List Text} (hlabel : label ≠ [])
      (hnone : ∀ part, ¬ IsNumbered label part) (rising : IsRising rest) :
      IsArranged label (label :: rest)

variable {label part : Text}

/-!
# Numbered labels
-/

/-- No separator stands behind the one before the instance number. -/
theorem IsNumbered.length_le {cut : Text} (h : IsNumbered label part) (hcut : IsCut label cut) :
    cut.length ≤ part.length := by
  rcases h with ⟨_, c, digits, _, _, hdigits, rfl⟩
  rcases hcut with ⟨_, d, rest, hsep, hlabel⟩
  rcases List.append_eq_append_iff.mp hlabel with ⟨between, rfl, htail⟩ | ⟨between, rfl, _⟩
  · cases between with
    | nil => simp
    | cons e between =>
        have hdigit : d ∈ digits := by
          rw [(List.cons.inj htail).2]
          exact List.mem_append_right between List.mem_cons_self
        rw [CodePoint.isSeparator_eq_false_of_isDigit (hdigits d hdigit)] at hsep
        cases hsep
  · rw [List.length_append]
    exact Nat.le_add_right _ _

theorem stripInstanceNumber_of_isNumbered (h : IsNumbered label part) :
    stripInstanceNumber label = part := by
  rcases h with ⟨_, c, digits, hsep, hne, hdigits, rfl⟩
  have hreverse : ∀ d ∈ digits.reverse, d.isDigit = true :=
    fun d hd => hdigits d (List.mem_reverse.mp hd)
  have hstop : c.isDigit = false := by
    cases hdigit : c.isDigit with
    | false => rfl
    | true =>
        rw [CodePoint.isSeparator_eq_false_of_isDigit hdigit] at hsep
        cases hsep
  simp [stripInstanceNumber, List.dropWhile_append_of_pos hreverse,
    List.takeWhile_append_of_pos hreverse, hstop, hsep, hne]

theorem stripInstanceNumber_of_not_isNumbered (h : ∀ part, ¬ IsNumbered label part) :
    stripInstanceNumber label = label ∨ stripInstanceNumber label = [] := by
  rcases stripInstanceNumber_eq_or label with hself | ⟨c, digits, hsep, hne, hdigits, hlabel⟩
  · exact Or.inl hself
  · refine Or.inr (Decidable.byContradiction fun hpart => ?_)
    exact h _ ⟨hpart, c, digits, hsep, hne, hdigits, hlabel⟩

/-!
# The order
-/

theorem isRising_separatedPrefixes (seen rest : Text) : IsRising (separatedPrefixes seen rest) := by
  induction rest generalizing seen with
  | nil => exact List.Pairwise.nil
  | cons c rest ih =>
      unfold separatedPrefixes
      simp only
      split
      · refine List.Pairwise.cons ?_ (ih (seen ++ [c]))
        intro later hlater
        rcases mem_separatedPrefixes.mp hlater with ⟨_, before, _, _, _, _, rfl⟩
        simp only [List.length_append, List.length_singleton]
        omega
      · exact ih (seen ++ [c])

theorem IsRising.sublist {texts others : List Text} (h : IsRising texts)
    (hothers : others.Sublist texts) : IsRising others :=
  List.Pairwise.sublist hothers h

theorem candidates_eq_nil {name : Text} : candidates name = [] ↔ name.trim = [] := by
  constructor
  · intro hnone
    apply Decidable.byContradiction
    intro hname
    have hself : name.trim ∈ candidates name := mem_candidates.mpr ⟨hname, Or.inl rfl⟩
    rw [hnone] at hself
    exact List.not_mem_nil hself
  · intro hname
    rw [candidates, hname]
    rfl

theorem candidates_of_isNumbered {name : Text} (h : IsNumbered name.trim part) :
    ∃ rest, candidates name = name.trim :: part :: rest ∧ IsRising rest := by
  have hname : name.trim ≠ [] := by
    rcases h with ⟨_, c, digits, _, _, _, hname⟩
    rw [hname]
    simp
  have hpart : part ≠ name.trim := by
    rcases h with ⟨_, c, digits, _, _, _, hname⟩
    intro hself
    have hlength := congrArg List.length hname
    rw [← hself, List.length_append, List.length_cons] at hlength
    omega
  refine ⟨((distinct (separatedPrefixes [] name.trim)).filter (· ≠ part)).filter (· ≠ name.trim),
    ?_, (isRising_separatedPrefixes [] name.trim).sublist
      (List.filter_sublist.trans (List.filter_sublist.trans (distinct_sublist _)))⟩
  simp [candidates, distinct, stripInstanceNumber_of_isNumbered h, hname, h.1, hpart]

theorem candidates_of_not_isNumbered {name : Text} (hname : name.trim ≠ [])
    (h : ∀ part, ¬ IsNumbered name.trim part) :
    ∃ rest, candidates name = name.trim :: rest ∧ IsRising rest := by
  refine ⟨(distinct (separatedPrefixes [] name.trim)).filter (· ≠ name.trim), ?_,
    (isRising_separatedPrefixes [] name.trim).sublist
      (List.filter_sublist.trans (distinct_sublist _))⟩
  rcases stripInstanceNumber_of_not_isNumbered h with hself | hnothing
  · simp [candidates, distinct, hself, hname]
  · simp [candidates, distinct, hnothing, hname]

/-- The candidates of a name: none exactly where the name is blank, no two the same, the name
without blanks around it and the cuts of that, in their order. -/
theorem candidates_arranged (name : Text) :
    (candidates name = [] ↔ name.trim = []) ∧
      (candidates name).Nodup ∧
      (∀ part, part ∈ candidates name ↔
        name.trim ≠ [] ∧ (part = name.trim ∨ IsCut name.trim part)) ∧
      IsArranged name.trim (candidates name) := by
  refine ⟨candidates_eq_nil, ?_, fun part => mem_candidates, ?_⟩
  · unfold candidates
    simp only
    split
    · exact List.nodup_nil
    · exact nodup_distinct _
  · by_cases hname : name.trim = []
    · rw [candidates_eq_nil.mpr hname, hname]
      exact .none
    · by_cases hnumbered : ∃ part, IsNumbered name.trim part
      · rcases hnumbered with ⟨part, hpart⟩
        rcases candidates_of_isNumbered hpart with ⟨rest, hrest, hrising⟩
        rw [hrest]
        exact .numbered hpart (fun cut => hpart.length_le) hrising
      · have hnone : ∀ part, ¬ IsNumbered name.trim part := not_exists.mp hnumbered
        rcases candidates_of_not_isNumbered hname hnone with ⟨rest, hrest, hrising⟩
        rw [hrest]
        exact .plain hname hnone hrising

/-- The instance number goes first, and a doubled separator makes a cut that ends in one. -/
example : candidates (Text.of " a--b_1 ") =
    [Text.of "a--b_1", Text.of "a--b", Text.of "a", Text.of "a-"] := by decide

end Grouping

end ContainerDesk
