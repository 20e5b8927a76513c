import ContainerDesk.Grouping.Candidate
import ContainerDesk.Proofs.Text.Basic

/-!
# Cuts of a label

A cut of a label is what stands in front of one of its separators, where that is not
nothing.  The candidates of a container are its label and the cuts of it.

Candidates of one label stand in each other: a candidate of a candidate is one of the
label, and of two candidates of a label the shorter one is a candidate of the longer
one.  The shortest of them is the first segment, and all of them have it in common.
-/

namespace ContainerDesk

theorem Container.trim_label (container : Container) : container.label.trim = container.label := by
  unfold Container.label
  simp only
  split
  · exact Text.trim_trim container.id
  · exact Text.trim_trim container.name

theorem Container.label_eq_nil_iff {container : Container} :
    container.label = [] ↔ container.name.trim = [] ∧ container.id.trim = [] := by
  unfold Container.label
  by_cases h : container.name.trim = []
  · simp [h]
  · simp [h]

namespace Grouping

/-- Does a text, which is not empty, stand in front of a separator at the start of a label? -/
def IsCut (label part : Text) : Prop :=
  part ≠ [] ∧ ∃ (c : CodePoint) (rest : Text), c.isSeparator = true ∧ label = part ++ c :: rest

def IsCandidate (label part : Text) : Prop :=
  part = label ∨ IsCut label part

/-- Is a text the shortest cut of a label, or the whole label where there is no cut? -/
def IsFirstSegment (label part : Text) : Prop :=
  (IsCut label part ∧ ∀ other, IsCut label other → part.length ≤ other.length) ∨
    (part = label ∧ ∀ other, ¬ IsCut label other)

/-!
# The candidates of a container
-/

theorem mem_separatedPrefixes {seen rest part : Text} :
    part ∈ separatedPrefixes seen rest ↔
      part ≠ [] ∧ ∃ (before : Text) (c : CodePoint) (after : Text),
        c.isSeparator = true ∧ rest = before ++ c :: after ∧ part = seen ++ before := by
  induction rest generalizing seen with
  | nil => simp [separatedPrefixes]
  | cons d rest ih =>
      have hmem : part ∈ separatedPrefixes seen (d :: rest) ↔
          (d.isSeparator = true ∧ seen ≠ [] ∧ part = seen) ∨
            part ∈ separatedPrefixes (seen ++ [d]) rest := by
        by_cases hd : d.isSeparator = true ∧ seen ≠ []
        · simp [separatedPrefixes, hd]
        · have hskip : (d.isSeparator && !seen.isEmpty) = false := by
            simpa [List.isEmpty_iff] using hd
          simp only [separatedPrefixes, hskip, Bool.false_eq_true, if_false]
          constructor
          · exact Or.inr
          · rintro (⟨hsep, hseen, _⟩ | h)
            · exact absurd ⟨hsep, hseen⟩ hd
            · exact h
      rw [hmem, ih]
      constructor
      · rintro (⟨hsep, hseen, rfl⟩ | ⟨hne, before, c, after, hsep, rfl, rfl⟩)
        · exact ⟨hseen, [], d, rest, hsep, rfl, (List.append_nil part).symm⟩
        · exact ⟨hne, d :: before, c, after, hsep, rfl, by simp⟩
      · rintro ⟨hne, before, c, after, hsep, hrest, rfl⟩
        cases before with
        | nil =>
            have hdc : d = c := (List.cons.inj hrest).1
            exact Or.inl ⟨hdc ▸ hsep, by simpa using hne, by simp⟩
        | cons e before =>
            have hde : d = e := (List.cons.inj hrest).1
            have htail : rest = before ++ c :: after := (List.cons.inj hrest).2
            exact Or.inr ⟨hne, before, c, after, hsep, htail, by simp [hde]⟩

theorem mem_separatedPrefixes_nil {label part : Text} :
    part ∈ separatedPrefixes [] label ↔ IsCut label part := by
  rw [mem_separatedPrefixes]
  constructor
  · rintro ⟨hne, before, c, after, hsep, hlabel, rfl⟩
    exact ⟨hne, c, after, hsep, hlabel⟩
  · rintro ⟨hne, c, rest, hsep, hlabel⟩
    exact ⟨hne, part, c, rest, hsep, hlabel, rfl⟩

theorem stripInstanceNumber_eq_or (name : Text) :
    stripInstanceNumber name = name ∨
      ∃ (c : CodePoint) (digits : Text),
        c.isSeparator = true ∧ digits ≠ [] ∧ (∀ d ∈ digits, d.isDigit = true) ∧
          name = stripInstanceNumber name ++ c :: digits := by
  unfold stripInstanceNumber
  simp only
  split
  · exact Or.inl rfl
  · rename_i c before hdrop
    split
    · rename_i hcond
      rcases Bool.and_eq_true_iff.mp hcond with ⟨hsep, hdigits⟩
      refine Or.inr ⟨c, (name.reverse.takeWhile CodePoint.isDigit).reverse, hsep, ?_, ?_, ?_⟩
      · simpa [List.isEmpty_iff] using hdigits
      · intro d hd
        exact List.all_eq_true.mp List.all_takeWhile d (List.mem_reverse.mp hd)
      · have hname : name.reverse = name.reverse.takeWhile CodePoint.isDigit ++ c :: before := by
          rw [← hdrop, List.takeWhile_append_dropWhile]
        simpa using congrArg List.reverse hname
    · exact Or.inl rfl

theorem isCandidate_stripInstanceNumber {name : Text} (h : stripInstanceNumber name ≠ []) :
    IsCandidate name (stripInstanceNumber name) := by
  rcases stripInstanceNumber_eq_or name with hself | ⟨c, digits, hsep, _, _, hname⟩
  · exact Or.inl hself
  · exact Or.inr ⟨h, c, digits, hsep, hname⟩

theorem mem_candidates {name part : Text} :
    part ∈ candidates name ↔ name.trim ≠ [] ∧ IsCandidate name.trim part := by
  unfold candidates
  by_cases hempty : name.trim = []
  · simp [hempty]
  · have hne : name.trim.isEmpty = false := by simpa [List.isEmpty_iff] using hempty
    simp only [hne, Bool.false_eq_true, if_false, mem_distinct, List.mem_append,
      List.mem_singleton, List.mem_filter, mem_separatedPrefixes_nil]
    constructor
    · rintro ((rfl | ⟨rfl, hpart⟩) | hcut)
      · exact ⟨hempty, Or.inl rfl⟩
      · exact ⟨hempty, isCandidate_stripInstanceNumber (by simpa [List.isEmpty_iff] using hpart)⟩
      · exact ⟨hempty, Or.inr hcut⟩
    · rintro ⟨_, rfl | hcut⟩
      · exact Or.inl (Or.inl rfl)
      · exact Or.inr hcut

theorem mem_candidatesOf {container : Container} {part : Text} :
    part ∈ candidatesOf container ↔
      container.label ≠ [] ∧ IsCandidate container.label part := by
  rw [candidatesOf, mem_candidates, Container.trim_label]

/-!
# Candidates of candidates
-/

theorem IsCandidate.ne_nil {label part : Text} (hlabel : label ≠ [])
    (h : IsCandidate label part) : part ≠ [] := by
  rcases h with rfl | ⟨hne, _⟩
  · exact hlabel
  · exact hne

theorem IsCandidate.isPrefix {label part : Text} (h : IsCandidate label part) :
    part <+: label := by
  rcases h with rfl | ⟨_, c, rest, _, rfl⟩
  · exact List.prefix_refl part
  · exact List.prefix_append part (c :: rest)

theorem IsCandidate.trans {label part piece : Text} (hpart : IsCandidate label part)
    (hpiece : IsCandidate part piece) : IsCandidate label piece := by
  rcases hpiece with rfl | ⟨hne, c, rest, hsep, rfl⟩
  · exact hpart
  · rcases hpart with rfl | ⟨_, d, tail, _, rfl⟩
    · exact Or.inr ⟨hne, c, rest, hsep, rfl⟩
    · exact Or.inr ⟨hne, c, rest ++ d :: tail, hsep, by simp⟩

theorem IsCandidate.eq_of_length_eq {label part other : Text} (hpart : IsCandidate label part)
    (hother : IsCandidate label other) (h : part.length = other.length) : part = other :=
  (List.prefix_of_prefix_length_le hpart.isPrefix hother.isPrefix
    (Nat.le_of_eq h)).eq_of_length h

/-- Of two candidates of a label the shorter one is a candidate of the longer one. -/
theorem IsCandidate.of_length_le {label part other : Text} (hpart : IsCandidate label part)
    (hother : IsCandidate label other) (hle : part.length ≤ other.length) :
    IsCandidate other part := by
  rcases List.prefix_of_prefix_length_le hpart.isPrefix hother.isPrefix hle with ⟨tail, rfl⟩
  cases tail with
  | nil => exact Or.inl (List.append_nil part).symm
  | cons d tail =>
      rcases hpart with rfl | ⟨hne, c, rest, hsep, rfl⟩
      · have hlength := hother.isPrefix.length_le
        rw [List.length_append, List.length_cons] at hlength
        omega
      · rcases hother.isPrefix with ⟨more, hmore⟩
        rw [List.append_assoc, List.append_cancel_left_eq, List.cons_append] at hmore
        exact Or.inr ⟨hne, d, tail, (List.cons.inj hmore).1 ▸ hsep, rfl⟩

/-!
# First segments
-/

theorem isCandidate_firstSegment {label : Text} (h : label ≠ []) :
    IsCandidate label (firstSegment label) := by
  cases label with
  | nil => exact absurd rfl h
  | cons c rest =>
      have hrest : rest = rest.takeWhile (fun d => !d.isSeparator) ++
          rest.dropWhile fun d => !d.isSeparator := List.takeWhile_append_dropWhile.symm
      cases hdrop : rest.dropWhile fun d => !d.isSeparator with
      | nil =>
          left
          rw [hdrop, List.append_nil] at hrest
          rw [firstSegment, ← hrest]
      | cons d after =>
          have hsep : d.isSeparator = true := by
            have := List.head?_dropWhile_not (fun d : CodePoint => !d.isSeparator) rest
            rw [hdrop] at this
            simpa using this
          rw [hdrop] at hrest
          refine Or.inr ⟨by simp [firstSegment], d, after, hsep, ?_⟩
          rw [firstSegment, List.cons_append, ← hrest]

/-- A label and its candidates start with the same segment. -/
theorem IsCandidate.firstSegment_eq {label part : Text} (hlabel : label ≠ [])
    (h : IsCandidate label part) : firstSegment part = firstSegment label := by
  rcases h with rfl | ⟨hne, c, rest, hsep, rfl⟩
  · rfl
  · cases part with
    | nil => exact absurd rfl hne
    | cons d part =>
        have hall : (part.takeWhile fun d => !d.isSeparator).length = part.length →
            (part.takeWhile fun d => !d.isSeparator) = part :=
          (List.takeWhile_prefix _).eq_of_length
        simpa [firstSegment, List.takeWhile_append, hsep] using hall

theorem isFirstSegment_iff {label part : Text} (h : label ≠ []) :
    IsFirstSegment label part ↔ part = firstSegment label := by
  have hfirst : IsCandidate label (firstSegment label) := isCandidate_firstSegment h
  have hleast : ∀ other, IsCut label other → (firstSegment label).length ≤ other.length := by
    intro other hother
    have heq : firstSegment other = firstSegment label :=
      IsCandidate.firstSegment_eq h (Or.inr hother)
    rw [← heq]
    exact (isCandidate_firstSegment hother.1).isPrefix.length_le
  constructor
  · rintro (⟨hcut, hmin⟩ | ⟨rfl, hnone⟩)
    · apply IsCandidate.eq_of_length_eq (Or.inr hcut) hfirst
      rcases hfirst with hself | hcut'
      · have hle : part.length ≤ label.length := (IsCandidate.isPrefix (Or.inr hcut)).length_le
        have hge := hleast part hcut
        rw [hself] at hge ⊢
        omega
      · exact Nat.le_antisymm (hmin _ hcut') (hleast part hcut)
    · rcases hfirst with hself | hcut
      · exact hself.symm
      · exact absurd hcut (hnone _)
  · rintro rfl
    rcases hfirst with hself | hcut
    · refine Or.inr ⟨hself, ?_⟩
      intro other hother
      -- A cut would be shorter than the label and yet no shorter than the first segment.
      have hge := hleast other hother
      rcases hother with ⟨_, c, rest, _, hlabel⟩
      have := congrArg List.length hlabel
      rw [hself] at hge
      simp at this
      omega
    · exact Or.inl ⟨hcut, hleast⟩

theorem isFirstSegment_nil_iff {part : Text} : IsFirstSegment [] part ↔ part = [] := by
  have hnone : ∀ other, ¬ IsCut [] other := by
    rintro other ⟨_, c, rest, _, hlabel⟩
    exact absurd hlabel.symm (List.append_ne_nil_of_right_ne_nil other (List.cons_ne_nil c rest))
  constructor
  · rintro (⟨hcut, _⟩ | ⟨hself, _⟩)
    · exact absurd hcut (hnone part)
    · exact hself
  · intro hself
    exact Or.inr ⟨hself, hnone⟩

theorem eq_firstSegment_iff {label part : Text} :
    part = firstSegment label ↔ IsFirstSegment label part := by
  by_cases h : label = []
  · rw [h, isFirstSegment_nil_iff]
    rfl
  · exact (isFirstSegment_iff h).symm

instance (label part : Text) : Decidable (IsFirstSegment label part) :=
  decidable_of_iff (part = firstSegment label) eq_firstSegment_iff

end Grouping

end ContainerDesk
