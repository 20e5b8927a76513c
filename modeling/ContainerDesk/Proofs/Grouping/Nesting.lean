import ContainerDesk.Proofs.Grouping.Sharing

/-!
# Nested candidates

The candidates of a container differ in their lengths and lie in each other: the shorter of
two is a candidate of the longer one.  So whatever has the longer one as a candidate has the
shorter one too, and the longer one is never shared by more containers.

No two candidates of a container come up to each other, then, and the choice of a key does
not depend on their order.  The key is the longest candidate that as many containers share
as the shortest one.
-/

namespace ContainerDesk

theorem CodePoint.isBlank_eq_false_of_isSeparator {c : CodePoint} (h : c.isSeparator = true) :
    c.isBlank = false := by
  simp only [isSeparator, Bool.or_eq_true, decide_eq_true_eq] at h
  rcases h with h | h
  · rw [show c = ⟨45, by decide⟩ from Fin.ext h]
    decide
  · rw [show c = ⟨95, by decide⟩ from Fin.ext h]
    decide

namespace Grouping

/-!
# Candidates of candidates
-/

/-- The shorter of two candidates of a label is one of the candidates that are made of the longer
one.  Blanks at the end of that one are left out, but they stand behind a separator. -/
theorem IsCandidate.mem_candidates {label shorter longer : Text} (hlabel : label.trim = label)
    (hshorter : IsCandidate label shorter) (hlonger : IsCandidate label longer)
    (hlt : shorter.length < longer.length) : shorter ∈ candidates longer := by
  have hfront : longer.dropWhile CodePoint.isBlank = longer := by
    rw [Text.dropWhile_isBlank_eq_self]
    intro c hc
    apply (Text.trim_eq_self.mp hlabel).1 c
    rcases hlonger.isPrefix with ⟨tail, rfl⟩
    exact List.mem_head?_append_of_mem_head? hc
  rcases hshorter.of_length_le hlonger (Nat.le_of_lt hlt) with rfl | ⟨hne, c, rest, hsep, rfl⟩
  · exact absurd hlt (Nat.lt_irrefl _)
  · rcases Text.trim_append_cons hfront (CodePoint.isBlank_eq_false_of_isSeparator hsep) with
      ⟨kept, hkept⟩
    rw [Grouping.mem_candidates, hkept]
    exact ⟨by simp, Or.inr ⟨hne, c, kept, hsep, rfl⟩⟩

variable {container : Container} {shorter longer : Text}

theorem shareCount_le_shareCount (containers : List Container) (h : IsCandidate longer shorter) :
    shareCount containers longer ≤ shareCount containers shorter := by
  apply List.countP_mono_left
  intro other _ hother
  rw [decide_eq_true_eq, mem_candidatesOf] at hother ⊢
  exact ⟨hother.1, hother.2.trans h⟩

theorem count_le_count (containers : List Container) (hshorter : shorter ∈ candidatesOf container)
    (hlonger : longer ∈ candidatesOf container) (hle : shorter.length ≤ longer.length) :
    (indexOf containers).count longer ≤ (indexOf containers).count shorter := by
  rw [count_indexOf, count_indexOf]
  exact Int.ofNat_le.mpr (shareCount_le_shareCount containers
    ((mem_candidatesOf.mp hshorter).2.of_length_le (mem_candidatesOf.mp hlonger).2 hle))

theorem eq_of_length_eq (hshorter : shorter ∈ candidatesOf container)
    (hlonger : longer ∈ candidatesOf container) (h : shorter.length = longer.length) :
    shorter = longer :=
  (mem_candidatesOf.mp hshorter).2.eq_of_length_eq (mem_candidatesOf.mp hlonger).2 h

def IsShortest (candidates : List Text) (part : Text) : Prop :=
  part ∈ candidates ∧ ∀ other ∈ candidates, part.length ≤ other.length

theorem isShortest_firstSegment (hlabel : container.label ≠ []) :
    IsShortest (candidatesOf container) (firstSegment container.label) := by
  refine ⟨mem_candidatesOf.mpr ⟨hlabel, isCandidate_firstSegment hlabel⟩, ?_⟩
  intro other hother
  rw [← firstSegment_of_mem_candidatesOf hother]
  exact (isCandidate_firstSegment ((mem_candidatesOf.mp hother).2.ne_nil hlabel)).isPrefix.length_le

/-!
# A choice without ties
-/

section

variable {index : Frequency} {candidates : List Text} {leader : Text}

/-- Is a candidate one that may become a key, and preferred to all others that may? -/
structure Prevails (index : Frequency) (candidates : List Text) (leader : Text) : Prop where
  mem : leader ∈ candidates
  eligible : isEligible index leader = true
  outranks : ∀ other ∈ candidates, isEligible index other = true → other ≠ leader →
    outranks index leader other = true

theorem Prevails.of_perm {order : List Text} (h : Prevails index candidates leader)
    (horder : order.Perm candidates) : Prevails index order leader where
  mem := horder.mem_iff.mpr h.mem
  eligible := h.eligible
  outranks := fun other hother => h.outranks other (horder.mem_iff.mp hother)

theorem Prevails.isBest (h : Prevails index candidates leader) :
    IsBest index candidates (some leader) := by
  rcases List.eq_append_cons_of_mem h.mem with ⟨before, after, hsplit, hfirst⟩
  refine ⟨h.eligible, before, after, hsplit, ?_, ?_⟩
  · intro other hother heligible
    apply h.outranks other (by simp [hsplit, hother]) heligible
    rintro rfl
    exact hfirst hother
  · intro other hother heligible
    by_cases heq : other = leader
    · rw [heq, ← Bool.not_eq_true, outranks_eq_true]
      omega
    · exact outranks_asymm (h.outranks other (by simp [hsplit, hother]) heligible heq)

/-- Where no two candidates are of one length, the best one prevails. -/
theorem IsBest.prevails (h : IsBest index candidates (some leader))
    (hlength : ∀ part ∈ candidates, ∀ other ∈ candidates,
      part.length = other.length → part = other) : Prevails index candidates leader where
  mem := h.mem
  eligible := h.1
  outranks := by
    intro other hother heligible hne
    have hnot : ¬ outranks index other leader = true := by
      simp [h.outranks_eq_false hother heligible]
    have hlengths : other.length ≠ leader.length :=
      fun heq => hne (hlength other hother leader h.mem heq)
    rw [outranks_eq_true] at hnot ⊢
    omega

end

/-!
# The key of a container
-/

theorem exists_prevails (containers : List Container) (container : Container) :
    (∃ leader, Prevails (indexOf containers) (candidatesOf container) leader) ∨
      IsBest (indexOf containers) (candidatesOf container) none := by
  rcases selectKey_cases container.label (candidatesOf container) (indexOf containers) with
    ⟨hnone, _⟩ | hbest
  · exact Or.inr hnone
  · exact Or.inl ⟨_, hbest.prevails fun _ hpart _ hother => eq_of_length_eq hpart hother⟩

theorem selectKey_of_perm (containers : List Container) (label : Text) {order : List Text}
    (horder : order.Perm (candidatesOf container)) :
    selectKey label order (indexOf containers) =
      selectKey label (candidatesOf container) (indexOf containers) := by
  rcases exists_prevails containers container with ⟨leader, hleader⟩ | hnone
  · rw [selectKey_of_isBest label hleader.isBest,
      selectKey_of_isBest label (hleader.of_perm horder).isBest]
  · have hnone' : IsBest (indexOf containers) order none :=
      fun other hother => hnone other (horder.mem_iff.mp hother)
    rw [selectKey_of_isBest label hnone, selectKey_of_isBest label hnone']

/-- Is a key the longest of the candidates that count as much as one of them? -/
structure IsLongestCounted (index : Frequency) (candidates : List Text) (part key : Text) :
    Prop where
  mem : key ∈ candidates
  count_eq : index.count key = index.count part
  longest : ∀ other ∈ candidates, index.count other = index.count part →
    other.length ≤ key.length

theorem Prevails.isLongestCounted {containers : List Container} {shortest leader : Text}
    (hshortest : IsShortest (candidatesOf container) shortest)
    (h : Prevails (indexOf containers) (candidatesOf container) leader) :
    IsLongestCounted (indexOf containers) (candidatesOf container) shortest leader := by
  have hle := count_le_count containers hshortest.1 h.mem
    (hshortest.2 leader h.mem)
  have hleader := isEligible_iff.mp h.eligible
  have hcount : (indexOf containers).count leader = (indexOf containers).count shortest := by
    by_cases heq : shortest = leader
    · rw [heq]
    · have habove := h.outranks shortest hshortest.1 (isEligible_iff.mpr (by omega)) heq
      rw [outranks_eq_true] at habove
      omega
  refine ⟨h.mem, hcount, ?_⟩
  intro other hother hsame
  by_cases heq : other = leader
  · rw [heq]
  · have habove := h.outranks other hother (isEligible_iff.mpr (by omega)) heq
    rw [outranks_eq_true] at habove
    omega

/-- Two candidates of a container differ in length, and the shorter one is made of the longer one
and counts at least as much.  So the key does not depend on the order of the candidates: it is the
longest one that counts as much as the shortest one, if that is shared, and the label otherwise. -/
theorem selectKey_nested (containers : List Container) (container : Container) :
    (∀ part ∈ candidatesOf container, ∀ other ∈ candidatesOf container, part ≠ other →
      part.length ≠ other.length) ∧
    (∀ shorter ∈ candidatesOf container, ∀ longer ∈ candidatesOf container,
      shorter.length < longer.length →
        shorter ∈ candidates longer ∧
          (indexOf containers).count longer ≤ (indexOf containers).count shorter) ∧
    (∀ order, order.Perm (candidatesOf container) →
      selectKey container.label order (indexOf containers) = keyIn containers container) ∧
    (candidatesOf container = [] ∧ keyIn containers container = container.label ∨
      ∃ shortest, IsShortest (candidatesOf container) shortest ∧
        (2 ≤ (indexOf containers).count shortest ∧
            IsLongestCounted (indexOf containers) (candidatesOf container) shortest
              (keyIn containers container) ∨
          (indexOf containers).count shortest < 2 ∧
            keyIn containers container = container.label)) := by
  refine ⟨?_, ?_, ?_, ?_⟩
  · intro part hpart other hother hne heq
    exact hne (eq_of_length_eq hpart hother heq)
  · intro shorter hshorter longer hlonger hlt
    exact ⟨(mem_candidatesOf.mp hshorter).2.mem_candidates container.trim_label
      (mem_candidatesOf.mp hlonger).2 hlt,
      count_le_count containers hshorter hlonger (Nat.le_of_lt hlt)⟩
  · intro order horder
    exact selectKey_of_perm containers container.label horder
  · by_cases hlabel : container.label = []
    · refine Or.inl ⟨?_, by rw [keyIn_of_label_eq_nil containers hlabel, hlabel]⟩
      exact List.eq_nil_iff_forall_not_mem.mpr fun part hpart =>
        (mem_candidatesOf.mp hpart).1 hlabel
    · have hshortest := isShortest_firstSegment hlabel
      refine Or.inr ⟨_, hshortest, ?_⟩
      rcases exists_prevails containers container with ⟨leader, hleader⟩ | hnone
      · have hlongest := hleader.isLongestCounted hshortest
        have hshared := isEligible_iff.mp hleader.eligible
        have hkey : keyIn containers container = leader :=
          selectKey_of_isBest container.label hleader.isBest
        rw [hlongest.count_eq] at hshared
        exact Or.inl ⟨hshared, hkey ▸ hlongest⟩
      · refine Or.inr ⟨?_, selectKey_of_isBest container.label hnone⟩
        have hnot := hnone _ hshortest.1
        rw [← Bool.not_eq_true, isEligible_iff] at hnot
        omega

def bareContainer (name : String) : Container :=
  ⟨[], Text.of name, [], [], [], []⟩

/-- The candidates of one of two containers, from the shortest to the longest. -/
theorem selectKey_nested_reordered :
    let container := bareContainer "web-shop-1"
    let containers := [container, bareContainer "web-shop-2"]
    let order := [Text.of "web", Text.of "web-shop", Text.of "web-shop-1"]
    order.Perm (candidatesOf container) ∧ Text.of "web" ∈ candidatesOf container ∧
      Text.of "web-shop-1" ∈ candidatesOf container ∧
      Text.of "web" ∈ candidates (Text.of "web-shop-1") ∧
      (indexOf containers).count (Text.of "web-shop-1") ≤
        (indexOf containers).count (Text.of "web") ∧
      selectKey container.label order (indexOf containers) = Text.of "web-shop" := by
  intro container containers order
  have horder : order.Perm (candidatesOf container) := by decide
  have hshorter : Text.of "web" ∈ candidatesOf container := by decide
  have hlonger : Text.of "web-shop-1" ∈ candidatesOf container := by decide
  have hnested := selectKey_nested containers container
  have hpair := hnested.2.1 _ hshorter _ hlonger (by decide)
  have hkey : keyIn containers container = Text.of "web-shop" := by decide
  exact ⟨horder, hshorter, hlonger, hpair.1, hpair.2, (hnested.2.2.1 order horder).trans hkey⟩

end Grouping

end ContainerDesk
