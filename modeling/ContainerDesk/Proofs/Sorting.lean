import ContainerDesk.Proofs.Text.Basic
import Mathlib.Data.List.Basic

/-!
# Sorting by features

An order that compares one feature after the other, and looks at the next one only
where the features before it agree, is total and transitive.  What ties in it agrees in
all features.

Sorting by such an order keeps what ties in the order in which it came, so two lists are
sorted alike when they have the same elements and what ties comes in one order in both.
Where only equal elements tie, the order in which they came does not matter.
-/

namespace ContainerDesk

/-!
# Comparing features
-/

variable {α β : Type}

/-- Does a comparison put different values in a linear order?  What it says of equal values does
not matter. -/
structure IsLinear (before : β → β → Bool) : Prop where
  total : ∀ {x y}, x ≠ y → before x y = true ∨ before y x = true
  asymm : ∀ {x y}, x ≠ y → before x y = true → before y x = true → False
  trans : ∀ {x y z}, x ≠ y → y ≠ z → before x y = true → before y z = true → before x z = true

structure IsOrder (order : α → α → Bool) : Prop where
  total : ∀ a b, (order a b || order b a) = true
  trans : ∀ a b c, order a b = true → order b c = true → order a c = true

/-- Compares by a feature, and by something else where the feature agrees. -/
def firstBy [DecidableEq β] (feature : α → β) (before : β → β → Bool) (order : α → α → Bool)
    (a b : α) : Bool :=
  if feature a ≠ feature b then before (feature a) (feature b) else order a b

theorem firstBy_of_eq [DecidableEq β] {feature : α → β} {before : β → β → Bool}
    {order : α → α → Bool} {a b : α} (h : feature a = feature b) :
    firstBy feature before order a b = order a b := by
  simp [firstBy, h]

theorem firstBy_of_ne [DecidableEq β] {feature : α → β} {before : β → β → Bool}
    {order : α → α → Bool} {a b : α} (h : feature a ≠ feature b) :
    firstBy feature before order a b = before (feature a) (feature b) := by
  simp [firstBy, h]

theorem firstBy_antisymm [DecidableEq β] {feature : α → β} {before : β → β → Bool}
    {order : α → α → Bool} (hbefore : IsLinear before) {a b : α}
    (hab : firstBy feature before order a b = true)
    (hba : firstBy feature before order b a = true) :
    feature a = feature b ∧ order a b = true ∧ order b a = true := by
  rcases Decidable.em (feature a = feature b) with h | h
  · rw [firstBy_of_eq h] at hab
    rw [firstBy_of_eq h.symm] at hba
    exact ⟨h, hab, hba⟩
  · rw [firstBy_of_ne h] at hab
    rw [firstBy_of_ne (Ne.symm h)] at hba
    exact absurd hba (hbefore.asymm h hab)

theorem IsOrder.firstBy [DecidableEq β] {feature : α → β} {before : β → β → Bool}
    {order : α → α → Bool} (horder : IsOrder order) (hbefore : IsLinear before) :
    IsOrder (firstBy feature before order) := by
  constructor
  · intro a b
    rw [Bool.or_eq_true]
    rcases Decidable.em (feature a = feature b) with h | h
    · rw [firstBy_of_eq h, firstBy_of_eq h.symm]
      simpa using horder.total a b
    · rw [firstBy_of_ne h, firstBy_of_ne (Ne.symm h)]
      exact hbefore.total h
  · intro a b c hab hbc
    rcases Decidable.em (feature a = feature b) with h | h
    · rcases Decidable.em (feature b = feature c) with h' | h'
      · rw [firstBy_of_eq h] at hab
        rw [firstBy_of_eq h'] at hbc
        rw [firstBy_of_eq (h.trans h')]
        exact horder.trans a b c hab hbc
      · have hac : feature a ≠ feature c := h ▸ h'
        rw [firstBy_of_ne h'] at hbc
        rw [firstBy_of_ne hac, h]
        exact hbc
    · rw [firstBy_of_ne h] at hab
      rcases Decidable.em (feature b = feature c) with h' | h'
      · have hac : feature a ≠ feature c := h' ▸ h
        rw [firstBy_of_ne hac, ← h']
        exact hab
      · rw [firstBy_of_ne h'] at hbc
        rcases Decidable.em (feature a = feature c) with hac | hac
        · rw [hac] at hab
          exact absurd hbc (hbefore.asymm (hac ▸ h) hab)
        · rw [firstBy_of_ne hac]
          exact hbefore.trans h h' hab hbc

/-!
# Sorting
-/

/-- Does neither of two elements have to stand behind the other? -/
def ties (order : α → α → Bool) (a b : α) : Bool :=
  order a b && order b a

theorem ties_eq_true {order : α → α → Bool} {a b : α} :
    ties order a b = true ↔ order a b = true ∧ order b a = true :=
  Bool.and_eq_true_iff

/-- Sorted lists of the same elements are equal where what ties comes in one order in both. -/
theorem eq_of_pairwise_of_ties {order : α → α → Bool} (horder : IsOrder order) {xs ys : List α}
    (hperm : xs.Perm ys) (hxs : xs.Pairwise fun a b => order a b = true)
    (hys : ys.Pairwise fun a b => order a b = true)
    (hties : ∀ a ∈ xs, xs.filter (ties order a) = ys.filter (ties order a)) : xs = ys := by
  have hself : ∀ a, order a a = true := fun a => by simpa using horder.total a a
  have hfirst : ∀ {a b : α} {rest : List α},
      (a :: rest).Pairwise (fun a b => order a b = true) → b ∈ a :: rest → order a b = true := by
    intro a b rest hsorted hmem
    rcases List.mem_cons.mp hmem with rfl | hmem
    · exact hself b
    · exact List.rel_of_pairwise_cons hsorted hmem
  induction xs generalizing ys with
  | nil => exact hperm.nil_eq
  | cons x rest ih =>
      cases ys with
      | nil => exact hperm.eq_nil
      | cons y others =>
          have hxy : order x y = true := hfirst hxs (hperm.mem_iff.mpr List.mem_cons_self)
          have hyx : order y x = true := hfirst hys (hperm.mem_iff.mp List.mem_cons_self)
          have heq : x = y := by
            have hfilter := hties x List.mem_cons_self
            rw [List.filter_cons_of_pos (ties_eq_true.mpr ⟨hself x, hself x⟩),
              List.filter_cons_of_pos (ties_eq_true.mpr ⟨hxy, hyx⟩)] at hfilter
            exact (List.cons.inj hfilter).1
          subst heq
          rw [ih hperm.cons_inv hxs.of_cons hys.of_cons]
          intro a ha
          have hfilter := hties a (List.mem_cons_of_mem x ha)
          rw [List.filter_cons, List.filter_cons] at hfilter
          split at hfilter
          · exact (List.cons.inj hfilter).2
          · exact hfilter

/-- Sorting keeps elements that all tie in the order in which they came. -/
theorem filter_mergeSort {order : α → α → Bool} (horder : IsOrder order) {xs : List α}
    {p : α → Bool}
    (htie : ∀ a ∈ xs, ∀ b ∈ xs, p a = true → p b = true → order a b = true) :
    (xs.mergeSort order).filter p = xs.filter p := by
  have hpairwise : (xs.filter p).Pairwise fun a b => order a b = true := by
    apply List.pairwise_of_forall_mem_list
    intro a ha b hb
    have ha := List.mem_filter.mp ha
    have hb := List.mem_filter.mp hb
    exact htie a ha.1 b hb.1 ha.2 hb.2
  have hsub : (xs.filter p).Sublist (xs.mergeSort order) :=
    List.sublist_mergeSort horder.trans horder.total hpairwise List.filter_sublist
  have hsub : (xs.filter p).Sublist ((xs.mergeSort order).filter p) := by
    simpa [List.filter_filter] using hsub.filter p
  have hlength : ((xs.mergeSort order).filter p).length = (xs.filter p).length :=
    ((List.mergeSort_perm xs order).filter p).length_eq
  exact (hsub.eq_of_length hlength.symm).symm

theorem filter_ties_mergeSort {order : α → α → Bool} (horder : IsOrder order) (xs : List α)
    (a : α) : (xs.mergeSort order).filter (ties order a) = xs.filter (ties order a) := by
  apply filter_mergeSort horder
  intro b _ c _ hb hc
  exact horder.trans b a c (ties_eq_true.mp hb).2 (ties_eq_true.mp hc).1

theorem mergeSort_eq_of_ties {order : α → α → Bool} (horder : IsOrder order) {xs ys : List α}
    (hperm : xs.Perm ys)
    (hties : ∀ a ∈ xs, xs.filter (ties order a) = ys.filter (ties order a)) :
    xs.mergeSort order = ys.mergeSort order := by
  apply eq_of_pairwise_of_ties horder
  · exact (List.mergeSort_perm xs order).trans (hperm.trans (List.mergeSort_perm ys order).symm)
  · exact List.pairwise_mergeSort horder.trans horder.total xs
  · exact List.pairwise_mergeSort horder.trans horder.total ys
  · intro a ha
    rw [filter_ties_mergeSort horder, filter_ties_mergeSort horder]
    exact hties a (List.mem_mergeSort.mp ha)

theorem filter_eq_of_perm {xs ys : List α} (hperm : xs.Perm ys) {p : α → Bool} {a : α}
    (h : ∀ b ∈ xs, p b = true → b = a) : xs.filter p = ys.filter p := by
  have hcopies : xs.filter p = List.replicate (xs.filter p).length a := by
    apply List.eq_replicate_of_mem
    intro b hb
    exact h b (List.mem_filter.mp hb).1 (List.mem_filter.mp hb).2
  have hfilter := (hperm.filter p).symm
  rw [hcopies] at hfilter ⊢
  exact (List.perm_replicate.mp hfilter).symm

theorem mergeSort_filter {order : α → α → Bool} (horder : IsOrder order) (xs : List α)
    (p : α → Bool) : (xs.mergeSort order).filter p = (xs.filter p).mergeSort order := by
  apply eq_of_pairwise_of_ties horder
  · exact ((List.mergeSort_perm xs order).filter p).trans
      (List.mergeSort_perm (xs.filter p) order).symm
  · exact (List.pairwise_mergeSort horder.trans horder.total xs).filter p
  · exact List.pairwise_mergeSort horder.trans horder.total (xs.filter p)
  · intro a _
    rw [filter_ties_mergeSort horder, List.filter_comm, filter_ties_mergeSort horder,
      List.filter_comm]

/-!
# The features
-/

theorem isLinear_running : IsLinear fun first _ : Bool => first := by
  constructor
  · intro x y h
    cases x <;> cases y <;> simp at h ⊢
  · intro x y h hx hy
    exact h (hx.trans hy.symm)
  · intro x y z _ _ hx _
    exact hx

theorem isLinear_descending : IsLinear fun first second : Nat => decide (second < first) := by
  constructor
  · intro x y h
    simp only [decide_eq_true_eq]
    omega
  · intro x y _ hx hy
    simp only [decide_eq_true_eq] at hx hy
    omega
  · intro x y z _ _ hx hy
    simp only [decide_eq_true_eq] at hx hy ⊢
    omega

theorem isLinear_atMost : IsLinear Text.atMost := by
  constructor
  · intro x y _
    exact x.atMost_total y
  · intro x y h hx hy
    exact h (Text.atMost_antisymm hx hy)
  · intro x y z _ _ hx hy
    exact Text.atMost_trans hx hy

theorem isOrder_atMost (feature : α → Text) :
    IsOrder fun a b => (feature a).atMost (feature b) := by
  constructor
  · intro a b
    simpa using (feature a).atMost_total (feature b)
  · intro a b c hab hbc
    exact Text.atMost_trans hab hbc

end ContainerDesk
