import ContainerDesk.Grouping.Group

/-!
# Allotments

Equal elements may stand at several places of a list, so where an element went when the
list was divided into blocks is told by places: an allotment gives each place the number
of a block, and a block has what stands at the places with its number.
-/

namespace ContainerDesk

/-!
# Elements in the order of their images
-/

theorem exists_perm_map_eq {α β : Type} {f : α → β} {xs : List α} {ys : List β}
    (h : (xs.map f).Perm ys) : ∃ zs : List α, zs.Perm xs ∧ zs.map f = ys := by
  induction ys generalizing xs with
  | nil =>
      have hxs : xs = [] := List.map_eq_nil_iff.mp h.eq_nil
      exact ⟨[], by rw [hxs], rfl⟩
  | cons y rest ih =>
      rcases List.mem_map.mp (h.mem_iff.mpr (List.mem_cons_self ..)) with ⟨x, hx, rfl⟩
      rcases List.append_of_mem hx with ⟨before, after, rfl⟩
      have hmiddle : (before ++ x :: after).Perm (x :: (before ++ after)) := List.perm_middle
      have hrest : ((before ++ after).map f).Perm rest :=
        ((hmiddle.map f).symm.trans h).cons_inv
      rcases ih hrest with ⟨zs, hzs, hmap⟩
      exact ⟨x :: zs, (hzs.cons x).trans hmiddle.symm, by rw [List.map_cons, hmap]⟩

theorem two_le_length_filter {α : Type} {xs : List α} {p : α → Bool} {i j : Nat} {x y : α}
    (hlt : i < j) (hi : xs[i]? = some x) (hj : xs[j]? = some y) (hx : p x = true)
    (hy : p y = true) : 2 ≤ (xs.filter p).length := by
  have hbefore : x ∈ xs.take j := by
    apply List.mem_iff_getElem?.mpr
    exact ⟨i, by rw [List.getElem?_take_of_lt hlt, hi]⟩
  have hafter : y ∈ xs.drop j := by
    apply List.mem_iff_getElem?.mpr
    exact ⟨0, by rw [List.getElem?_drop, Nat.add_zero, hj]⟩
  have hleft := List.length_pos_of_mem (List.mem_filter.mpr ⟨hbefore, hx⟩)
  have hright := List.length_pos_of_mem (List.mem_filter.mpr ⟨hafter, hy⟩)
  rw [← List.take_append_drop j xs, List.filter_append, List.length_append]
  omega

/-!
# Blocks
-/

section Blocks

variable {α : Type}

/-- Do the numbers tell, place by place, in which of the blocks the elements are? -/
structure Allots (xs : List α) (blocks : List (List α)) (numbers : List Nat) : Prop where
  length_eq : numbers.length = xs.length
  bounded : ∀ number ∈ numbers, number < blocks.length
  block_perm : ∀ (number : Nat) (h : number < blocks.length),
    blocks[number].Perm
      (((xs.zip numbers).filter fun entry => decide (entry.2 = number)).map (·.1))

def numbered (first : Nat) : List (List α) → List (α × Nat)
  | [] => []
  | block :: rest => block.map (·, first) ++ numbered (first + 1) rest

theorem map_fst_numbered (first : Nat) (blocks : List (List α)) :
    (numbered first blocks).map (·.1) = blocks.flatten := by
  induction blocks generalizing first with
  | nil => rfl
  | cons block rest ih => simp [numbered, ih, Function.comp_def]

theorem bounds_of_mem_numbered {first : Nat} {blocks : List (List α)} {entry : α × Nat}
    (h : entry ∈ numbered first blocks) :
    first ≤ entry.2 ∧ entry.2 < first + blocks.length := by
  induction blocks generalizing first with
  | nil => cases h
  | cons block rest ih =>
      rcases List.mem_append.mp h with hhead | htail
      · rcases List.mem_map.mp hhead with ⟨x, _, rfl⟩
        simp
      · have := ih htail
        rw [List.length_cons]
        omega

theorem filter_numbered (first : Nat) (blocks : List (List α)) (number : Nat)
    (h : number < blocks.length) :
    ((numbered first blocks).filter fun entry => decide (entry.2 = first + number)).map (·.1) =
      blocks[number] := by
  induction blocks generalizing first number with
  | nil => cases h
  | cons block rest ih =>
      rw [numbered, List.filter_append, List.map_append]
      cases number with
      | zero =>
          have hrest : (numbered (first + 1) rest).filter
              (fun entry => decide (entry.2 = first + 0)) = [] := by
            apply List.filter_eq_nil_iff.mpr
            intro entry hentry
            have := bounds_of_mem_numbered hentry
            simp only [decide_eq_true_eq]
            omega
          rw [hrest]
          simp [List.filter_map, Function.comp_def]
      | succ number =>
          have hhead : (block.map (·, first)).filter
              (fun entry => decide (entry.2 = first + (number + 1))) = [] := by
            apply List.filter_eq_nil_iff.mpr
            intro entry hentry
            rcases List.mem_map.mp hentry with ⟨x, _, rfl⟩
            simp
          have hrest := ih (first + 1) number (by simpa using h)
          rw [show first + 1 + number = first + (number + 1) by omega] at hrest
          rw [hhead, hrest]
          rfl

theorem exists_allots {xs : List α} {blocks : List (List α)} (h : blocks.flatten.Perm xs) :
    ∃ numbers, Allots xs blocks numbers := by
  rw [← map_fst_numbered 0] at h
  rcases exists_perm_map_eq h with ⟨entries, hperm, rfl⟩
  have hzip : (entries.map (·.1)).zip (entries.map (·.2)) = entries := by
    rw [List.zip_map']
    simp
  refine ⟨entries.map (·.2), by simp, ?_, ?_⟩
  · intro number hnumber
    rcases List.mem_map.mp hnumber with ⟨entry, hentry, rfl⟩
    have := bounds_of_mem_numbered (hperm.mem_iff.mp hentry)
    omega
  · intro number hnumber
    have hblock := filter_numbered 0 blocks number hnumber
    rw [Nat.zero_add] at hblock
    rw [hzip, ← hblock]
    exact ((hperm.filter _).map _).symm

namespace Allots

variable {xs : List α} {blocks : List (List α)} {numbers : List Nat}

theorem exists_number (h : Allots xs blocks numbers) {i : Nat} {x : α} (hi : xs[i]? = some x) :
    ∃ number, numbers[i]? = some number ∧ number < blocks.length := by
  rcases List.getElem?_eq_some_iff.mp hi with ⟨hlt, _⟩
  have hlt : i < numbers.length := by rwa [h.length_eq]
  exact ⟨numbers[i], List.getElem?_eq_getElem hlt, h.bounded _ (List.getElem_mem hlt)⟩

theorem mem (h : Allots xs blocks numbers) {i number : Nat} {x : α} (hi : xs[i]? = some x)
    (hnumber : numbers[i]? = some number) (hbound : number < blocks.length) :
    x ∈ blocks[number] := by
  apply (h.block_perm number hbound).mem_iff.mpr
  apply List.mem_map.mpr
  refine ⟨(x, number), List.mem_filter.mpr ⟨?_, by simp⟩, rfl⟩
  apply List.mem_iff_getElem?.mpr
  exact ⟨i, List.getElem?_zip_eq_some.mpr ⟨hi, hnumber⟩⟩

theorem two_le_length (h : Allots xs blocks numbers) {i j number : Nat} {x y : α}
    (hi : xs[i]? = some x) (hj : xs[j]? = some y) (hne : i ≠ j)
    (hinumber : numbers[i]? = some number) (hjnumber : numbers[j]? = some number)
    (hbound : number < blocks.length) : 2 ≤ blocks[number].length := by
  rw [(h.block_perm number hbound).length_eq, List.length_map]
  have hiEntry : (xs.zip numbers)[i]? = some (x, number) :=
    List.getElem?_zip_eq_some.mpr ⟨hi, hinumber⟩
  have hjEntry : (xs.zip numbers)[j]? = some (y, number) :=
    List.getElem?_zip_eq_some.mpr ⟨hj, hjnumber⟩
  rcases Nat.lt_or_gt_of_ne hne with hlt | hgt
  · exact two_le_length_filter hlt hiEntry hjEntry (by simp) (by simp)
  · exact two_le_length_filter hgt hjEntry hiEntry (by simp) (by simp)

theorem map_perm {β γ : Type} {batches : List γ} {entries : γ → List α}
    (h : Allots xs (batches.map entries) numbers) {f : α → β} {images : γ → List β}
    (himages : ∀ batch, (images batch).Perm ((entries batch).map f)) :
    Allots (xs.map f) (batches.map images) numbers := by
  refine ⟨by simpa using h.length_eq, by simpa using h.bounded, ?_⟩
  intro number hnumber
  rw [List.length_map] at hnumber
  have hblock := (h.block_perm number (by simpa using hnumber)).map f
  rw [List.getElem_map] at hblock ⊢
  apply (himages _).trans
  apply hblock.trans
  rw [List.zip_map_left, List.filter_map, List.map_map, List.map_map]
  exact List.Perm.refl _

end Allots

end Blocks

/-!
# Groups
-/

namespace Grouping

/-- Do the numbers tell, place by place, in which of the groups the containers are? -/
structure IsAllotment (containers : List Container) (groups : List Group) (numbers : List Nat) :
    Prop where
  length_eq : numbers.length = containers.length
  bounded : ∀ number ∈ numbers, number < groups.length
  members_perm : ∀ (number : Nat) (h : number < groups.length),
    groups[number].members.Perm
      (((containers.zip numbers).filter fun entry => decide (entry.2 = number)).map (·.1))

variable {containers : List Container} {groups : List Group} {numbers : List Nat}

theorem isAllotment_iff :
    IsAllotment containers groups numbers ↔
      Allots containers (groups.map Group.members) numbers := by
  constructor
  · intro h
    refine ⟨h.length_eq, by simpa using h.bounded, ?_⟩
    intro number hnumber
    rw [List.getElem_map]
    exact h.members_perm number (by simpa using hnumber)
  · intro h
    refine ⟨h.length_eq, by simpa using h.bounded, ?_⟩
    intro number hnumber
    have hblock := h.block_perm number (by simpa using hnumber)
    rwa [List.getElem_map] at hblock

theorem exists_isAllotment (h : (groups.flatMap Group.members).Perm containers) :
    ∃ numbers, IsAllotment containers groups numbers := by
  rw [List.flatMap_def] at h
  rcases exists_allots h with ⟨numbers, hnumbers⟩
  exact ⟨numbers, isAllotment_iff.mpr hnumbers⟩

namespace IsAllotment

theorem lt_length (h : IsAllotment containers groups numbers) {i : Nat}
    (hi : i < containers.length) : i < numbers.length := by
  rw [h.length_eq]
  exact hi

theorem mem (h : IsAllotment containers groups numbers) {i number : Nat}
    (hi : i < containers.length) (hnumber : numbers[i]? = some number)
    (hbound : number < groups.length) : containers[i] ∈ groups[number].members := by
  have hmem := (isAllotment_iff.mp h).mem (List.getElem?_eq_getElem hi) hnumber
    (by simpa using hbound)
  rwa [List.getElem_map] at hmem

theorem two_le_length (h : IsAllotment containers groups numbers) {i j number : Nat}
    (hi : i < containers.length) (hj : j < containers.length) (hne : i ≠ j)
    (hinumber : numbers[i]? = some number) (hjnumber : numbers[j]? = some number)
    (hbound : number < groups.length) : 2 ≤ groups[number].members.length := by
  have hlength := (isAllotment_iff.mp h).two_le_length (List.getElem?_eq_getElem hi)
    (List.getElem?_eq_getElem hj) hne hinumber hjnumber (by simpa using hbound)
  rwa [List.getElem_map] at hlength

end IsAllotment

end Grouping

end ContainerDesk
