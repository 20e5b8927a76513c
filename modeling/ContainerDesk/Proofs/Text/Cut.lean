import ContainerDesk.Proofs.Text.Utf8

/-!
# Octets that are cut out of a text

Octets between two places among those of a text may begin with the end of a code point
and end with the beginning of another one.  The lenient reader passes over the octets of
the first one by one, since none of them can stand at a front, and over those of the
second at once, since only octets are missing there.  All code points between the two are
read.
-/

namespace ContainerDesk

namespace Utf8

/-!
# The octets of one code point
-/

/-- A code point in its octets: the first one and the others. -/
structure IsSpelled (c : CodePoint) (first : Octet) (rest : List Octet) : Prop where
  octets : encodeCodePoint c = first :: rest
  whole : ∀ tail, step first (rest ++ tail) = .scalar c (rest.length + 1)
  /-- Where the last octets are missing, all octets that are there are one defect. -/
  cut : ∀ n < rest.length, step first (rest.take n) = .broken .endOfData (n + 1)
  continues : ∀ o ∈ rest, isContinuation o = true

section Widths

variable {c : CodePoint}

theorem isSpelled_one (h : c.val < 0x80) : IsSpelled c (octet c.val) [] where
  octets := (step_one [] h).1
  whole := fun tail => (step_one tail h).2
  cut := nofun
  continues := nofun

theorem isSpelled_two (hlow : 0x80 ≤ c.val) (hhigh : c.val < 0x800) :
    IsSpelled c (octet (0xC0 + c.val / 0x40)) [octet (0x80 + c.val % 0x40)] where
  octets := (step_two [] hlow hhigh).1
  whole := fun tail => (step_two tail hlow hhigh).2
  cut := by
    intro n hn
    rw [Nat.lt_one_iff.mp hn, List.take_zero]
    unfold step
    rw [octet_val (by omega), if_neg (by omega), if_neg (by omega), if_pos (by omega)]
  continues :=
    List.forall_mem_singleton.mpr (isContinuation_octet (Nat.mod_lt _ (by decide)))

theorem isSpelled_three (hlow : 0x800 ≤ c.val) (hhigh : c.val < 0x10000)
    (hscalar : ¬(0xD800 ≤ c.val ∧ c.val ≤ 0xDFFF)) :
    IsSpelled c (octet (0xE0 + c.val / 0x1000))
      [octet (0x80 + c.val / 0x40 % 0x40), octet (0x80 + c.val % 0x40)] where
  octets := (step_three [] hlow hhigh hscalar).1
  whole := fun tail => (step_three tail hlow hhigh hscalar).2
  cut := by
    intro n hn
    have hfollows := followsInThree_octet hlow hhigh hscalar
    unfold step
    rw [octet_val (by omega), if_neg (by omega), if_neg (by omega), if_neg (by omega),
      if_pos (by omega)]
    match n, hn with
    | 0, _ => rfl
    | 1, _ =>
        simp only [List.take_succ_cons, List.take_zero]
        rw [if_pos hfollows]
  continues := by
    rw [List.forall_mem_cons, List.forall_mem_singleton]
    exact ⟨isContinuation_octet (Nat.mod_lt _ (by decide)),
      isContinuation_octet (Nat.mod_lt _ (by decide))⟩

theorem isSpelled_four (hlow : 0x10000 ≤ c.val) :
    IsSpelled c (octet (0xF0 + c.val / 0x40000))
      [octet (0x80 + c.val / 0x1000 % 0x40), octet (0x80 + c.val / 0x40 % 0x40),
        octet (0x80 + c.val % 0x40)] where
  octets := (step_four [] hlow).1
  whole := fun tail => (step_four tail hlow).2
  cut := by
    intro n hn
    have hlt := c.isLt
    have hfollows := followsInFour_octet hlow
    have hthird : isContinuation (octet (0x80 + c.val / 0x40 % 0x40)) = true :=
      isContinuation_octet (Nat.mod_lt _ (by decide))
    unfold step
    rw [octet_val (by omega), if_neg (by omega), if_neg (by omega), if_neg (by omega),
      if_neg (by omega), if_pos (by omega)]
    match n, hn with
    | 0, _ => rfl
    | 1, _ =>
        simp only [List.take_succ_cons, List.take_zero]
        rw [if_pos hfollows]
    | 2, _ =>
        simp only [List.take_succ_cons, List.take_zero]
        rw [hfollows, hthird]
        rfl
  continues := by
    rw [List.forall_mem_cons, List.forall_mem_cons, List.forall_mem_singleton]
    exact ⟨isContinuation_octet (Nat.mod_lt _ (by decide)),
      isContinuation_octet (Nat.mod_lt _ (by decide)),
      isContinuation_octet (Nat.mod_lt _ (by decide))⟩

end Widths

theorem exists_isSpelled {c : CodePoint} (hc : c.isSurrogate = false) :
    ∃ first rest, IsSpelled c first rest := by
  have hscalar : ¬(0xD800 ≤ c.val ∧ c.val ≤ 0xDFFF) := by
    simpa [CodePoint.isSurrogate] using hc
  by_cases hone : c.val < 0x80
  · exact ⟨_, _, isSpelled_one hone⟩
  · by_cases htwo : c.val < 0x800
    · exact ⟨_, _, isSpelled_two (by omega) htwo⟩
    · by_cases hthree : c.val < 0x10000
      · exact ⟨_, _, isSpelled_three (by omega) hthree hscalar⟩
      · exact ⟨_, _, isSpelled_four (by omega)⟩

/-!
# The lenient reader
-/

theorem decodeLenientFrom_skip (front rest : List Octet) :
    decodeLenientFrom front.length (front ++ rest) = decodeLenient rest := by
  induction front with
  | nil => rfl
  | cons o front ih => exact ih

theorem decodeLenient_continuations {front : List Octet}
    (h : ∀ o ∈ front, isContinuation o = true) (rest : List Octet) :
    decodeLenient (front ++ rest) = decodeLenient rest := by
  induction front with
  | nil => rfl
  | cons o front ih =>
      rw [List.forall_mem_cons] at h
      have hval : 0x80 ≤ o.val ∧ o.val ≤ 0xBF := by
        simpa [isContinuation] using h.1
      have hstep : step o (front ++ rest) = .broken .badStart 1 := by
        unfold step
        rw [if_neg (by omega), if_pos (by omega)]
      rw [List.cons_append, decodeLenient, decodeLenientFrom, hstep]
      exact ih h.2

namespace IsSpelled

variable {c : CodePoint} {first : Octet} {rest : List Octet}

theorem length_pos (h : IsSpelled c first rest) : 0 < (encodeCodePoint c).length := by
  rw [h.octets]
  exact Nat.zero_lt_succ _

theorem decodeLenient_append (h : IsSpelled c first rest) (tail : List Octet) :
    decodeLenient (encodeCodePoint c ++ tail) = c :: decodeLenient tail := by
  rw [h.octets, List.cons_append, decodeLenient, decodeLenientFrom, h.whole]
  dsimp only
  rw [Nat.add_sub_cancel, decodeLenientFrom_skip]

theorem decodeLenient_take (h : IsSpelled c first rest) {n : Nat}
    (hn : n < (encodeCodePoint c).length) : decodeLenient ((encodeCodePoint c).take n) = [] := by
  rw [h.octets] at hn ⊢
  cases n with
  | zero => rfl
  | succ n =>
      have hrest : n < rest.length := Nat.lt_of_succ_lt_succ hn
      have hlength : (rest.take n).length = n := by
        rw [List.length_take, Nat.min_eq_left (Nat.le_of_lt hrest)]
      rw [List.take_succ_cons, decodeLenient, decodeLenientFrom, h.cut n hrest]
      dsimp only
      rw [Nat.add_sub_cancel]
      have hskip := decodeLenientFrom_skip (rest.take n) []
      rwa [List.append_nil, hlength] at hskip

theorem continues_drop (h : IsSpelled c first rest) {n : Nat} (hn : 0 < n) (m : Nat) :
    ∀ o ∈ ((encodeCodePoint c).take m).drop n, isContinuation o = true := by
  intro o ho
  apply h.continues
  rw [h.octets] at ho
  cases m with
  | zero => simp at ho
  | succ m =>
      cases n with
      | zero => exact absurd hn (Nat.lt_irrefl 0)
      | succ n => exact List.mem_of_mem_take (List.mem_of_mem_drop ho)

end IsSpelled

/-!
# Code points and their places
-/

/-- A code point in a text, and between which places its octets stand. -/
structure Placed where
  codePoint : CodePoint
  first : Nat
  last : Nat

def placed (start : Nat) : Text → List Placed
  | [] => []
  | c :: rest =>
      let next := start + (encodeCodePoint c).length
      ⟨c, start, next⟩ :: placed next rest

def wholeFrom (start low high : Nat) (t : Text) : Text :=
  ((placed start t).filter fun p => low ≤ p.first ∧ p.last ≤ high).map (·.codePoint)

/-- The code points of a text all of whose octets stand between two places among those of the
text. -/
def wholeWithin (t : Text) (low high : Nat) : Text :=
  wholeFrom 0 low high t

theorem wholeFrom_cons (start low high : Nat) (c : CodePoint) (rest : Text) :
    wholeFrom start low high (c :: rest) =
      let next := start + (encodeCodePoint c).length
      if low ≤ start ∧ next ≤ high then c :: wholeFrom next low high rest
      else wholeFrom next low high rest := by
  unfold wholeFrom
  rw [placed, List.filter_cons]
  dsimp only
  simp only [decide_eq_true_eq]
  split
  · rfl
  · rfl

theorem wholeFrom_of_lt {start high : Nat} (h : high < start) (low : Nat) (t : Text) :
    wholeFrom start low high t = [] := by
  induction t generalizing start with
  | nil => rfl
  | cons c rest ih =>
      rw [wholeFrom_cons]
      dsimp only
      rw [if_neg (by omega)]
      exact ih (by omega)

theorem decodeLenient_between {t : Text} (ht : ∀ c ∈ t, c.isSurrogate = false)
    (start low high : Nat) :
    decodeLenient (((encodeAll t).take (high - start)).drop (low - start)) =
      wholeFrom start low high t := by
  induction t generalizing start with
  | nil => simp [encodeAll, decodeLenient, decodeLenientFrom, wholeFrom, placed]
  | cons c rest ih =>
      rw [List.forall_mem_cons] at ht
      rcases exists_isSpelled ht.1 with ⟨first, others, hspelled⟩
      rw [wholeFrom_cons]
      dsimp only
      generalize hnext : start + (encodeCodePoint c).length = next
      have hrest := ih ht.2 next
      have hoctets : encodeAll (c :: rest) = encodeCodePoint c ++ encodeAll rest := rfl
      rw [hoctets, List.take_append, List.drop_append]
      by_cases hhigh : next ≤ high
      · have hwhole : (encodeCodePoint c).take (high - start) = encodeCodePoint c :=
          List.take_of_length_le (by omega)
        have hlength : high - start - (encodeCodePoint c).length = high - next := by omega
        have hdrop : low - start - (encodeCodePoint c).length = low - next := by omega
        rw [hwhole, hlength, hdrop]
        -- What is left of a code point whose first octet is cut off are octets that continue one.
        by_cases hlow : low ≤ start
        · rw [if_pos ⟨hlow, hhigh⟩, Nat.sub_eq_zero_of_le hlow, List.drop_zero,
            hspelled.decodeLenient_append, hrest]
        · have hcontinues := hspelled.continues_drop (n := low - start) (by omega)
            (encodeCodePoint c).length
          rw [List.take_length] at hcontinues
          rw [if_neg (fun h => hlow h.1), decodeLenient_continuations hcontinues, hrest]
      · have hnone : (encodeAll rest).take (high - start - (encodeCodePoint c).length) = [] := by
          rw [Nat.sub_eq_zero_of_le (by omega), List.take_zero]
        rw [hnone, List.drop_nil, List.append_nil, if_neg (fun h => hhigh h.2),
          wholeFrom_of_lt (by omega)]
        by_cases hlow : low ≤ start
        · rw [Nat.sub_eq_zero_of_le hlow, List.drop_zero]
          have hpos := hspelled.length_pos
          exact hspelled.decodeLenient_take (by omega)
        · have hcontinues := hspelled.continues_drop (n := low - start) (by omega) (high - start)
          rw [← List.append_nil (List.drop _ _), decodeLenient_continuations hcontinues]
          rfl

/-- Octets cut out of those of a text read as the code points that are whole in them. -/
theorem decodeLenient_cut {t : Text} (ht : ∀ c ∈ t, c.isSurrogate = false)
    {front cut back : List Octet} (h : encodeAll t = front ++ cut ++ back) :
    decodeLenient cut = wholeWithin t front.length (front.length + cut.length) := by
  have hcut := decodeLenient_between ht 0 front.length (front.length + cut.length)
  rw [h, Nat.sub_zero, Nat.sub_zero, ← List.length_append, List.take_left, List.drop_left] at hcut
  rw [hcut, List.length_append]
  rfl

end Utf8

end ContainerDesk
