import ContainerDesk.Text.Utf8

/-!
# UTF-8 there and back

The octets of a code point that is no surrogate read back as that code point, whatever
follows them.  So a text that has octets at all reads back from them.
-/

namespace ContainerDesk

namespace Utf8

/-!
# Texts that have octets
-/

theorem firstSurrogates_eq_none (position : Nat) {t : Text} :
    firstSurrogates position t = none ↔ ∀ c ∈ t, c.isSurrogate = false := by
  induction t generalizing position with
  | nil => simp [firstSurrogates]
  | cons c rest ih =>
      by_cases hc : c.isSurrogate = true
      · simp [firstSurrogates, hc]
      · simp [firstSurrogates, hc, ih]

theorem encode_eq_ok {t : Text} {octets : List Octet} :
    encode t = .ok octets ↔ (∀ c ∈ t, c.isSurrogate = false) ∧ encodeAll t = octets := by
  unfold encode
  rw [← firstSurrogates_eq_none 0]
  cases firstSurrogates 0 t with
  | none => simp
  | some fault => simp

/-!
# One code point
-/

theorem octet_lt (n : Nat) : n % 256 < 256 :=
  Nat.mod_lt n (by decide)

def octet (n : Nat) : Octet :=
  ⟨n % 256, octet_lt n⟩

theorem octet_val {n : Nat} (h : n < 256) : (octet n).val = n :=
  Nat.mod_eq_of_lt h

theorem isContinuation_octet {n : Nat} (h : n < 0x40) :
    isContinuation (octet (0x80 + n)) = true := by
  simp only [isContinuation, octet_val (show 0x80 + n < 256 by omega), Bool.and_eq_true,
    decide_eq_true_eq]
  omega

theorem payload_octet {n : Nat} (h : n < 0x40) : payload (octet (0x80 + n)) = n := by
  rw [payload, octet_val (by omega)]
  omega

theorem ofNat_eq {c : CodePoint} {n : Nat} (h : n = c.val) : CodePoint.ofNat n = c := by
  rw [h]
  exact Fin.ext (Nat.mod_eq_of_lt c.isLt)

section Widths

variable {c : CodePoint} (tail : List Octet)

theorem step_one (h : c.val < 0x80) :
    encodeCodePoint c = [octet c.val] ∧ step (octet c.val) tail = .scalar c 1 := by
  constructor
  · rw [encodeCodePoint, if_pos h]
    rfl
  · unfold step
    rw [octet_val (by omega), if_pos h, ofNat_eq (c := c) rfl]

theorem step_two (hlow : 0x80 ≤ c.val) (hhigh : c.val < 0x800) :
    encodeCodePoint c = [octet (0xC0 + c.val / 0x40), octet (0x80 + c.val % 0x40)] ∧
      step (octet (0xC0 + c.val / 0x40)) (octet (0x80 + c.val % 0x40) :: tail) =
        .scalar c 2 := by
  constructor
  · rw [encodeCodePoint, if_neg (by omega), if_pos hhigh]
    rfl
  · have hsecond : c.val % 0x40 < 0x40 := Nat.mod_lt _ (by decide)
    unfold step
    rw [octet_val (by omega), if_neg (by omega), if_neg (by omega), if_pos (by omega)]
    dsimp only
    rw [if_pos (isContinuation_octet hsecond), payload_octet hsecond, ofNat_eq (c := c) (by omega)]

theorem followsInThree_octet (hlow : 0x800 ≤ c.val) (hhigh : c.val < 0x10000)
    (hscalar : ¬(0xD800 ≤ c.val ∧ c.val ≤ 0xDFFF)) :
    followsInThree (octet (0xE0 + c.val / 0x1000)) (octet (0x80 + c.val / 0x40 % 0x40)) = true := by
  have hsecond : c.val / 0x40 % 0x40 < 0x40 := Nat.mod_lt _ (by decide)
  unfold followsInThree
  rw [isContinuation_octet hsecond, octet_val (by omega), octet_val (by omega)]
  split <;>
    simp only [Bool.true_and, Bool.not_eq_true', decide_eq_false_iff_not] <;>
    omega

theorem step_three (hlow : 0x800 ≤ c.val) (hhigh : c.val < 0x10000)
    (hscalar : ¬(0xD800 ≤ c.val ∧ c.val ≤ 0xDFFF)) :
    encodeCodePoint c = [octet (0xE0 + c.val / 0x1000), octet (0x80 + c.val / 0x40 % 0x40),
        octet (0x80 + c.val % 0x40)] ∧
      step (octet (0xE0 + c.val / 0x1000))
        (octet (0x80 + c.val / 0x40 % 0x40) :: octet (0x80 + c.val % 0x40) :: tail) =
          .scalar c 3 := by
  constructor
  · rw [encodeCodePoint, if_neg (by omega), if_neg (by omega), if_pos hhigh]
    rfl
  · have hsecond : c.val / 0x40 % 0x40 < 0x40 := Nat.mod_lt _ (by decide)
    have hthird : c.val % 0x40 < 0x40 := Nat.mod_lt _ (by decide)
    have hfollows := followsInThree_octet hlow hhigh hscalar
    unfold step
    rw [octet_val (by omega), if_neg (by omega), if_neg (by omega), if_neg (by omega),
      if_pos (by omega)]
    dsimp only
    rw [hfollows, isContinuation_octet hthird, payload_octet hsecond, payload_octet hthird,
      ofNat_eq (c := c) (by omega)]
    rfl

theorem followsInFour_octet (hlow : 0x10000 ≤ c.val) :
    followsInFour (octet (0xF0 + c.val / 0x40000)) (octet (0x80 + c.val / 0x1000 % 0x40)) =
      true := by
  have hlt := c.isLt
  have hsecond : c.val / 0x1000 % 0x40 < 0x40 := Nat.mod_lt _ (by decide)
  unfold followsInFour
  rw [isContinuation_octet hsecond, octet_val (by omega), octet_val (by omega)]
  split <;>
    simp only [Bool.true_and, Bool.not_eq_true', decide_eq_false_iff_not] <;>
    omega

theorem step_four (hlow : 0x10000 ≤ c.val) :
    encodeCodePoint c = [octet (0xF0 + c.val / 0x40000), octet (0x80 + c.val / 0x1000 % 0x40),
        octet (0x80 + c.val / 0x40 % 0x40), octet (0x80 + c.val % 0x40)] ∧
      step (octet (0xF0 + c.val / 0x40000))
        (octet (0x80 + c.val / 0x1000 % 0x40) :: octet (0x80 + c.val / 0x40 % 0x40) ::
          octet (0x80 + c.val % 0x40) :: tail) = .scalar c 4 := by
  have hlt := c.isLt
  constructor
  · rw [encodeCodePoint, if_neg (by omega), if_neg (by omega), if_neg (by omega)]
    rfl
  · have hsecond : c.val / 0x1000 % 0x40 < 0x40 := Nat.mod_lt _ (by decide)
    have hthird : c.val / 0x40 % 0x40 < 0x40 := Nat.mod_lt _ (by decide)
    have hfourth : c.val % 0x40 < 0x40 := Nat.mod_lt _ (by decide)
    have hfollows := followsInFour_octet hlow
    unfold step
    rw [octet_val (by omega), if_neg (by omega), if_neg (by omega), if_neg (by omega),
      if_neg (by omega), if_pos (by omega)]
    dsimp only
    rw [hfollows, isContinuation_octet hthird, isContinuation_octet hfourth,
      payload_octet hsecond, payload_octet hthird, payload_octet hfourth,
      ofNat_eq (c := c) (by omega)]
    rfl

end Widths

/-- The octets of a code point read as that code point, whatever follows them. -/
theorem step_encodeCodePoint {c : CodePoint} (hc : c.isSurrogate = false) (tail : List Octet) :
    ∃ first rest, encodeCodePoint c = first :: rest ∧
      step first (rest ++ tail) = .scalar c (rest.length + 1) := by
  have hscalar : ¬(0xD800 ≤ c.val ∧ c.val ≤ 0xDFFF) := by
    simpa [CodePoint.isSurrogate] using hc
  by_cases hone : c.val < 0x80
  · exact ⟨_, _, step_one tail hone⟩
  · by_cases htwo : c.val < 0x800
    · exact ⟨_, _, step_two tail (by omega) htwo⟩
    · by_cases hthree : c.val < 0x10000
      · exact ⟨_, _, step_three tail (by omega) hthree hscalar⟩
      · exact ⟨_, _, step_four tail (by omega)⟩

/-!
# Whole texts
-/

theorem decodeFrom_skip (position : Nat) (front rest : List Octet) :
    decodeFrom position front.length (front ++ rest) =
      decodeFrom (position + front.length) 0 rest := by
  induction front generalizing position with
  | nil => rfl
  | cons o front ih =>
      rw [List.cons_append, List.length_cons, decodeFrom, ih, Nat.add_right_comm, Nat.add_assoc]

theorem decodeFrom_encodeAll (position : Nat) {t : Text} (ht : ∀ c ∈ t, c.isSurrogate = false) :
    decodeFrom position 0 (encodeAll t) = .ok t := by
  induction t generalizing position with
  | nil => rfl
  | cons c rest ih =>
      rcases step_encodeCodePoint (ht c (by simp)) (encodeAll rest) with
        ⟨first, others, hencode, hstep⟩
      have hrest (position : Nat) : decodeFrom position 0 (encodeAll rest) = .ok rest :=
        ih position fun d hd => ht d (by simp [hd])
      show decodeFrom position 0 (encodeCodePoint c ++ encodeAll rest) = .ok (c :: rest)
      rw [hencode, List.cons_append, decodeFrom, hstep]
      dsimp only
      rw [Nat.add_sub_cancel, decodeFrom_skip, hrest]
      rfl

theorem decode_of_encode {t : Text} {octets : List Octet} (h : encode t = .ok octets) :
    decode octets = .ok t := by
  rcases encode_eq_ok.mp h with ⟨ht, rfl⟩
  exact decodeFrom_encodeAll 0 ht

end Utf8

end ContainerDesk
