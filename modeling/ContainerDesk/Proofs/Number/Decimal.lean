import ContainerDesk.Number.Decimal
import ContainerDesk.Proofs.Number.Numeral
import ContainerDesk.Proofs.Number.Rounding

/-!
# Decimals

The bounds of the exponent within which a decimal is rounded do not show: rounding
beyond them would give infinity or zero as well.  So what a decimal reads as depends on
its value alone, and the zeros at the end of its digits can be left out.

The shortest decimal of a number reads back as the number, with either sign.
-/

namespace ContainerDesk

namespace Binary64

/-- The number nearest to a decimal, without any bound on the exponent. -/
def nearestDecimal (negative : Bool) (digits : Nat) (exponent : Int) : Binary64 :=
  nearest negative (digits * 10 ^ exponent.toNat) (10 ^ (-exponent).toNat)

theorem two_pow_le_ten_pow (count : Nat) : 2 ^ (3 * count) ≤ 10 ^ count := by
  rw [Nat.pow_mul]
  exact Nat.pow_le_pow_left (by decide) count

theorem nearestDecimal_zero (negative : Bool) (exponent : Int) :
    nearestDecimal negative 0 exponent = zero negative := by
  apply nearest_eq_zero
  rw [Nat.zero_mul, Nat.zero_mul, Nat.mul_zero]
  exact Nat.pow_pos (by decide)

theorem nearestDecimal_large (negative : Bool) {digits : Nat} {exponent : Int}
    (hdigits : digits ≠ 0) (h : decimalReach < exponent) :
    nearestDecimal negative digits exponent = .infinite negative := by
  have hreach : 400 < exponent := h
  have hden : (-exponent).toNat = 0 := by omega
  have hlog : 3 * exponent.toNat ≤ (digits * 10 ^ exponent.toNat).log2 := by
    have hpow : 2 ^ (3 * exponent.toNat) ≤ digits * 10 ^ exponent.toNat :=
      Nat.le_trans (two_pow_le_ten_pow _)
        (Nat.le_mul_of_pos_left _ (Nat.pos_of_ne_zero hdigits))
    have hne : digits * 10 ^ exponent.toNat ≠ 0 :=
      Nat.ne_of_gt (Nat.lt_of_lt_of_le (Nat.two_pow_pos _) hpow)
    exact (Nat.le_log2 hne).mpr hpow
  rw [nearestDecimal, hden, Nat.pow_zero]
  exact nearest_eq_infinite negative (by omega)

theorem nearestDecimal_small (negative : Bool) {digits : Nat} {exponent : Int}
    (hneg : exponent < 0) (h : decimalReach + (numeral digits).length < exponent.natAbs) :
    nearestDecimal negative digits exponent = zero negative := by
  have hnum : exponent.toNat = 0 := by omega
  have hden : (-exponent).toNat = exponent.natAbs := by omega
  have hsplit : exponent.natAbs =
      (numeral digits).length + (exponent.natAbs - (numeral digits).length) := by
    omega
  have hgap : 1074 + 1 ≤ 3 * (exponent.natAbs - (numeral digits).length) := by
    have hreach : decimalReach = 400 := rfl
    omega
  have hunits : unitsPerOne * 2 ≤ 10 ^ (exponent.natAbs - (numeral digits).length) := by
    rw [unitsPerOne_eq]
    generalize 1074 = width at hgap
    rw [← Nat.pow_succ]
    exact Nat.le_trans (Nat.pow_le_pow_right (by decide) hgap) (two_pow_le_ten_pow _)
  rw [nearestDecimal, hnum, hden, Nat.pow_zero, Nat.mul_one]
  apply nearest_eq_zero
  rw [hsplit, Nat.pow_add, Nat.mul_comm 2, Nat.mul_assoc]
  exact Nat.lt_of_lt_of_le
    (Nat.mul_lt_mul_of_pos_right (lt_pow_length_numeral digits)
      (Nat.mul_pos unitsPerOne_pos (by decide)))
    (Nat.mul_le_mul_left _ hunits)

/-- The bounds of the exponent do not show. -/
theorem ofDecimal_eq (negative : Bool) (digits : Nat) (exponent : Int) :
    ofDecimal negative digits exponent = nearestDecimal negative digits exponent := by
  unfold ofDecimal
  by_cases hdigits : digits = 0
  · rw [if_pos hdigits, hdigits, nearestDecimal_zero]
  · rw [if_neg hdigits]
    by_cases hsign : 0 ≤ exponent
    · rw [if_pos hsign]
      by_cases hreach : exponent ≤ decimalReach
      · have hnum : exponent.natAbs = exponent.toNat := by omega
        have hden : (-exponent).toNat = 0 := by omega
        rw [if_pos hreach, nearestDecimal, hnum, hden, Nat.pow_eq, Nat.pow_zero]
      · rw [if_neg hreach, nearestDecimal_large negative hdigits (by omega)]
    · rw [if_neg hsign]
      by_cases hreach : exponent.natAbs ≤ decimalReach + (numeral digits).length
      · have hnum : exponent.toNat = 0 := by omega
        have hden : (-exponent).toNat = exponent.natAbs := by omega
        rw [if_pos hreach, nearestDecimal, hnum, hden, Nat.pow_eq, Nat.pow_zero, Nat.mul_one]
      · rw [if_neg hreach, nearestDecimal_small negative (by omega) (by omega)]

/-!
# The value of a decimal
-/

theorem ofDecimal_zero (negative : Bool) (exponent : Int) :
    ofDecimal negative 0 exponent = zero negative := by
  rw [ofDecimal, if_pos rfl]

theorem ofDecimal_mul_pow (negative : Bool) (digits count : Nat) (exponent : Int) :
    ofDecimal negative (digits * 10 ^ count) exponent =
      ofDecimal negative digits (exponent + count) := by
  rw [ofDecimal_eq, ofDecimal_eq, nearestDecimal, nearestDecimal]
  apply nearest_eq_nearest
  · exact Nat.pow_pos (by decide)
  · exact Nat.pow_pos (by decide)
  · rw [Nat.mul_assoc, Nat.mul_assoc, Nat.mul_assoc, ← Nat.pow_add, ← Nat.pow_add,
      ← Nat.pow_add]
    congr 2
    omega

theorem ofDecimal_signed (negative : Bool) (digits : Nat) (exponent : Int) :
    ofDecimal negative digits exponent = signed negative (ofDecimal false digits exponent) := by
  rw [ofDecimal_eq, ofDecimal_eq]
  exact nearest_signed negative _ _

theorem ofDecimal_withoutTrailingZeros (negative : Bool) (digits : Nat) (exponent : Int) :
    ofDecimal negative (withoutTrailingZeros digits exponent).1
      (withoutTrailingZeros digits exponent).2 = ofDecimal negative digits exponent := by
  induction digits, exponent using withoutTrailingZeros.induct with
  | case1 digits exponent h ih =>
      have hmul : digits / 10 * 10 ^ 1 = digits := by omega
      have hshift := ofDecimal_mul_pow negative (digits / 10) 1 exponent
      rw [hmul] at hshift
      rw [withoutTrailingZeros, if_pos h, ih, hshift]
      rfl
  | case2 digits exponent h =>
      rw [withoutTrailingZeros, if_neg h]

theorem withoutTrailingZeros_ne_zero {digits : Nat} (exponent : Int) (hdigits : digits ≠ 0) :
    (withoutTrailingZeros digits exponent).1 ≠ 0 := by
  induction digits, exponent using withoutTrailingZeros.induct with
  | case1 digits exponent h ih =>
      rw [withoutTrailingZeros, if_pos h]
      exact ih (by omega)
  | case2 digits exponent h =>
      rw [withoutTrailingZeros, if_neg h]
      exact hdigits

/-!
# The shortest decimal
-/

theorem ofDecimal_units (exponent : Fin 2047) (fraction : Fin fractionCount) :
    ofDecimal false (units exponent fraction * Nat.pow 5 1074) (-1074) =
      .finite false exponent fraction := by
  rw [ofDecimal_eq, ← nearest_units false exponent fraction]
  apply nearest_eq_nearest
  · exact Nat.pow_pos (by decide)
  · exact unitsPerOne_pos
  · rw [show (-1074 : Int).toNat = 0 by decide, show (-(-1074 : Int)).toNat = 1074 by decide,
      Nat.pow_zero, Nat.mul_one, unitsPerOne_eq, Nat.mul_assoc]
    generalize 1074 = width
    rw [Nat.pow_eq, ← Nat.mul_pow]

theorem ofDecimal_neighbour {x : Binary64} {size digits : Nat} {exponent : Int}
    (h : neighbour? x size exponent = some digits) : ofDecimal false digits exponent = x := by
  unfold neighbour? at h
  dsimp only at h
  generalize (if 0 ≤ exponent then size else size * Nat.pow 10 exponent.natAbs) = num at h
  generalize (if 0 ≤ exponent then unitsPerOne * Nat.pow 10 exponent.natAbs else unitsPerOne) =
    den at h
  split at h
  · rename_i hbelow habove
    have hlow := le_roundHalfEven num den
    have hhigh := roundHalfEven_le num den
    rcases (show roundHalfEven num den = num / den ∨ roundHalfEven num den = num / den + 1 by
      omega) with hround | hround
    · rw [← Option.some.inj h, hround]
      exact of_decide_eq_true hbelow
    · rw [← Option.some.inj h, hround]
      exact of_decide_eq_true habove
  · rename_i hbelow _
    rw [← Option.some.inj h]
    exact of_decide_eq_true hbelow
  · rename_i _ habove
    rw [← Option.some.inj h]
    exact of_decide_eq_true habove
  · cases h

theorem ofDecimal_shortest (negative : Bool) (exponent : Fin 2047) (fraction : Fin fractionCount) :
    ofDecimal negative (shortest exponent fraction).1 (shortest exponent fraction).2 =
      .finite negative exponent fraction := by
  have hpositive : ofDecimal false (shortest exponent fraction).1 (shortest exponent fraction).2 =
      .finite false exponent fraction := by
    unfold shortest
    dsimp only
    generalize hfound : ((List.range 17).findSome? fun (count : Nat) =>
      (neighbour? (.finite false exponent fraction) (units exponent fraction)
        (pointPosition (units exponent fraction) - (count + 1))).map fun digits =>
          (digits, pointPosition (units exponent fraction) - ((count : Int) + 1))) = found
    cases found with
    | none => exact ofDecimal_units exponent fraction
    | some decimal =>
        rcases List.exists_of_findSome?_eq_some hfound with ⟨count, _, hcount⟩
        rcases Option.map_eq_some_iff.mp hcount with ⟨digits, hdigits, rfl⟩
        exact ofDecimal_neighbour hdigits
  rw [ofDecimal_signed, hpositive]
  rfl

theorem shortest_ne_zero {exponent : Fin 2047} {fraction : Fin fractionCount}
    (h : units exponent fraction ≠ 0) : (shortest exponent fraction).1 ≠ 0 := by
  intro hzero
  have hback := ofDecimal_shortest false exponent fraction
  rw [hzero, ofDecimal_zero, zero, Binary64.finite.injEq] at hback
  rcases hback with ⟨_, hexponent, hfraction⟩
  apply h
  rw [← hexponent, ← hfraction]
  rfl

end Binary64

end ContainerDesk
