import ContainerDesk.Proofs.Number.Rounding

/-!
# Exact results

A whole number below `2 ^ 53`, times a power of two that is neither too small nor too large,
is a number of the format.  So such a whole number is not rounded, and a quotient that is a
number of the format is not rounded either.
-/

namespace ContainerDesk

namespace Binary64

theorem normalized_bounds {n : Nat} (hzero : n ≠ 0) (hlog : n.log2 ≤ 52) :
    2 ^ 52 ≤ n * 2 ^ (52 - n.log2) ∧ n * 2 ^ (52 - n.log2) < 2 ^ 53 := by
  constructor
  · calc 2 ^ 52 = 2 ^ n.log2 * 2 ^ (52 - n.log2) := by
          rw [← Nat.pow_add, Nat.add_sub_cancel' hlog]
      _ ≤ n * 2 ^ (52 - n.log2) := Nat.mul_le_mul_right _ (Nat.log2_self_le hzero)
  · calc n * 2 ^ (52 - n.log2) < 2 ^ (n.log2 + 1) * 2 ^ (52 - n.log2) :=
          Nat.mul_lt_mul_of_pos_right Nat.lt_log2_self (Nat.two_pow_pos _)
      _ = 2 ^ 53 := by rw [← Nat.pow_add, show n.log2 + 1 + (52 - n.log2) = 53 by omega]

theorem exists_units {n : Nat} (shift : Nat) (hn : n < 2 ^ 53) (hlow : 52 ≤ shift)
    (hhigh : shift < 1994) :
    ∃ exponent fraction, units exponent fraction = n * 2 ^ shift := by
  by_cases hzero : n = 0
  · refine ⟨⟨0, by decide⟩, ⟨0, by decide⟩, ?_⟩
    rw [hzero, Nat.zero_mul, units_of_zero rfl]
  · have hlog : n.log2 ≤ 52 := Nat.le_of_lt_succ ((Nat.log2_lt hzero).mpr hn)
    rcases normalized_bounds hzero hlog with ⟨hleast, hmost⟩
    have hcount := fractionCount_eq
    -- The leading one of the shifted number is the one that the format leaves out.
    refine ⟨⟨n.log2 + shift - 52 + 1, by omega⟩,
      ⟨n * 2 ^ (52 - n.log2) - fractionCount, by omega⟩, ?_⟩
    rw [units_of_ne_zero (Nat.succ_ne_zero _), Nat.add_sub_cancel' (by omega), Nat.add_sub_cancel,
      Nat.mul_assoc, ← Nat.pow_add]
    congr 2
    omega

/-- A quotient that is a number of the format is that number. -/
theorem nearest_of_units (negative : Bool) {num den : Nat} {exponent : Fin 2047}
    {fraction : Fin fractionCount} (hden : 0 < den)
    (h : num * unitsPerOne = units exponent fraction * den) :
    nearest negative num den = .finite negative exponent fraction := by
  rw [nearest_eq_nearest negative hden unitsPerOne_pos h, nearest_units]

theorem ofInt_of_units {n : Nat} {exponent : Fin 2047} {fraction : Fin fractionCount}
    (h : units exponent fraction = n * unitsPerOne) :
    ofInt n = .finite false exponent fraction := by
  have hsign : decide ((n : Int) < 0) = false := decide_eq_false (by omega)
  rw [ofInt, hsign, Int.natAbs_natCast]
  exact nearest_of_units false Nat.one_pos (by rw [h, Nat.mul_one])

theorem divide_of_units (negative : Bool) {divisor : Nat} {exponent exponent' : Fin 2047}
    {fraction fraction' : Fin fractionCount} (hdivisor : 0 < divisor)
    (h : units exponent fraction = units exponent' fraction' * divisor) :
    (finite negative exponent fraction).divide divisor = .finite negative exponent' fraction' := by
  apply nearest_of_units negative (Nat.mul_pos unitsPerOne_pos hdivisor)
  rw [h, Nat.mul_assoc, Nat.mul_comm divisor]

end Binary64

end ContainerDesk
