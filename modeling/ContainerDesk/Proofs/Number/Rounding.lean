import ContainerDesk.Number.Binary64
import Mathlib.Algebra.Group.Nat.Even

/-!
# Rounding to binary64

What rounding to the nearest number makes of a quotient depends on the quotient alone,
not on how it is written.  A number of the format is its own rounding, too large a
quotient gives infinity and too small a one zero.
-/

namespace ContainerDesk

/-!
# Whole numbers near a quotient
-/

theorem roundHalfEven_mul (num den : Nat) {c : Nat} (hc : 0 < c) :
    roundHalfEven (num * c) (den * c) = roundHalfEven num den := by
  have hlow : 2 * (num % den * c) < den * c ↔ 2 * (num % den) < den := by
    rw [← Nat.mul_assoc]
    exact Nat.mul_lt_mul_right hc
  have hhigh : den * c < 2 * (num % den * c) ↔ den < 2 * (num % den) := by
    rw [← Nat.mul_assoc]
    exact Nat.mul_lt_mul_right hc
  simp only [roundHalfEven, Nat.mul_div_mul_right _ _ hc, Nat.mul_mod_mul_right, hlow, hhigh]

theorem roundHalfEven_exact (n : Nat) {den : Nat} (hden : 0 < den) :
    roundHalfEven (n * den) den = n := by
  simp [roundHalfEven, Nat.mul_div_cancel _ hden, hden]

/-- The whole number below the quotient or the one above it, by what is left; with half a unit left
the even one. -/
theorem roundHalfEven_cases (num den : Nat) :
    (2 * (num % den) < den ∧ roundHalfEven num den = num / den) ∨
      (den < 2 * (num % den) ∧ roundHalfEven num den = num / den + 1) ∨
      (2 * (num % den) = den ∧ roundHalfEven num den = num / den + num / den % 2) := by
  unfold roundHalfEven
  dsimp only
  split
  · omega
  · split <;> omega

theorem le_roundHalfEven (num den : Nat) : num / den ≤ roundHalfEven num den := by
  have hcases := roundHalfEven_cases num den
  omega

theorem roundHalfEven_le (num den : Nat) : roundHalfEven num den ≤ num / den + 1 := by
  have hcases := roundHalfEven_cases num den
  omega

theorem roundHalfEven_eq_zero {num den : Nat} (h : 2 * num < den) : roundHalfEven num den = 0 := by
  have hlt : num < den := by omega
  simp [roundHalfEven, Nat.mod_eq_of_lt hlt, Nat.div_eq_of_lt hlt, h]

theorem roundHalfEven_mono (den : Nat) {num num' : Nat} (h : num ≤ num') :
    roundHalfEven num den ≤ roundHalfEven num' den := by
  rcases Nat.eq_or_lt_of_le (Nat.div_le_div_right (c := den) h) with heq | hlt
  · have hrest : num % den ≤ num' % den := by
      have hnum := Nat.div_add_mod num den
      have hnum' := Nat.div_add_mod num' den
      rw [heq] at hnum
      omega
    have hcases := roundHalfEven_cases num den
    have hcases' := roundHalfEven_cases num' den
    rw [heq] at hcases
    omega
  · exact Nat.le_trans (roundHalfEven_le num den) (Nat.le_trans hlt (le_roundHalfEven num' den))

theorem roundHalfEven_bounds (num : Nat) {den : Nat} (hden : 0 < den) :
    2 * num ≤ (2 * roundHalfEven num den + 1) * den ∧
      2 * roundHalfEven num den * den ≤ 2 * num + den := by
  have hsplit := Nat.div_add_mod' num den
  have hrest := Nat.mod_lt num hden
  rcases roundHalfEven_cases num den with ⟨hlow, hround⟩ | ⟨hhigh, hround⟩ | ⟨htie, hround⟩
  · rw [hround]
    constructor <;> grind
  · rw [hround]
    constructor <;> grind
  · rw [hround]
    rcases Nat.mod_two_eq_zero_or_one (num / den) with heven | hodd
    · rw [heven]
      constructor <;> grind
    · rw [hodd]
      constructor <;> grind

theorem roundHalfEven_even {num den : Nat} (hden : 0 < den)
    (htie : 2 * num = (2 * roundHalfEven num den + 1) * den ∨
      2 * roundHalfEven num den * den = 2 * num + den) : Even (roundHalfEven num den) := by
  have hsplit := Nat.div_add_mod' num den
  have hrest := Nat.mod_lt num hden
  rw [Nat.even_iff]
  rcases roundHalfEven_cases num den with ⟨hlow, hround⟩ | ⟨hhigh, hround⟩ | ⟨_, hround⟩
  · rw [hround] at htie
    grind
  · rw [hround] at htie
    grind
  · omega

namespace Binary64

theorem unitsPerOne_eq : unitsPerOne = 2 ^ 1074 := by
  unfold unitsPerOne
  generalize 1074 = width
  rfl

theorem unitsPerOne_pos : 0 < unitsPerOne := by
  rw [unitsPerOne_eq]
  generalize 1074 = width
  exact Nat.two_pow_pos width

theorem spacing_eq (size : Nat) : spacing size = 2 ^ (size.log2 - 52) := rfl

theorem spacing_pos (size : Nat) : 0 < spacing size :=
  Nat.two_pow_pos _

theorem fractionCount_eq : fractionCount = 2 ^ 52 := rfl

/-!
# Quotients
-/

theorem nearest_mul (negative : Bool) (num den : Nat) {c : Nat} (hc : 0 < c) :
    nearest negative (num * c) (den * c) = nearest negative num den := by
  have hnum : num * c * unitsPerOne = num * unitsPerOne * c := Nat.mul_right_comm _ _ _
  simp only [nearest, hnum, Nat.mul_div_mul_right _ _ hc]
  rw [Nat.mul_right_comm den c, roundHalfEven_mul _ _ hc]

/-- Rounding does not see how a quotient is written. -/
theorem nearest_eq_nearest (negative : Bool) {num den num' den' : Nat} (hden : 0 < den)
    (hden' : 0 < den') (h : num * den' = num' * den) :
    nearest negative num den = nearest negative num' den' := by
  rw [← nearest_mul negative num den hden', ← nearest_mul negative num' den' hden, h,
    Nat.mul_comm den den']

/-!
# Numbers of the format
-/

theorem units_of_zero {exponent : Fin 2047} (h : exponent.val = 0)
    (fraction : Fin fractionCount) : units exponent fraction = fraction.val := by
  rw [units, if_pos h]

theorem units_of_ne_zero {exponent : Fin 2047} (h : exponent.val ≠ 0)
    (fraction : Fin fractionCount) :
    units exponent fraction = (fractionCount + fraction.val) * 2 ^ (exponent.val - 1) := by
  rw [units, if_neg h]
  rfl

theorem log2_units {exponent : Fin 2047} (h : exponent.val ≠ 0)
    (fraction : Fin fractionCount) :
    (units exponent fraction).log2 = 52 + (exponent.val - 1) := by
  have hcount := fractionCount_eq
  have hfraction := fraction.isLt
  have hpow : 0 < 2 ^ (exponent.val - 1) := Nat.two_pow_pos _
  rw [units_of_ne_zero h, Nat.log2_eq_iff (Nat.ne_of_gt (Nat.mul_pos (by omega) hpow))]
  constructor
  · rw [Nat.pow_add]
    exact Nat.mul_le_mul_right _ (by omega)
  · rw [show 52 + (exponent.val - 1) + 1 = 53 + (exponent.val - 1) by omega, Nat.pow_add]
    exact Nat.mul_lt_mul_of_pos_right (by omega) hpow

theorem ofUnits_units (negative : Bool) (exponent : Fin 2047) (fraction : Fin fractionCount) :
    ofUnits negative (units exponent fraction) = .finite negative exponent fraction := by
  have hfraction := fraction.isLt
  have hexponent := exponent.isLt
  by_cases hzero : exponent.val = 0
  · rw [units_of_zero hzero, ofUnits, if_pos hfraction]
    congr 1
    · exact Fin.ext hzero.symm
    · exact Fin.ext (Nat.mod_eq_of_lt hfraction)
  · have hpow : 0 < 2 ^ (exponent.val - 1) := Nat.two_pow_pos _
    have hlarge : ¬units exponent fraction < fractionCount := by
      rw [units_of_ne_zero hzero, Nat.not_lt]
      calc fractionCount ≤ fractionCount + fraction.val := Nat.le_add_right _ _
        _ ≤ (fractionCount + fraction.val) * 2 ^ (exponent.val - 1) :=
          Nat.le_mul_of_pos_right _ hpow
    have hshift : 52 + (exponent.val - 1) - 52 = exponent.val - 1 := by omega
    have hlt : exponent.val - 1 + 1 < 2047 := by omega
    have hdiv : units exponent fraction / 2 ^ (exponent.val - 1) =
        fractionCount + fraction.val := by
      rw [units_of_ne_zero hzero, Nat.mul_div_cancel _ hpow]
    simp only [ofUnits, if_neg hlarge, log2_units hzero, hshift, dif_pos hlt]
    congr 1
    · exact Fin.ext (show exponent.val - 1 + 1 = exponent.val by omega)
    · apply Fin.ext
      show units exponent fraction / 2 ^ (exponent.val - 1) % fractionCount = fraction.val
      rw [hdiv, Nat.add_mod_left, Nat.mod_eq_of_lt hfraction]

theorem spacing_dvd_units (exponent : Fin 2047) (fraction : Fin fractionCount) :
    spacing (units exponent fraction) ∣ units exponent fraction := by
  have hcount := fractionCount_eq
  have hfraction := fraction.isLt
  by_cases hzero : exponent.val = 0
  · have hlog : fraction.val.log2 < 53 := by
      by_cases hf : fraction.val = 0
      · rw [hf, Nat.log2_zero]
        decide
      · exact (Nat.log2_lt hf).mpr (by omega)
    rw [units_of_zero hzero, spacing, show fraction.val.log2 - 52 = 0 by omega]
    exact Nat.one_dvd _
  · rw [spacing, log2_units hzero, units_of_ne_zero hzero,
      show 52 + (exponent.val - 1) - 52 = exponent.val - 1 by omega]
    exact Nat.dvd_mul_left _ _

theorem nearest_units (negative : Bool) (exponent : Fin 2047) (fraction : Fin fractionCount) :
    nearest negative (units exponent fraction) unitsPerOne =
      .finite negative exponent fraction := by
  rcases spacing_dvd_units exponent fraction with ⟨count, hcount⟩
  have hgap := spacing_pos (units exponent fraction)
  have hround : roundHalfEven (units exponent fraction * unitsPerOne)
      (unitsPerOne * spacing (units exponent fraction)) = count := by
    rw [Nat.mul_comm unitsPerOne, roundHalfEven_mul _ _ unitsPerOne_pos]
    have hexact := roundHalfEven_exact count hgap
    rw [Nat.mul_comm count, ← hcount] at hexact
    exact hexact
  rw [nearest, Nat.mul_div_cancel _ unitsPerOne_pos]
  show ofUnits negative (roundHalfEven _ _ * _) = _
  rw [hround, Nat.mul_comm count, ← hcount]
  exact ofUnits_units negative exponent fraction

/-!
# Beyond the format
-/

theorem le_log2_mul_pow {n k : Nat} (hn : n ≠ 0) (h : k ≤ n.log2) (m : Nat) :
    k + m ≤ (n * 2 ^ m).log2 := by
  have hpos : n * 2 ^ m ≠ 0 :=
    Nat.ne_of_gt (Nat.mul_pos (Nat.pos_of_ne_zero hn) (Nat.two_pow_pos m))
  rw [Nat.le_log2 hpos, Nat.pow_add]
  exact Nat.mul_le_mul_right _ ((Nat.le_log2 hn).mp h)

theorem ofUnits_eq_infinite (negative : Bool) {size : Nat} (h : 2098 ≤ size.log2) :
    ofUnits negative size = .infinite negative := by
  have hsize : size ≠ 0 := by
    rintro rfl
    rw [Nat.log2_zero] at h
    omega
  have hlarge : ¬size < fractionCount := by
    rw [fractionCount_eq, ← Nat.log2_lt hsize]
    omega
  have hshift : ¬size.log2 - 52 + 1 < 2047 := by omega
  simp only [ofUnits, if_neg hlarge, dif_neg hshift]

theorem log2_le_log2_round {size : Nat} (h : 52 ≤ size.log2) :
    size.log2 ≤ (roundHalfEven size (spacing size) * spacing size).log2 := by
  have hne : size ≠ 0 := by
    rintro rfl
    rw [Nat.log2_zero] at h
    omega
  have hsplit : 2 ^ 52 * spacing size = 2 ^ size.log2 := by
    rw [spacing_eq, ← Nat.pow_add, Nat.add_sub_cancel' h]
  have hcount : 2 ^ 52 ≤ size / spacing size := by
    rw [Nat.le_div_iff_mul_le (spacing_pos size), hsplit]
    exact Nat.log2_self_le hne
  have hround : 2 ^ size.log2 ≤ roundHalfEven size (spacing size) * spacing size := by
    calc 2 ^ size.log2 = 2 ^ 52 * spacing size := hsplit.symm
      _ ≤ size / spacing size * spacing size := Nat.mul_le_mul_right _ hcount
      _ ≤ roundHalfEven size (spacing size) * spacing size :=
          Nat.mul_le_mul_right _ (le_roundHalfEven _ _)
  exact (Nat.le_log2 (Nat.ne_of_gt (Nat.lt_of_lt_of_le (Nat.two_pow_pos _) hround))).mpr hround

theorem nearest_eq_infinite (negative : Bool) {n : Nat} (h : 1024 ≤ n.log2) :
    nearest negative n 1 = .infinite negative := by
  have hn : n ≠ 0 := by
    rintro rfl
    rw [Nat.log2_zero] at h
    omega
  have hlog : 1024 + 1074 ≤ (n * unitsPerOne).log2 := by
    rw [unitsPerOne_eq]
    exact le_log2_mul_pow hn h 1074
  simp only [nearest, Nat.div_one, Nat.one_mul]
  apply ofUnits_eq_infinite
  exact Nat.le_trans hlog (log2_le_log2_round (by omega))

theorem nearest_eq_zero (negative : Bool) {num den : Nat} (h : 2 * (num * unitsPerOne) < den) :
    nearest negative num den = zero negative := by
  have hdiv : num * unitsPerOne / den = 0 := Nat.div_eq_of_lt (by omega)
  have hgap : spacing 0 = 1 := by decide
  simp only [nearest, hdiv, hgap, Nat.mul_one, roundHalfEven_eq_zero h]
  rfl

/-!
# Signs
-/

def signed (negative : Bool) : Binary64 → Binary64
  | .nan => .nan
  | .infinite _ => .infinite negative
  | .finite _ exponent fraction => .finite negative exponent fraction

theorem nearest_signed (negative : Bool) (num den : Nat) :
    nearest negative num den = signed negative (nearest false num den) := by
  unfold nearest ofUnits
  dsimp only
  split
  · rfl
  · split <;> rfl

end Binary64

end ContainerDesk
