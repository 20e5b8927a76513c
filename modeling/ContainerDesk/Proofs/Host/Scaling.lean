import ContainerDesk.Host.Size
import ContainerDesk.Proofs.Number.Exact
import Mathlib.Order.Bounds.Basic

/-!
# Scaling a size

A size below `2 ^ 53` is scaled up to larger units without any rounding: at each unit the
amount is exactly the size in that unit.  So the comparison with the next unit is one of
whole numbers, and the scaling ends at the largest unit of which the size has at least one.
-/

namespace ContainerDesk

namespace Size

open Binary64

def units : List Text :=
  firstUnit :: higherUnits

/-- Is a number exactly a size in the unit at a place? -/
def IsAmount (x : Binary64) (octets place : Nat) : Prop :=
  ∃ exponent fraction, x = .finite false exponent fraction ∧
    Binary64.units exponent fraction * step ^ place = octets * unitsPerOne

/-- Is a place that of the largest unit of which a size has at least one?  The first unit is
reached by any size. -/
def IsReached (octets place : Nat) : Prop :=
  IsGreatest {k | k ≤ 4 ∧ (k = 0 ∨ 1024 ^ k ≤ octets)} place

variable {octets place : Nat} {x : Binary64}

theorem step_pow_pos (place : Nat) : 0 < step ^ place :=
  Nat.pow_pos (by decide)

theorem isReached_iff :
    IsReached octets place ↔
      place ≤ 4 ∧ (place = 0 ∨ step ^ place ≤ octets) ∧
        (place = 4 ∨ octets < step ^ (place + 1)) := by
  constructor
  · rintro ⟨⟨hplace, hreached⟩, hgreatest⟩
    refine ⟨hplace, hreached, ?_⟩
    by_contra hnot
    rw [not_or, Nat.not_lt] at hnot
    have hnext : place + 1 ≤ place := hgreatest ⟨by omega, Or.inr hnot.2⟩
    omega
  · rintro ⟨hplace, hreached, hnext⟩
    refine ⟨⟨hplace, hreached⟩, ?_⟩
    rintro other ⟨hother, hleast⟩
    by_contra hlt
    rw [Nat.not_le] at hlt
    have hover : step ^ (place + 1) ≤ step ^ other := Nat.pow_le_pow_right (by decide) hlt
    have hother' : step ^ other ≤ octets := hleast.resolve_left (by omega)
    omega

/-!
# Exact amounts
-/

theorem two_pow_mul_step_pow (hplace : place ≤ 4) :
    2 ^ (1074 - 10 * place) * step ^ place = unitsPerOne := by
  have hle : 10 * place ≤ 1074 := by omega
  rw [unitsPerOne_eq, show step = 2 ^ 10 from rfl, ← Nat.pow_mul]
  generalize 1074 = width at hle ⊢
  rw [← Nat.pow_add, Nat.sub_add_cancel hle]

theorem exists_isAmount (hoctets : octets < 2 ^ 53) (hplace : place ≤ 4) :
    ∃ exponent fraction,
      Binary64.units exponent fraction * step ^ place = octets * unitsPerOne := by
  rcases exists_units (1074 - 10 * place) hoctets (by omega) (by omega) with
    ⟨exponent, fraction, hunits⟩
  refine ⟨exponent, fraction, ?_⟩
  rw [hunits, Nat.mul_assoc, two_pow_mul_step_pow hplace]

theorem isAmount_ofInt (hoctets : octets < 2 ^ 53) : IsAmount (ofInt octets) octets 0 := by
  rcases exists_isAmount hoctets (Nat.zero_le 4) with ⟨exponent, fraction, hunits⟩
  exact ⟨exponent, fraction, ofInt_of_units (by rwa [Nat.pow_zero, Nat.mul_one] at hunits), hunits⟩

theorem IsAmount.divide (h : IsAmount x octets place) (hoctets : octets < 2 ^ 53)
    (hplace : place + 1 ≤ 4) : IsAmount (x.divide step) octets (place + 1) := by
  rcases h with ⟨exponent, fraction, rfl, hunits⟩
  rcases exists_isAmount hoctets hplace with ⟨exponent', fraction', hunits'⟩
  refine ⟨exponent', fraction', divide_of_units false (by decide) ?_, hunits'⟩
  apply Nat.eq_of_mul_eq_mul_right (step_pow_pos place)
  rw [hunits, ← hunits', Nat.pow_succ', Nat.mul_assoc]

theorem IsAmount.atLeast_iff (h : IsAmount x octets place) :
    x.atLeast step = true ↔ step ^ (place + 1) ≤ octets := by
  rcases h with ⟨exponent, fraction, rfl, hunits⟩
  have hscaled : step * unitsPerOne ≤ Binary64.units exponent fraction ↔
      step * unitsPerOne * step ^ place ≤ octets * unitsPerOne := by
    rw [← hunits, Nat.mul_le_mul_right_iff (step_pow_pos place)]
  rw [atLeast, if_neg Bool.false_ne_true, decide_eq_true_eq, hscaled, Nat.mul_right_comm,
    ← Nat.pow_succ', Nat.mul_le_mul_right_iff unitsPerOne_pos]

/-!
# The units that are passed
-/

theorem exists_scale (unit : Text) (larger : List Text) (hx : IsAmount x octets place)
    (hoctets : octets < 2 ^ 53) (hplace : place + larger.length ≤ 4)
    (hreached : place = 0 ∨ step ^ place ≤ octets) :
    ∃ amount count last, scale x unit larger = (amount, last) ∧
      IsAmount amount octets (place + count) ∧ (unit :: larger)[count]? = some last ∧
      (place + count = 0 ∨ step ^ (place + count) ≤ octets) ∧
      (count = larger.length ∨ octets < step ^ (place + count + 1)) := by
  induction larger generalizing x unit place with
  | nil => exact ⟨x, 0, unit, rfl, hx, rfl, hreached, Or.inl rfl⟩
  | cons next larger ih =>
      rw [List.length_cons] at hplace
      -- The amount is still exact in the next unit, so the comparison there decides the same.
      by_cases hnext : x.atLeast step = true
      · rcases ih next (hx.divide hoctets (by omega)) (by omega) (Or.inr (hx.atLeast_iff.mp hnext))
          with ⟨amount, count, last, hscale, hamount, hlast, hleast, hend⟩
        rw [show place + 1 + count = place + (count + 1) by omega] at hamount hleast hend
        refine ⟨amount, count + 1, last, ?_, hamount, hlast, hleast, ?_⟩
        · rw [scale, if_pos hnext, hscale]
        · rwa [List.length_cons, Nat.add_left_inj]
      · refine ⟨x, 0, unit, ?_, hx, rfl, hreached, Or.inr ?_⟩
        · rw [scale, if_neg hnext]
        · rwa [hx.atLeast_iff, Nat.not_le] at hnext

/-- The scaling of a size ends at the unit that it reaches, with the exact amount. -/
theorem exists_scaled (hoctets : octets < 2 ^ 53) :
    ∃ amount place unit, scale (ofInt octets) firstUnit higherUnits = (amount, unit) ∧
      IsAmount amount octets place ∧ units[place]? = some unit ∧ IsReached octets place := by
  rcases exists_scale firstUnit higherUnits (isAmount_ofInt hoctets) hoctets (Nat.le_refl 4)
    (Or.inl rfl) with ⟨amount, count, last, hscale, hamount, hlast, hleast, hend⟩
  rw [Nat.zero_add] at hamount hleast hend
  have hcount : count < units.length := (List.getElem?_eq_some_iff.mp hlast).1
  exact ⟨amount, count, last, hscale, hamount, hlast,
    isReached_iff.mpr ⟨Nat.le_of_lt_succ hcount, hleast, hend⟩⟩

end Size

end ContainerDesk
