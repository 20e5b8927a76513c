import ContainerDesk.Number.Numeral
import Mathlib.Algebra.Group.Nat.Defs

/-!
# Rows of digits

A numeral is a row of digits that does not start with a zero, unless it is the numeral
of zero.  Its length and its number bound each other.

Where a row of digits ends in a longer text can be seen from what follows it.
-/

namespace ContainerDesk

def IsDigitRow (t : Text) : Prop :=
  ∀ c ∈ t, c.isDigit = true

/-- A text that a row of digits cannot run into. -/
def EndsDigits (t : Text) : Prop :=
  ∀ c, t.head? = some c → c.isDigit = false

theorem isDigitRow_nil : IsDigitRow [] :=
  fun _ hc => absurd hc List.not_mem_nil

theorem isDigitRow_numeral (n : Nat) : IsDigitRow (numeral n) :=
  isDigit_of_mem_numeral n

theorem isDigitRow_append {s t : Text} (hs : IsDigitRow s) (ht : IsDigitRow t) :
    IsDigitRow (s ++ t) := by
  intro c hc
  rcases List.mem_append.mp hc with hc | hc
  · exact hs c hc
  · exact ht c hc

theorem IsDigitRow.take {t : Text} (h : IsDigitRow t) (count : Nat) :
    IsDigitRow (t.take count) :=
  fun c hc => h c (List.mem_of_mem_take hc)

theorem IsDigitRow.drop {t : Text} (h : IsDigitRow t) (count : Nat) :
    IsDigitRow (t.drop count) :=
  fun c hc => h c (List.mem_of_mem_drop hc)

theorem takeWhile_isDigit_append {row tail : Text} (hrow : IsDigitRow row)
    (htail : EndsDigits tail) : (row ++ tail).takeWhile CodePoint.isDigit = row := by
  rw [List.takeWhile_append_of_pos hrow]
  cases tail with
  | nil => simp
  | cons c rest =>
      have hc : c.isDigit = false := htail c rfl
      simp [hc]

/-!
# Numbers and lengths
-/

theorem numeral_of_lt {n : Nat} (h : n < 10) : numeral n = [digit n] := by
  rw [numeral, if_pos h, Nat.mod_eq_of_lt h, List.nil_append]

theorem numeral_of_le {n : Nat} (h : 10 ≤ n) :
    numeral n = numeral (n / 10) ++ [digit (n % 10)] := by
  rw [numeral, if_neg (Nat.not_lt.mpr h)]

theorem foldl_digits (start : Nat) (t : Text) :
    t.foldl (fun value c => 10 * value + c.digitValue) start =
      start * 10 ^ t.length + digitsValue t := by
  induction t generalizing start with
  | nil => simp [digitsValue]
  | cons c rest ih =>
      have hvalue : digitsValue (c :: rest) =
          (10 * 0 + c.digitValue) * 10 ^ rest.length + digitsValue rest := ih _
      rw [List.foldl_cons, ih, hvalue, List.length_cons, Nat.pow_succ, Nat.mul_zero,
        Nat.zero_add, Nat.add_mul, Nat.add_assoc]
      congr 1
      rw [Nat.mul_comm 10 start, Nat.mul_assoc, Nat.mul_comm 10]

theorem digitsValue_append (s t : Text) :
    digitsValue (s ++ t) = digitsValue s * 10 ^ t.length + digitsValue t := by
  rw [digitsValue, List.foldl_append, foldl_digits]
  rfl

theorem digitsValue_lt_pow {t : Text} (h : IsDigitRow t) : digitsValue t < 10 ^ t.length := by
  induction t with
  | nil => exact Nat.one_pos
  | cons c rest ih =>
      have hrest := ih fun d hd => h d (List.mem_cons_of_mem c hd)
      have hc : c.digitValue ≤ 9 := by
        have hdigit := h c List.mem_cons_self
        simp only [CodePoint.isDigit, Bool.and_eq_true, decide_eq_true_eq] at hdigit
        unfold CodePoint.digitValue
        omega
      have hsplit : digitsValue (c :: rest) =
          c.digitValue * 10 ^ rest.length + digitsValue rest := by
        rw [← List.singleton_append, digitsValue_append]
        simp [digitsValue]
      have hfront := Nat.mul_le_mul_right (10 ^ rest.length) hc
      rw [hsplit, List.length_cons, Nat.pow_succ]
      omega

theorem length_numeral_le {n count : Nat} (hcount : 0 < count) (h : n < 10 ^ count) :
    (numeral n).length ≤ count := by
  induction count generalizing n with
  | zero => exact absurd hcount (Nat.lt_irrefl 0)
  | succ count ih =>
      by_cases hn : n < 10
      · rw [numeral_of_lt hn, List.length_singleton]
        omega
      · have hcount : 0 < count := by
          rcases Nat.eq_zero_or_pos count with hzero | hpos
          · simp [hzero] at h
            exact absurd h hn
          · exact hpos
        have hdiv : n / 10 < 10 ^ count := by
          apply Nat.div_lt_of_lt_mul
          rw [Nat.mul_comm, ← Nat.pow_succ]
          exact h
        have hlength := ih hcount hdiv
        rw [numeral_of_le (Nat.not_lt.mp hn), List.length_append, List.length_singleton]
        omega

theorem lt_pow_length_numeral (n : Nat) : n < 10 ^ (numeral n).length := by
  induction n using Nat.strongRecOn with
  | ind n ih =>
      by_cases hn : n < 10
      · rw [numeral_of_lt hn, List.length_singleton]
        omega
      · have hdiv := ih (n / 10) (by omega)
        rw [numeral_of_le (Nat.not_lt.mp hn), List.length_append, List.length_singleton,
          Nat.pow_succ]
        omega

theorem head_numeral {n : Nat} (h : n ≠ 0) :
    ∃ c rest, numeral n = c :: rest ∧ c.isDigit = true ∧ c.val ≠ 48 := by
  induction n using Nat.strongRecOn with
  | ind n ih =>
      by_cases hn : n < 10
      · refine ⟨digit n, [], numeral_of_lt hn, isDigit_digit n, ?_⟩
        rw [digit_val hn]
        omega
      · rcases ih (n / 10) (by omega) (by omega) with ⟨c, rest, heq, hdigit, hc⟩
        refine ⟨c, rest ++ [digit (n % 10)], ?_, hdigit, hc⟩
        rw [numeral_of_le (Nat.not_lt.mp hn), heq, List.cons_append]

end ContainerDesk
