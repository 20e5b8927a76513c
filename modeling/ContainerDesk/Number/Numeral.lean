import ContainerDesk.Text.Basic

/-!
# Numerals

Decimal numerals of natural numbers and integers, and their values.  A numeral has
no leading zeros.  Messages and files hold numerals of at most `digitLimit` digits;
`integerNumeral?` refuses longer ones.
-/

namespace ContainerDesk

def digit (d : Nat) : CodePoint :=
  CodePoint.ofNat (48 + d % 10)

def numeral (n : Nat) : Text :=
  (if n < 10 then [] else numeral (n / 10)) ++ [digit (n % 10)]
termination_by n

def digitsValue (digits : Text) : Nat :=
  digits.foldl (fun value c => 10 * value + c.digitValue) 0

def integerNumeral (n : Int) : Text :=
  if n < 0 then Text.of "-" ++ numeral n.natAbs else numeral n.natAbs

/-- The most digits that a numeral may have in a message or in a file. -/
def digitLimit : Nat := 4300

def integerNumeral? (n : Int) : Option Text :=
  if n.natAbs < Nat.pow 10 digitLimit then some (integerNumeral n) else none

/-!
# Numerals and their values

A numeral is a row of digits, and the number it stands for is the one it was made
of.
-/

theorem digit_val {d : Nat} (h : d < 10) : (digit d).val = 48 + d := by
  simp only [digit, CodePoint.ofNat]
  omega

theorem isDigit_digit (d : Nat) : (digit d).isDigit = true := by
  have h : (digit (d % 10)).val = 48 + d % 10 := digit_val (by omega)
  have hd : digit (d % 10) = digit d := by simp [digit]
  rw [← hd, CodePoint.isDigit, h]
  simp
  omega

theorem digitsValue_append_digit (digits : Text) (c : CodePoint) :
    digitsValue (digits ++ [c]) = 10 * digitsValue digits + c.digitValue := by
  simp [digitsValue]

theorem isDigit_of_mem_numeral (n : Nat) : ∀ c ∈ numeral n, c.isDigit = true := by
  induction n using Nat.strongRecOn with
  | ind n ih =>
      intro c hc
      rw [numeral] at hc
      split at hc
      · simp only [List.nil_append, List.mem_singleton] at hc
        exact hc ▸ isDigit_digit _
      · rcases List.mem_append.mp hc with hc | hc
        · exact ih (n / 10) (by omega) c hc
        · simp only [List.mem_singleton] at hc
          exact hc ▸ isDigit_digit _

theorem digitsValue_numeral (n : Nat) : digitsValue (numeral n) = n := by
  induction n using Nat.strongRecOn with
  | ind n ih =>
      rw [numeral, digitsValue_append_digit, CodePoint.digitValue, digit_val (by omega)]
      split
      · simp only [digitsValue, List.foldl_nil]
        omega
      · rw [ih (n / 10) (by omega)]
        omega

theorem numeral_ne_nil (n : Nat) : numeral n ≠ [] := by
  rw [numeral]
  simp

end ContainerDesk
