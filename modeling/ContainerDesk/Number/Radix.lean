import ContainerDesk.Text.Quoted
import ContainerDesk.Number.Numeral

/-!
# Numerals of other radixes

Numerals with two, eight, ten or sixteen digits, the letters of the last one in lower
case.
-/

namespace ContainerDesk

inductive Radix where
  | binary
  | octal
  | decimal
  | hexadecimal
deriving DecidableEq

namespace Radix

def size : Radix → Nat
  | .binary => 2
  | .octal => 8
  | .decimal => 10
  | .hexadecimal => 16

def lead : Radix → Text
  | .binary => Text.of "0b"
  | .octal => Text.of "0o"
  | .decimal => []
  | .hexadecimal => Text.of "0x"

theorem two_le_size (radix : Radix) : 2 ≤ radix.size := by
  cases radix <;> decide

def write (radix : Radix) (n : Nat) : Text :=
  (if n < radix.size then [] else radix.write (n / radix.size)) ++ [hexDigit (n % radix.size)]
termination_by n
decreasing_by
  have h := radix.two_le_size
  exact Nat.div_lt_self (by omega) (by omega)

end Radix

end ContainerDesk
