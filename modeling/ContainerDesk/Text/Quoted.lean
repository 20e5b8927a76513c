import ContainerDesk.Text.Printable

/-!
# Quoted texts

Messages show a text between quotes so that its ends and its invisible parts can
be seen.  The quote is a single one, unless the text holds a single quote and no
double one.  The quote and the backslash are escaped with a backslash, tab, line
feed and carriage return by a letter, and what has no printed form by its number
in lower-case hexadecimal: two, four or eight digits, the fewest that are enough.
A row of octets is quoted in the same way after the letter `b`, all octets outside
printable ASCII by two digits.
-/

namespace ContainerDesk

def hexDigit (n : Nat) : CodePoint :=
  CodePoint.ofNat (if n % 16 < 10 then 48 + n % 16 else 87 + n % 16)

/-- The last `width` hexadecimal digits of a number. -/
def hexDigits : (width : Nat) → Nat → Text
  | 0, _ => []
  | width + 1, n => hexDigits width (n / 16) ++ [hexDigit n]

namespace Text

def singleQuote : CodePoint := CodePoint.ofNat 39

def doubleQuote : CodePoint := CodePoint.ofNat 34

def backslash : CodePoint := CodePoint.ofNat 92

/-- The quote for contents whose single and double quotes are reported by the two flags. -/
def quoteFor (hasSingle hasDouble : Bool) : CodePoint :=
  if hasSingle && !hasDouble then doubleQuote else singleQuote

def numbered (c : CodePoint) : Text :=
  if c.val < 0x100 then
    Text.of "\\x" ++ hexDigits 2 c.val
  else if c.val < 0x10000 then
    Text.of "\\u" ++ hexDigits 4 c.val
  else
    Text.of "\\U" ++ hexDigits 8 c.val

def quoteCodePoint (quote c : CodePoint) : Text :=
  if c = quote || c = backslash then
    [backslash, c]
  else if c.val = 9 then
    Text.of "\\t"
  else if c.val = 10 then
    Text.of "\\n"
  else if c.val = 13 then
    Text.of "\\r"
  else if c.isPrintable then
    [c]
  else
    numbered c

def quoted (t : Text) : Text :=
  let quote := quoteFor (t.contains singleQuote) (t.contains doubleQuote)
  [quote] ++ t.flatMap (quoteCodePoint quote) ++ [quote]

end Text

namespace Octet

def toCodePoint (o : Octet) : CodePoint :=
  ⟨o.val, Nat.lt_trans o.isLt (by decide)⟩

def quoteOctet (quote : CodePoint) (o : Octet) : Text :=
  if o.val < 127 then Text.quoteCodePoint quote (toCodePoint o) else Text.numbered (toCodePoint o)

end Octet

namespace Text

def quotedOctets (octets : List Octet) : Text :=
  let quote :=
    quoteFor (octets.any fun o => o.val = 39) (octets.any fun o => o.val = 34)
  Text.of "b" ++ [quote] ++ octets.flatMap (Octet.quoteOctet quote) ++ [quote]

end Text

end ContainerDesk
