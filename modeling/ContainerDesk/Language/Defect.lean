import ContainerDesk.Number.Radix
import ContainerDesk.Value.Basic

/-!
# Defects of templates

What can be wrong with a template or with the layout of one of its fields, and the
wording of each.
-/

namespace ContainerDesk

namespace Template

inductive Defect where
  /-- A left brace ends the template. -/
  | loneOpening
  /-- A right brace without a left one. -/
  | loneClosing
  /-- The template ends within the name of a field. -/
  | unclosedField
  /-- A left brace within the name of a field. -/
  | openingInName
  /-- The template ends where a conversion has to stand. -/
  | noConversion
  /-- Something other than a layout comes after a conversion. -/
  | noColon
  /-- The template ends within the layout of a field. -/
  | unclosedLayout
  | unknownConversion (letter : CodePoint)
  /-- A name has a point or a pair of brackets with nothing to look for. -/
  | emptyStep
  | unclosedBracket
  | strayAfterBracket
  | numberTooLong
  /-- A layout within a layout within a layout. -/
  | nestedTooDeep
  | noLayout (layout : Text) (kind : Kind)
  | unknownCode (code : CodePoint) (kind : Kind)
  | missingPrecision
  | bothSeparators
  | separatorWith (separator code : CodePoint)
  | signOfText
  | spaceOfText
  | plainZeroOfText
  | alternateText
  | afterSignOfText
  | precisionOfInteger
  | plainZeroOfInteger
  | signOfCharacter
  | alternateCharacter
  | precisionTooLarge

namespace Defect

/-- A code point as itself where it is visible and below a bound, by its number otherwise. -/
def shownBelow (bound : Nat) (c : CodePoint) : Text :=
  if 32 < c.val && c.val < bound then
    [c]
  else
    Text.of "\\x" ++ Radix.hexadecimal.write c.val

def forKind (kind : Kind) : Text :=
  Text.of " for object of type '" ++ kind.name ++ Text.of "'"

def message : Defect → Text
  | .loneOpening => Text.of "Single '\x7b' encountered in format string"
  | .loneClosing => Text.of "Single '\x7d' encountered in format string"
  | .unclosedField => Text.of "expected '\x7d' before end of string"
  | .openingInName => Text.of "unexpected '\x7b' in field name"
  | .noConversion => Text.of "end of string while looking for conversion specifier"
  | .noColon => Text.of "expected ':' after conversion specifier"
  | .unclosedLayout => Text.of "unmatched '\x7b' in format spec"
  | .unknownConversion letter =>
      Text.of "Unknown conversion specifier " ++ shownBelow 127 letter
  | .emptyStep => Text.of "Empty attribute in format string"
  | .unclosedBracket => Text.of "Missing ']' in format string"
  | .strayAfterBracket =>
      Text.of "Only '.' or '[' may follow ']' in format field specifier"
  | .numberTooLong => Text.of "Too many decimal digits in format string"
  | .nestedTooDeep => Text.of "Max string recursion exceeded"
  | .noLayout layout kind =>
      Text.of "Invalid format specifier '" ++ layout ++ Text.of "'" ++ forKind kind
  | .unknownCode code kind =>
      Text.of "Unknown format code '" ++ shownBelow 128 code ++ Text.of "'" ++ forKind kind
  | .missingPrecision => Text.of "Format specifier missing precision"
  | .bothSeparators => Text.of "Cannot specify both ',' and '_'."
  | .separatorWith separator code =>
      Text.of "Cannot specify '" ++ [separator] ++ Text.of "' with '" ++ shownBelow 128 code ++
        Text.of "'."
  | .signOfText => Text.of "Sign not allowed in string format specifier"
  | .spaceOfText => Text.of "Space not allowed in string format specifier"
  | .plainZeroOfText =>
      Text.of "Negative zero coercion (z) not allowed in string format specifier"
  | .alternateText => Text.of "Alternate form (#) not allowed in string format specifier"
  | .afterSignOfText => Text.of "'=' alignment not allowed in string format specifier"
  | .precisionOfInteger => Text.of "Precision not allowed in integer format specifier"
  | .plainZeroOfInteger =>
      Text.of "Negative zero coercion (z) not allowed in integer format specifier"
  | .signOfCharacter => Text.of "Sign not allowed with integer format specifier 'c'"
  | .alternateCharacter =>
      Text.of "Alternate form (#) not allowed with integer format specifier 'c'"
  | .precisionTooLarge => Text.of "precision too big"

end Defect

end Template

end ContainerDesk
