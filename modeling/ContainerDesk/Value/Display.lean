import ContainerDesk.Number.Decimal
import ContainerDesk.Text.Quoted
import ContainerDesk.Value.Basic

/-!
# Values in messages

`Value.quoted` shows a value so that its kind can be told: texts and octets stand
in quotes.  `Value.display` shows a text as it is and all else in the same way.
Neither has an answer for a value with an integer beyond the digit limit.
-/

namespace ContainerDesk

namespace Value

def separator : Text :=
  Text.of ", "

def bracketed (opening closing : Text) (items : List Text) : Text :=
  opening ++ Text.joinWith separator items ++ closing

def tupleText : List Text → Text
  | [item] => Text.of "(" ++ item ++ Text.of ",)"
  | items => bracketed (Text.of "(") (Text.of ")") items

mutual

/-- The value as messages show it, quotes included. -/
def quoted : Value → Option Text
  | .null => some (Text.of "None")
  | .bool b => some (Text.of (if b then "True" else "False"))
  | .int n => integerNumeral? n
  | .float x => some x.write
  | .text t => some t.quoted
  | .bytes octets => some (Text.quotedOctets octets)
  | .list items =>
      (quotedItems items).map (bracketed (Text.of "[") (Text.of "]"))
  | .tuple items => (quotedItems items).map tupleText
  | .table entries =>
      (quotedEntries entries).map
        (bracketed (Text.of "\x7b") (Text.of "\x7d"))

def quotedItems : List Value → Option (List Text)
  | [] => some []
  | item :: rest =>
      match quoted item, quotedItems rest with
      | some first, some others => some (first :: others)
      | _, _ => none

def quotedEntries : List (Text × Value) → Option (List Text)
  | [] => some []
  | (key, value) :: rest =>
      match quoted value, quotedEntries rest with
      | some first, some others =>
          some ((key.quoted ++ Text.of ": " ++ first) :: others)
      | _, _ => none

end

/-- The value as it stands inside a longer text: a text without quotes. -/
def display : Value → Option Text
  | .text t => some t
  | value => value.quoted

end Value

end ContainerDesk
