import ContainerDesk.Fault

/-!
# Writing JSON

The form of a settings file: every element of a list and every entry of a table on
a line of its own, two spaces further in than its list or table; code points
beyond ASCII as they are.  Tuples are written as lists.  Octets have no JSON form,
and integers beyond the digit limit no numeral.
-/

namespace ContainerDesk

namespace Json

def writeCodePoint (c : CodePoint) : Text :=
  match c.val with
  | 34 => Text.of "\\\""
  | 92 => Text.of "\\\\"
  | 8 => Text.of "\\b"
  | 9 => Text.of "\\t"
  | 10 => Text.of "\\n"
  | 12 => Text.of "\\f"
  | 13 => Text.of "\\r"
  | n => if n < 32 then Text.of "\\u" ++ hexDigits 4 n else [c]

def writeText (t : Text) : Text :=
  Text.of "\"" ++ t.flatMap writeCodePoint ++ Text.of "\""

def writeInteger (n : Int) : Except Fault Text :=
  match integerNumeral? n with
  | some t => .ok t
  | none => .error .tooLongToWrite

def writeFloat : Binary64 → Text
  | .nan => Text.of "NaN"
  | .infinite negative => Text.of (if negative then "-Infinity" else "Infinity")
  | x => x.write

def newLine (depth : Nat) : Text :=
  Text.of "\n" ++ List.replicate (2 * depth) (CodePoint.ofChar ' ')

def block (opening closing : Text) (depth : Nat) (parts : List Text) : Text :=
  opening ++ newLine (depth + 1) ++ Text.joinWith (Text.of "," ++ newLine (depth + 1)) parts ++
    newLine depth ++ closing

mutual

def writeAt (depth : Nat) : Value → Except Fault Text
  | .null => .ok (Text.of "null")
  | .bool b => .ok (Text.of (if b then "true" else "false"))
  | .int n => writeInteger n
  | .float x => .ok (writeFloat x)
  | .text t => .ok (writeText t)
  | .bytes _ => .error .wrongKind
  | .list [] => .ok (Text.of "[]")
  | .list (item :: items) =>
      match writeItems (depth + 1) (item :: items) with
      | .ok parts => .ok (block (Text.of "[") (Text.of "]") depth parts)
      | .error fault => .error fault
  | .tuple [] => .ok (Text.of "[]")
  | .tuple (item :: items) =>
      match writeItems (depth + 1) (item :: items) with
      | .ok parts => .ok (block (Text.of "[") (Text.of "]") depth parts)
      | .error fault => .error fault
  | .table [] => .ok (Text.of "\x7b\x7d")
  | .table (entry :: entries) =>
      match writeEntries (depth + 1) (entry :: entries) with
      | .ok parts => .ok (block (Text.of "\x7b") (Text.of "\x7d") depth parts)
      | .error fault => .error fault

def writeItems (depth : Nat) : List Value → Except Fault (List Text)
  | [] => .ok []
  | item :: rest =>
      match writeAt depth item with
      | .error fault => .error fault
      | .ok part =>
          match writeItems depth rest with
          | .error fault => .error fault
          | .ok parts => .ok (part :: parts)

def writeEntries (depth : Nat) : List (Text × Value) → Except Fault (List Text)
  | [] => .ok []
  | (key, value) :: rest =>
      match writeAt depth value with
      | .error fault => .error fault
      | .ok part =>
          match writeEntries depth rest with
          | .error fault => .error fault
          | .ok parts => .ok ((writeText key ++ Text.of ": " ++ part) :: parts)

end

def write (value : Value) : Except Fault Text :=
  writeAt 0 value

end Json

end ContainerDesk
