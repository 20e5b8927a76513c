import ContainerDesk.Fault

/-!
# Reading JSON

The reader for settings files.  It takes the JSON grammar with three more number
words, `NaN`, `Infinity` and `-Infinity`, and lets escapes spell lone surrogates.
Numbers without point and exponent are integers of any size up to the digit limit.
Of two entries with one key the later one gives the value and the earlier one the
place.  Lists and tables stand in each other to a limited depth.

A misreading names its cause and the place where it shows: where the reader stood
when nothing fitted, or where an unfinished text or a bad escape starts.
-/

namespace ContainerDesk

namespace Json

inductive Defect where
  | noValue
  | noName
  | noColon
  | noComma
  | unterminatedText
  | controlCharacter
  | badEscape
  | badCodePointEscape
  | extraData
  | byteOrderMark
deriving DecidableEq

def Defect.message : Defect → Text
  | .noValue => Text.of "Expecting value"
  | .noName => Text.of "Expecting property name enclosed in double quotes"
  | .noColon => Text.of "Expecting ':' delimiter"
  | .noComma => Text.of "Expecting ',' delimiter"
  | .unterminatedText => Text.of "Unterminated string starting at"
  | .controlCharacter => Text.of "Invalid control character at"
  | .badEscape => Text.of "Invalid \\escape"
  | .badCodePointEscape => Text.of "Invalid \\uXXXX escape"
  | .extraData => Text.of "Extra data"
  | .byteOrderMark => Text.of "Unexpected UTF-8 BOM (decode using utf-8-sig)"

inductive Misreading where
  | at (defect : Defect) (position : Nat)
  | tooManyDigits (count : Nat)
  /-- A list or a table beyond the limit of the depth. -/
  | tooDeep (isTable : Bool)
deriving DecidableEq

/-- A place in a text: what has been read, counted, and what is still to be read. -/
structure Cursor where
  position : Nat
  rest : Text

abbrev Reading (α : Type) := Except Misreading (α × Cursor)

def isBlank (c : CodePoint) : Bool :=
  c.val = 32 || c.val = 9 || c.val = 10 || c.val = 13

def skipBlanks (cursor : Cursor) : Cursor :=
  ⟨cursor.position + (cursor.rest.takeWhile isBlank).length, cursor.rest.dropWhile isBlank⟩

/-!
# Texts
-/

def hexValue? (c : CodePoint) : Option Nat :=
  if c.isDigit then
    some c.digitValue
  else if 97 ≤ c.val && c.val ≤ 102 then
    some (c.val - 87)
  else if 65 ≤ c.val && c.val ≤ 70 then
    some (c.val - 55)
  else
    none

def hexQuad? (a b c d : CodePoint) : Option Nat :=
  match hexValue? a, hexValue? b, hexValue? c, hexValue? d with
  | some a, some b, some c, some d => some (((a * 16 + b) * 16 + c) * 16 + d)
  | _, _, _, _ => none

def escaped? (c : CodePoint) : Option CodePoint :=
  match c.val with
  | 34 | 92 | 47 => some c
  | 98 => some (CodePoint.ofNat 8)
  | 102 => some (CodePoint.ofNat 12)
  | 110 => some (CodePoint.ofNat 10)
  | 114 => some (CodePoint.ofNat 13)
  | 116 => some (CodePoint.ofNat 9)
  | _ => none

def isHighSurrogate (n : Nat) : Bool :=
  0xD800 ≤ n && n ≤ 0xDBFF

def isLowSurrogate (n : Nat) : Bool :=
  0xDC00 ≤ n && n ≤ 0xDFFF

/-- The second half of a surrogate pair, when its escape follows and is itself followed by
something. -/
inductive PairTail where
  | none
  | malformed
  | low (n : Nat) (rest : Text)

def pairTail : Text → PairTail
  | slash :: u :: a :: b :: c :: d :: next :: rest =>
      if slash.val = 92 && u.val = 117 then
        match hexQuad? a b c d with
        | some n => if isLowSurrogate n then .low n (next :: rest) else .none
        | none => .malformed
      else
        .none
  | _ => .none

/-- What an escape with four digits stands for: the code point, how much of the text after
the backslash it takes, and what follows it.  A high surrogate takes the low one after it
along. -/
def codePointEscape (position : Nat) : Text → Except Misreading (CodePoint × Nat × Text)
  | a :: b :: c :: d :: next :: rest =>
      match hexQuad? a b c d with
      | none => .error (.at .badCodePointEscape (position + 1))
      | some n =>
          if isHighSurrogate n then
            match pairTail (next :: rest) with
            | .none => .ok (CodePoint.ofNat n, 6, next :: rest)
            | .malformed => .error (.at .badCodePointEscape (position + 7))
            | .low low rest =>
                .ok (CodePoint.ofNat (0x10000 + (n - 0xD800) * 0x400 + (low - 0xDC00)), 12, rest)
          else
            .ok (CodePoint.ofNat n, 6, next :: rest)
  | _ => .error (.at .badCodePointEscape (position + 1))

theorem length_pairTail {t rest : Text} {n : Nat} (h : pairTail t = .low n rest) :
    rest.length < t.length := by
  unfold pairTail at h
  repeat' split at h
  all_goals simp_all
  obtain ⟨_, rfl⟩ := h
  simp

theorem length_codePointEscape {position width : Nat} {t rest : Text} {c : CodePoint}
    (h : codePointEscape position t = .ok (c, width, rest)) : rest.length < t.length := by
  unfold codePointEscape at h
  split at h
  · split at h
    · simp at h
    · split at h
      · split at h
        · simp only [Except.ok.injEq, Prod.mk.injEq] at h
          obtain ⟨_, _, rfl⟩ := h
          simp
        · simp at h
        · rename_i hlow
          simp only [Except.ok.injEq, Prod.mk.injEq] at h
          obtain ⟨_, _, rfl⟩ := h
          have := length_pairTail hlow
          simp only [List.length_cons] at this ⊢
          omega
      · simp only [Except.ok.injEq, Prod.mk.injEq] at h
        obtain ⟨_, _, rfl⟩ := h
        simp
  · simp at h

/-- The rest of a text whose quote stands at `start`; the reader stands at `position`. -/
def readTextFrom (start position : Nat) (t : Text) : Reading Text :=
  match t with
  | [] => .error (.at .unterminatedText start)
  | c :: rest =>
      if c.val = 34 then
        .ok ([], ⟨position + 1, rest⟩)
      else if c.val = 92 then
        match rest with
        | [] => .error (.at .unterminatedText start)
        | mark :: rest =>
            if mark.val = 117 then
              match _h : codePointEscape position rest with
              | .error fault => .error fault
              | .ok (c, width, rest') =>
                  match readTextFrom start (position + width) rest' with
                  | .error fault => .error fault
                  | .ok (others, cursor) => .ok (c :: others, cursor)
            else
              match escaped? mark with
              | none => .error (.at .badEscape position)
              | some c =>
                  match readTextFrom start (position + 2) rest with
                  | .error fault => .error fault
                  | .ok (others, cursor) => .ok (c :: others, cursor)
      else if c.val < 32 then
        .error (.at .controlCharacter position)
      else
        match readTextFrom start (position + 1) rest with
        | .error fault => .error fault
        | .ok (others, cursor) => .ok (c :: others, cursor)
termination_by t.length
decreasing_by
  · have := length_codePointEscape _h
    simp only [List.length_cons]
    omega
  · simp only [List.length_cons]
    omega
  · simp only [List.length_cons]
    omega

/-!
# Numbers
-/

def fractionDigits : Text → Text
  | point :: rest => if point.val = 46 then rest.takeWhile CodePoint.isDigit else []
  | [] => []

def exponentPart? : Text → Option (Nat × Int)
  | mark :: rest =>
      if mark.val = 101 || mark.val = 69 then
        let (signLength, negative, rest) :=
          match rest with
          | sign :: digits =>
              if sign.val = 45 then (1, true, digits)
              else if sign.val = 43 then (1, false, digits)
              else (0, false, rest)
          | [] => (0, false, rest)
        let digits := rest.takeWhile CodePoint.isDigit
        if digits.isEmpty then
          none
        else
          let size : Int := digitsValue digits
          some (1 + signLength + digits.length, if negative then -size else size)
      else
        none
  | [] => none

def readNumber (cursor : Cursor) : Reading Value :=
  let (negative, unsigned) :=
    match cursor.rest with
    | sign :: rest => if sign.val = 45 then (true, rest) else (false, cursor.rest)
    | [] => (false, [])
  let whole :=
    match unsigned with
    | c :: _ => if c.val = 48 then [c] else unsigned.takeWhile CodePoint.isDigit
    | [] => []
  if whole.isEmpty then
    .error (.at .noValue cursor.position)
  else
    let afterWhole := unsigned.drop whole.length
    let places := fractionDigits afterWhole
    let placesLength := if places.isEmpty then 0 else 1 + places.length
    let exponent := exponentPart? (afterWhole.drop placesLength)
    let exponentLength := (exponent.map (·.1)).getD 0
    let length := (if negative then 1 else 0) + whole.length + placesLength + exponentLength
    let after : Cursor := ⟨cursor.position + length, cursor.rest.drop length⟩
    if places.isEmpty && !exponent.isSome then
      if digitLimit < whole.length then
        .error (.tooManyDigits whole.length)
      else
        let size : Int := digitsValue whole
        .ok (.int (if negative then -size else size), after)
    else
      let power := (exponent.map (·.2)).getD 0
      .ok (.float (Binary64.ofDecimal negative (digitsValue (whole ++ places))
        (power - places.length)), after)

/-!
# Values
-/

def words : List (Text × Value) :=
  [
    (Text.of "null", .null), (Text.of "true", .bool true), (Text.of "false", .bool false),
    (Text.of "NaN", .float .nan), (Text.of "Infinity", .float (.infinite false)),
    (Text.of "-Infinity", .float (.infinite true))
  ]

def readWord? (cursor : Cursor) : Option (Value × Cursor) :=
  (words.find? fun word => word.1.isPrefixOf cursor.rest).map fun word =>
    (word.2, ⟨cursor.position + word.1.length, cursor.rest.drop word.1.length⟩)

def tableOf (entries : List (Text × Value)) : List (Text × Value) :=
  entries.foldl (fun table entry => putEntry entry.1 entry.2 table) []

mutual

/-- The value at the cursor, in which `depth` more lists and tables may be opened. -/
def readValue (depth fuel : Nat) (cursor : Cursor) : Reading Value :=
  match fuel with
  | 0 => .error (.at .noValue cursor.position)
  | fuel + 1 =>
      match cursor.rest with
      | [] => .error (.at .noValue cursor.position)
      | c :: rest =>
          if c.val = 34 then
            match readTextFrom cursor.position (cursor.position + 1) rest with
            | .error fault => .error fault
            | .ok (t, after) => .ok (.text t, after)
          else if depth = 0 && (c.val = 123 || c.val = 91) then
            .error (.tooDeep (c.val = 123))
          else if c.val = 123 then
            let inside := skipBlanks ⟨cursor.position + 1, rest⟩
            match inside.rest with
            | [] => .error (.at .noName inside.position)
            | d :: rest =>
                if d.val = 125 then
                  .ok (.table [], ⟨inside.position + 1, rest⟩)
                else
                  match readEntries (depth - 1) fuel inside with
                  | .error fault => .error fault
                  | .ok (entries, after) => .ok (.table (tableOf entries), after)
          else if c.val = 91 then
            let inside := skipBlanks ⟨cursor.position + 1, rest⟩
            match inside.rest with
            | [] => .error (.at .noValue inside.position)
            | d :: rest =>
                if d.val = 93 then
                  .ok (.list [], ⟨inside.position + 1, rest⟩)
                else
                  match readItems (depth - 1) fuel inside with
                  | .error fault => .error fault
                  | .ok (items, after) => .ok (.list items, after)
          else
            match readWord? cursor with
            | some found => .ok found
            | none => readNumber cursor

def readItems (depth fuel : Nat) (cursor : Cursor) : Reading (List Value) :=
  match fuel with
  | 0 => .error (.at .noValue cursor.position)
  | fuel + 1 =>
      match readValue depth fuel cursor with
      | .error fault => .error fault
      | .ok (item, after) =>
          let after := skipBlanks after
          match after.rest with
          | [] => .error (.at .noComma after.position)
          | c :: rest =>
              if c.val = 93 then
                .ok ([item], ⟨after.position + 1, rest⟩)
              else if c.val = 44 then
                match readItems depth fuel (skipBlanks ⟨after.position + 1, rest⟩) with
                | .error fault => .error fault
                | .ok (items, after) => .ok (item :: items, after)
              else
                .error (.at .noComma after.position)

def readEntries (depth fuel : Nat) (cursor : Cursor) : Reading (List (Text × Value)) :=
  match fuel with
  | 0 => .error (.at .noName cursor.position)
  | fuel + 1 =>
      match cursor.rest with
      | [] => .error (.at .noName cursor.position)
      | quote :: rest =>
          if quote.val ≠ 34 then
            .error (.at .noName cursor.position)
          else
            match readTextFrom cursor.position (cursor.position + 1) rest with
            | .error fault => .error fault
            | .ok (key, after) =>
                let after := skipBlanks after
                match after.rest with
                | [] => .error (.at .noColon after.position)
                | colon :: rest =>
                    if colon.val ≠ 58 then
                      .error (.at .noColon after.position)
                    else
                      match readValue depth fuel (skipBlanks ⟨after.position + 1, rest⟩) with
                      | .error fault => .error fault
                      | .ok (value, after) =>
                          let after := skipBlanks after
                          match after.rest with
                          | [] => .error (.at .noComma after.position)
                          | c :: rest =>
                              if c.val = 125 then
                                .ok ([(key, value)], ⟨after.position + 1, rest⟩)
                              else if c.val = 44 then
                                match readEntries depth fuel
                                    (skipBlanks ⟨after.position + 1, rest⟩) with
                                | .error fault => .error fault
                                | .ok (entries, after) => .ok ((key, value) :: entries, after)
                              else
                                .error (.at .noComma after.position)

end

/-- Enough fuel for any value of a text: a step that takes nothing off the text is followed
by one that does. -/
def fuelFor (t : Text) : Nat :=
  2 * t.length + 2

/-- How many lists and tables may stand in each other. -/
def depthLimit : Nat := 988

def read (t : Text) : Except Misreading Value :=
  if t.head? = some (CodePoint.ofNat 0xFEFF) then
    .error (.at .byteOrderMark 0)
  else
    match readValue depthLimit (fuelFor t) (skipBlanks ⟨0, t⟩) with
    | .error fault => .error fault
    | .ok (value, after) =>
        let after := skipBlanks after
        if after.rest.isEmpty then .ok value else .error (.at .extraData after.position)

def located (document : Text) (defect : Defect) (position : Nat) : Text :=
  let before := document.take position
  let line := before.countP (fun c => c.val = 10) + 1
  let column := (before.reverse.takeWhile fun c => c.val ≠ 10).length + 1
  defect.message ++ Text.of ": line " ++ numeral line ++ Text.of " column " ++
    numeral column ++ Text.of " (char " ++ numeral position ++ Text.of ")"

def Misreading.fault (document : Text) : Misreading → Fault
  | .at defect position => .badValue (located document defect position)
  | .tooManyDigits count => .badValue (Fault.tooLongToRead count)
  | .tooDeep isTable =>
      .nestingTooDeep (Text.of " while decoding a JSON " ++
        Text.of (if isTable then "object" else "array") ++ Text.of " from a unicode string")

end Json

end ContainerDesk
