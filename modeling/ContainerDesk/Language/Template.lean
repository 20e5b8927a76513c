import ContainerDesk.Language.Reference

/-!
# Templates

A template is a text with fields in braces, and filling it puts the value that each
field refers to in its place.  Two braces in a row stand for one.

A field is a name, then maybe a mark `!` and a letter for the conversion, then maybe a
colon and a layout.  A layout may hold fields itself, which are filled first.  Fields
are filled from left to right, so a field that cannot be filled counts before anything
that is wrong behind it.
-/

namespace ContainerDesk

namespace Template

def opening : CodePoint := CodePoint.ofChar '\x7b'

def closing : CodePoint := CodePoint.ofChar '\x7d'

def conversionMark : CodePoint := CodePoint.ofChar '!'

def layoutMark : CodePoint := CodePoint.ofChar ':'

def broken {α : Type} (defect : Defect) : Except Fault α :=
  .error (.badTemplate defect)

/-!
# Fields
-/

structure Field where
  name : Text
  conversion : Option CodePoint
  layout : Text

def endsName (c : CodePoint) : Bool :=
  c = opening || c = closing || c = conversionMark || c = layoutMark

/-- The name at the front of a text, and the rest from the mark on that ends the name.  Marks
in brackets do not end it. -/
def spanName (isInBrackets : Bool) : Text → Text × Text
  | [] => ([], [])
  | c :: rest =>
      if !isInBrackets && endsName c then
        ([], c :: rest)
      else
        let staysIn := if isInBrackets then decide (c ≠ closeBracket) else decide (c = openBracket)
        let (name, after) := spanName staysIn rest
        (c :: name, after)

/-- The layout at the front of a text, and what comes after the right brace that ends it.
Braces in a layout come in pairs. -/
def spanLayout? : (depth : Nat) → Text → Option (Text × Text)
  | _, [] => none
  | depth, c :: rest =>
      let kept (inner : Option (Text × Text)) : Option (Text × Text) :=
        inner.map fun parts => (c :: parts.1, parts.2)
      if c = opening then
        kept (spanLayout? (depth + 1) rest)
      else if c = closing then
        match depth with
        | 0 => some ([], rest)
        | depth + 1 => kept (spanLayout? depth rest)
      else
        kept (spanLayout? depth rest)

def readLayout (name : Text) (conversion : Option CodePoint) (t : Text) :
    Except Fault (Field × Text) :=
  match spanLayout? 0 t with
  | some (layout, after) => .ok (⟨name, conversion, layout⟩, after)
  | none => broken .unclosedLayout

def readField (t : Text) : Except Fault (Field × Text) :=
  let (name, after) := spanName false t
  match after with
  | [] => broken .unclosedField
  | mark :: rest =>
      if mark = opening then
        broken .openingInName
      else if mark = closing then
        .ok (⟨name, none, []⟩, rest)
      else if mark = layoutMark then
        readLayout name none rest
      else
        match rest with
        | [] => broken .noConversion
        | [_] => broken .unclosedLayout
        | conversion :: next :: rest =>
            if next = closing then
              .ok (⟨name, some conversion, []⟩, rest)
            else if next = layoutMark then
              readLayout name (some conversion) rest
            else
              broken .noColon

def asciiOnly (t : Text) : Text :=
  t.flatMap fun c => if c.val < 128 then [c] else Text.numbered c

/-- A subject as a conversion wants it: the letter `r` stands for quotes, `a` for quotes in
ASCII, `s` for the plain words.  The null character converts nothing. -/
def convert (subject : Subject) (letter : CodePoint) : Except Fault Subject :=
  let asText (t : Text) : Subject := .value (.text t)
  if letter.val = 0 then
    .ok subject
  else if letter = CodePoint.ofChar 'r' then
    subject.shownQuoted.map asText
  else if letter = CodePoint.ofChar 's' then
    subject.shown.map asText
  else if letter = CodePoint.ofChar 'a' then
    subject.shownQuoted.map fun t => asText (asciiOnly t)
  else
    broken (.unknownConversion letter)

/-- Fills a field; `expand` fills the fields in its layout. -/
def fillField (values : List (Text × Value)) (expand : Text → Except Fault Text)
    (field : Field) : Except Fault Text := do
  let subject ← refer values field.name
  let subject ←
    match field.conversion with
    | some letter => convert subject letter
    | none => .ok subject
  let layout ← if field.layout.contains opening then expand field.layout else .ok field.layout
  subject.laidOut layout

/-!
# Filling
-/

def fillWithin (values : List (Text × Value)) (expand : Text → Except Fault Text) :
    (bound : Nat) → Text → Except Fault Text
  | _, [] => .ok []
  | 0, _ => .ok []
  | bound + 1, c :: rest =>
      if c = opening then
        match rest with
        | [] => broken .loneOpening
        | next :: others =>
            if next = opening then
              (fillWithin values expand bound others).map (opening :: ·)
            else do
              let (field, after) ← readField rest
              let shown ← fillField values expand field
              let filled ← fillWithin values expand bound after
              .ok (shown ++ filled)
      else if c = closing then
        match rest with
        | [] => broken .loneClosing
        | next :: others =>
            if next = closing then
              (fillWithin values expand bound others).map (closing :: ·)
            else
              broken .loneClosing
      else
        (fillWithin values expand bound rest).map (c :: ·)

def fillLayout (values : List (Text × Value)) (layout : Text) : Except Fault Text :=
  fillWithin values (fun _ => broken .nestedTooDeep) layout.length layout

def fill (template : Text) (values : List (Text × Value)) : Except Fault Text :=
  fillWithin values (fillLayout values) template.length template

def insert (template name value : Text) : Text :=
  match fill template [(name, .text value)] with
  | .ok t => t
  | .error _ => template

end Template

end ContainerDesk
