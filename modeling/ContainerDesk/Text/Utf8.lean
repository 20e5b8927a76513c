import ContainerDesk.Number.Numeral
import ContainerDesk.Text.Quoted

/-!
# UTF-8

Texts and octets.  `Utf8.encode` refuses surrogates and says where they stand.
`Utf8.step` reads one code point off the front or names the longest part that
cannot be continued to one; the strict reader stops there, the lenient one leaves
the part out and goes on after it.
-/

namespace ContainerDesk

namespace Utf8

/-!
# Writing
-/

def encodeCodePoint (c : CodePoint) : List Octet :=
  let octet (n : Nat) : Octet := ⟨n % 256, Nat.mod_lt _ (by decide)⟩
  if c.val < 0x80 then
    [octet c.val]
  else if c.val < 0x800 then
    [octet (0xC0 + c.val / 0x40), octet (0x80 + c.val % 0x40)]
  else if c.val < 0x10000 then
    [octet (0xE0 + c.val / 0x1000), octet (0x80 + c.val / 0x40 % 0x40),
      octet (0x80 + c.val % 0x40)]
  else
    [octet (0xF0 + c.val / 0x40000), octet (0x80 + c.val / 0x1000 % 0x40),
      octet (0x80 + c.val / 0x40 % 0x40), octet (0x80 + c.val % 0x40)]

/-- The octets of a text, whatever it holds. -/
def encodeAll (t : Text) : List Octet :=
  t.flatMap encodeCodePoint

/-- Surrogates in a row, which no octets stand for. -/
structure Unencodable where
  /-- The surrogates. -/
  run : Text
  /-- How many code points stand before them. -/
  position : Nat
deriving DecidableEq

def firstSurrogates (position : Nat) : Text → Option Unencodable
  | [] => none
  | c :: rest =>
      if c.isSurrogate then
        some ⟨c :: rest.takeWhile CodePoint.isSurrogate, position⟩
      else
        firstSurrogates (position + 1) rest

def encode (t : Text) : Except Unencodable (List Octet) :=
  match firstSurrogates 0 t with
  | some fault => .error fault
  | none => .ok (encodeAll t)

/-!
# Reading
-/

inductive Defect where
  | badStart
  | badContinuation
  | endOfData
deriving DecidableEq

inductive Step where
  /-- A code point in `width` octets. -/
  | scalar (c : CodePoint) (width : Nat)
  /-- A defect that takes `width` octets. -/
  | broken (defect : Defect) (width : Nat)
deriving DecidableEq

def isContinuation (o : Octet) : Bool :=
  0x80 ≤ o.val && o.val ≤ 0xBF

/-- Can `second` follow `first` at the start of a three-octet code point? -/
def followsInThree (first second : Octet) : Bool :=
  isContinuation second &&
    !(if second.val < 0xA0 then first.val = 0xE0 else first.val = 0xED)

def followsInFour (first second : Octet) : Bool :=
  isContinuation second &&
    !(if second.val < 0x90 then first.val = 0xF0 else first.val = 0xF4)

def payload (o : Octet) : Nat :=
  o.val % 0x40

def step (first : Octet) (rest : List Octet) : Step :=
  if first.val < 0x80 then
    .scalar (CodePoint.ofNat first.val) 1
  else if first.val < 0xC2 then
    .broken .badStart 1
  else if first.val < 0xE0 then
    match rest with
    | [] => .broken .endOfData 1
    | second :: _ =>
        if isContinuation second then
          .scalar (CodePoint.ofNat (first.val % 0x20 * 0x40 + payload second)) 2
        else
          .broken .badContinuation 1
  else if first.val < 0xF0 then
    match rest with
    | [] => .broken .endOfData 1
    | [second] =>
        if followsInThree first second then .broken .endOfData 2 else .broken .badContinuation 1
    | second :: third :: _ =>
        if !followsInThree first second then
          .broken .badContinuation 1
        else if !isContinuation third then
          .broken .badContinuation 2
        else
          .scalar (CodePoint.ofNat
            (first.val % 0x10 * 0x1000 + payload second * 0x40 + payload third)) 3
  else if first.val < 0xF5 then
    match rest with
    | [] => .broken .endOfData 1
    | [second] =>
        if followsInFour first second then .broken .endOfData 2 else .broken .badContinuation 1
    | [second, third] =>
        if !followsInFour first second then
          .broken .badContinuation 1
        else if !isContinuation third then
          .broken .badContinuation 2
        else
          .broken .endOfData 3
    | second :: third :: fourth :: _ =>
        if !followsInFour first second then
          .broken .badContinuation 1
        else if !isContinuation third then
          .broken .badContinuation 2
        else if !isContinuation fourth then
          .broken .badContinuation 3
        else
          .scalar (CodePoint.ofNat (first.val % 0x08 * 0x40000 + payload second * 0x1000 +
            payload third * 0x40 + payload fourth)) 4
  else
    .broken .badStart 1

def Step.width : Step → Nat
  | .scalar _ width => width
  | .broken _ width => width

structure Malformed where
  defect : Defect
  /-- The octets that stand for nothing. -/
  run : List Octet
  /-- How many octets stand before them. -/
  position : Nat
deriving DecidableEq

/-- The text of octets that start at a position, or their first defect.  The first octet of
a step is taken here, the others in the recursive call by `skip`. -/
def decodeFrom (position : Nat) (skip : Nat) : List Octet → Except Malformed Text
  | [] => .ok []
  | first :: rest =>
      match skip with
      | skip + 1 => decodeFrom (position + 1) skip rest
      | 0 =>
          match step first rest with
          | .scalar c width => (decodeFrom (position + 1) (width - 1) rest).map (c :: ·)
          | .broken defect width => .error ⟨defect, (first :: rest).take width, position⟩

def decode (octets : List Octet) : Except Malformed Text :=
  decodeFrom 0 0 octets

/-- The text of octets without the first `skip` of them; defects are left out. -/
def decodeLenientFrom (skip : Nat) : List Octet → Text
  | [] => []
  | first :: rest =>
      match skip with
      | skip + 1 => decodeLenientFrom skip rest
      | 0 =>
          match step first rest with
          | .scalar c width => c :: decodeLenientFrom (width - 1) rest
          | .broken _ width => decodeLenientFrom (width - 1) rest

def decodeLenient (octets : List Octet) : Text :=
  decodeLenientFrom 0 octets

/-!
# Messages
-/

def Defect.message : Defect → Text
  | .badStart => Text.of "invalid start byte"
  | .badContinuation => Text.of "invalid continuation byte"
  | .endOfData => Text.of "unexpected end of data"

def placesText (first last : Nat) : Text :=
  numeral first ++ (if first = last then [] else Text.of "-" ++ numeral last)

def Malformed.message (fault : Malformed) : Text :=
  let what :=
    match fault.run with
    | [octet] => Text.of " byte 0x" ++ hexDigits 2 octet.val ++ Text.of " in position "
    | _ => Text.of " bytes in position "
  Text.of "'utf-8' codec can't decode" ++ what ++
    placesText fault.position (fault.position + (fault.run.length - 1)) ++ Text.of ": " ++
    fault.defect.message

def Unencodable.message (fault : Unencodable) : Text :=
  let what :=
    match fault.run with
    | [c] => Text.of " character '" ++ Text.numbered c ++ Text.of "' in position "
    | _ => Text.of " characters in position "
  Text.of "'utf-8' codec can't encode" ++ what ++
    placesText fault.position (fault.position + (fault.run.length - 1)) ++
    Text.of ": surrogates not allowed"

end Utf8

end ContainerDesk
