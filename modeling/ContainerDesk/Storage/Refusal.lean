import ContainerDesk.Text.SystemText

/-!
# Refusals

Why an operation on files is refused, and the wording of it.  Most causes depend on
what the disk holds, and the system has a number for them.  Some lie in the path alone:
one with a zero or with a surrogate in it is no path at all, and the system is not even
asked.  A surrogate from U+DC80 to U+DCFF is no fault: it stands for a single octet.
-/

namespace ContainerDesk

namespace Disk

inductive Cause where
  | missing
  | exists
  | notFolder
  | isFolder
  | tooLong
  /-- The path has a zero in it. -/
  | zeroInPath
  /-- The path has surrogates in it. -/
  | surrogateInPath (fault : Utf8.Unencodable)
  /-- Too many folders on the way to the path are missing. -/
  | missingTooMany
deriving DecidableEq

structure Refusal where
  cause : Cause
  path : Text
deriving DecidableEq

namespace Cause

/-- The system's number of a cause, unless the system is not asked. -/
def number? : Cause → Option Nat
  | .missing => some 2
  | .exists => some 17
  | .notFolder => some 20
  | .isFolder => some 21
  | .tooLong => some 36
  | .zeroInPath | .surrogateInPath _ | .missingTooMany => none

def message : Cause → Text
  | .missing => Text.of "No such file or directory"
  | .exists => Text.of "File exists"
  | .notFolder => Text.of "Not a directory"
  | .isFolder => Text.of "Is a directory"
  | .tooLong => Text.of "File name too long"
  | .zeroInPath => Text.of "embedded null byte"
  | .surrogateInPath fault => fault.message
  | .missingTooMany => Text.of "maximum recursion depth exceeded while calling a Python object"

end Cause

namespace Refusal

def isBySystem (refusal : Refusal) : Bool :=
  refusal.cause.number?.isSome

def message (refusal : Refusal) : Text :=
  match refusal.cause.number? with
  | some number =>
      Text.of "[Errno " ++ numeral number ++ Text.of "] " ++ refusal.cause.message ++
        Text.of ": " ++ refusal.path.quoted
  | none => refusal.cause.message

end Refusal

/-!
# Paths in octets
-/

def octetCount (t : Text) : Nat :=
  t.foldl (fun count c => count + (SystemText.octetsOfCodePoint c).length) 0

def nameLimit : Nat := 255

def pathLimit : Nat := 4095

/-- The first surrogates of a path that stand for nothing, where the path starts at a position. -/
def strayFrom (position : Nat) : Text → Option Utf8.Unencodable
  | [] => none
  | c :: rest =>
      if c.isSurrogate && !SystemText.standsForOctet c then
        some ⟨c :: rest.takeWhile CodePoint.isSurrogate, position⟩
      else
        strayFrom (position + 1) rest

namespace Cause

/-- What keeps a text from the system, which takes octets up to a zero. -/
def ofText? (t : Text) : Option Cause :=
  match strayFrom 0 t with
  | some fault => some (.surrogateInPath fault)
  | none => if t.any (·.val = 0) then some .zeroInPath else none

/-- What is wrong with a path, whatever the disk holds. -/
def ofPath? (path : Text) : Option Cause :=
  match ofText? path with
  | some cause => some cause
  | none => if pathLimit < octetCount path then some .tooLong else none

end Cause

end Disk

end ContainerDesk
