/-!
# Text

A text is a list of code points.  A code point is any number below `0x110000`,
surrogates included, because a settings file may spell a lone surrogate with an
escape and the desk has to carry it around.  Lengths, slices and the order of
texts all count code points.
-/

namespace ContainerDesk

/-- A code point, lone surrogates included. -/
abbrev CodePoint := Fin 0x110000

/-- A text is its sequence of code points. -/
abbrev Text := List CodePoint

instance : LawfulBEq CodePoint := inferInstance

instance : LawfulBEq Text := inferInstance

abbrev Octet := Fin 256

namespace CodePoint

def ofChar (c : Char) : CodePoint :=
  ⟨c.toNat, by
    have h := c.valid
    simp only [UInt32.isValidChar, Nat.isValidChar] at h
    have hval : c.toNat = c.val.toNat := rfl
    omega⟩

/-- The code point with number `n`, wrapped around at the end of the range. -/
def ofNat (n : Nat) : CodePoint :=
  ⟨n % 0x110000, Nat.mod_lt _ (by decide)⟩

/-- One half of a surrogate pair, which has no encoding of its own. -/
def isSurrogate (c : CodePoint) : Bool :=
  0xD800 ≤ c.val && c.val ≤ 0xDFFF

def isDigit (c : CodePoint) : Bool :=
  48 ≤ c.val && c.val ≤ 57

def digitValue (c : CodePoint) : Nat :=
  c.val - 48

end CodePoint

/-- Ranges of code points, both ends included. -/
abbrev CodeRanges := List (Nat × Nat)

namespace CodeRanges

def covers (ranges : CodeRanges) (c : CodePoint) : Bool :=
  ranges.any fun range => range.1 ≤ c.val && c.val ≤ range.2

end CodeRanges

namespace Text

def of (s : String) : Text :=
  s.toList.map CodePoint.ofChar

/-- Code point order of texts, as a truth value. -/
def atMost : Text → Text → Bool
  | [], _ => true
  | _ :: _, [] => false
  | c :: s, d :: t => c.val < d.val || (c = d && atMost s t)

def occursIn (needle : Text) : Text → Bool
  | [] => needle.isEmpty
  | c :: rest => needle.isPrefixOf (c :: rest) || occursIn needle rest

def joinWith (separator : Text) : List Text → Text
  | [] => []
  | [part] => part
  | part :: next :: rest => part ++ separator ++ joinWith separator (next :: rest)

/-- The pieces of a text between the occurrences of one code point. -/
def pieces (mark : CodePoint) : Text → List Text
  | [] => [[]]
  | c :: rest =>
      if c = mark then
        [] :: pieces mark rest
      else
        match pieces mark rest with
        | [] => [[c]]
        | piece :: others => (c :: piece) :: others

/-- The characters of a text; what is no character becomes the replacement mark. -/
def toChars (t : Text) : List Char :=
  t.map fun c => if c.isSurrogate then '\uFFFD' else Char.ofNat c.val

end Text

/-- The elements of a list without repeats, each at its first place. -/
def distinct {α : Type} [DecidableEq α] : List α → List α
  | [] => []
  | x :: rest => x :: (distinct rest).filter (· ≠ x)

/-!
# Elements without repeats

The three facts that fix `distinct`: it has the same elements, none twice, and
it leaves a list without repeats alone.
-/

theorem mem_distinct {α : Type} [DecidableEq α] {x : α} {xs : List α} :
    x ∈ distinct xs ↔ x ∈ xs := by
  induction xs with
  | nil => simp [distinct]
  | cons y rest ih =>
      by_cases h : x = y <;> simp [distinct, ih, h]

theorem nodup_distinct {α : Type} [DecidableEq α] (xs : List α) : (distinct xs).Nodup := by
  induction xs with
  | nil => simp [distinct]
  | cons x rest ih =>
      simp only [distinct, List.nodup_cons]
      refine ⟨by simp, ih.filter _⟩

end ContainerDesk
