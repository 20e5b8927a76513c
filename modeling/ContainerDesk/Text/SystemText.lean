import ContainerDesk.Text.Utf8

/-!
# Texts as the system holds them

The system holds octets.  A text reaches it in UTF-8, and a surrogate from U+DC80 to
U+DCFF stands for a single octet.  A text that comes back is read as UTF-8, with such a
surrogate for each octet that is no part of a code point.  So two texts can be the same
to the system: surrogates that stand for the octets of one code point come back as that
code point.
-/

namespace ContainerDesk

namespace SystemText

def standsForOctet (c : CodePoint) : Bool :=
  0xDC80 ≤ c.val && c.val ≤ 0xDCFF

def octetsOfCodePoint (c : CodePoint) : List Octet :=
  if standsForOctet c then [⟨c.val % 256, Nat.mod_lt _ (by decide)⟩] else Utf8.encodeCodePoint c

def octets (t : Text) : List Octet :=
  t.flatMap octetsOfCodePoint

def ofOctet (o : Octet) : CodePoint :=
  CodePoint.ofNat (0xDC00 + o.val)

/-- The text of octets without the first `skip` of them. -/
def ofOctetsFrom (skip : Nat) : List Octet → Text
  | [] => []
  | first :: rest =>
      match skip with
      | skip + 1 => ofOctetsFrom skip rest
      | 0 =>
          match Utf8.step first rest with
          | .scalar c width => c :: ofOctetsFrom (width - 1) rest
          | .broken _ _ => ofOctet first :: ofOctetsFrom 0 rest

def ofOctets (octets : List Octet) : Text :=
  ofOctetsFrom 0 octets

def held (t : Text) : Text :=
  if t.any standsForOctet then ofOctets (octets t) else t

end SystemText

end ContainerDesk
