import ContainerDesk.Json.Reader
import ContainerDesk.Json.Writer
import ContainerDesk.Text.LineEnd
import ContainerDesk.Proofs.Text.Utf8

/-!
# Texts in JSON

A text reads back from between its quotes, code point by code point: what stands for
itself, what has an escape with a letter, and the other controls by their number.
-/

namespace ContainerDesk

namespace Json

def quote : CodePoint := CodePoint.ofChar '"'

def prepend (c : CodePoint) : Reading Text → Reading Text
  | .error fault => .error fault
  | .ok (others, cursor) => .ok (c :: others, cursor)

section Steps

variable {start position : Nat} {c : CodePoint} {rest : Text}

theorem readTextFrom_plain (h : 32 ≤ c.val ∧ c.val ≠ 34 ∧ c.val ≠ 92) :
    readTextFrom start position (c :: rest) =
      prepend c (readTextFrom start (position + 1) rest) := by
  rw [readTextFrom.eq_def]
  dsimp only
  rw [if_neg h.2.1, if_neg h.2.2, if_neg (Nat.not_lt.mpr h.1)]
  rfl

theorem readTextFrom_escape {mark : CodePoint} (hmark : mark.val ≠ 117)
    (h : escaped? mark = some c) :
    readTextFrom start position (CodePoint.ofChar '\\' :: mark :: rest) =
      prepend c (readTextFrom start (position + 2) rest) := by
  rw [readTextFrom, if_neg (by decide), if_pos (by decide), if_neg hmark, h]
  rfl

theorem hexQuad_of_lt {n : Nat} (h : n < 32) :
    ∃ a b c d, hexDigits 4 n = [a, b, c, d] ∧ hexQuad? a b c d = some n := by
  refine ⟨_, _, _, _, rfl, ?_⟩
  revert n
  decide

theorem readTextFrom_control (h : c.val < 32) (hrest : rest ≠ []) :
    readTextFrom start position (Text.of "\\u" ++ hexDigits 4 c.val ++ rest) =
      prepend c (readTextFrom start (position + 6) rest) := by
  rcases hexQuad_of_lt h with ⟨a, b, d, e, hdigits, hquad⟩
  rcases List.exists_cons_of_ne_nil hrest with ⟨next, others, rfl⟩
  have hescape : codePointEscape position (a :: b :: d :: e :: next :: others) =
      .ok (c, 6, next :: others) := by
    have hhigh : isHighSurrogate c.val = false := by
      simp only [isHighSurrogate, Bool.and_eq_false_iff, decide_eq_false_iff_not]
      omega
    simp only [codePointEscape, hquad, hhigh, Bool.false_eq_true, if_false, Utf8.ofNat_eq rfl]
  rw [hdigits]
  show readTextFrom start position
    (CodePoint.ofChar '\\' :: CodePoint.ofChar 'u' :: a :: b :: d :: e :: next :: others) = _
  rw [readTextFrom, if_neg (by decide), if_pos (by decide), if_pos (by decide)]
  split
  · rename_i hfault
    rw [hescape] at hfault
    cases hfault
  · rename_i hok
    rw [hescape] at hok
    cases hok
    rfl

end Steps

/-- A written code point reads back, in front of anything that ends the text. -/
theorem readTextFrom_writeCodePoint (start position : Nat) (c : CodePoint) {rest : Text}
    (hrest : rest ≠ []) :
    readTextFrom start position (writeCodePoint c ++ rest) =
      prepend c (readTextFrom start (position + (writeCodePoint c).length) rest) := by
  have hletter {n : Nat} {mark : CodePoint} (h : c.val = n) (hmark : mark.val ≠ 117)
      (hescaped : escaped? mark = some (CodePoint.ofNat n)) :
      readTextFrom start position (CodePoint.ofChar '\\' :: mark :: rest) =
        prepend c (readTextFrom start (position + 2) rest) :=
    readTextFrom_escape hmark (hescaped.trans (congrArg some (Utf8.ofNat_eq h.symm)))
  unfold writeCodePoint
  split
  · exact hletter (by assumption) (by decide) rfl
  · exact hletter (by assumption) (by decide) rfl
  · exact hletter (by assumption) (by decide) rfl
  · exact hletter (by assumption) (by decide) rfl
  · exact hletter (by assumption) (by decide) rfl
  · exact hletter (by assumption) (by decide) rfl
  · exact hletter (by assumption) (by decide) rfl
  · split
    · rename_i hcontrol
      exact readTextFrom_control hcontrol hrest
    · rename_i hquote hslash _ _ _ _ _ hplain
      exact readTextFrom_plain ⟨Nat.not_lt.mp hplain, hquote, hslash⟩

theorem readTextFrom_write (start position : Nat) (t tail : Text) :
    readTextFrom start position (t.flatMap writeCodePoint ++ quote :: tail) =
      .ok (t, ⟨position + (t.flatMap writeCodePoint).length + 1, tail⟩) := by
  induction t generalizing position with
  | nil =>
      show readTextFrom start position (quote :: tail) = _
      rw [readTextFrom.eq_def]
      dsimp only
      rw [if_pos (by decide)]
      rfl
  | cons c t ih =>
      rw [List.flatMap_cons, List.append_assoc,
        readTextFrom_writeCodePoint start position c (by simp), ih, List.length_append,
        Nat.add_assoc position]
      rfl

theorem writeText_append (t tail : Text) :
    writeText t ++ tail = quote :: (t.flatMap writeCodePoint ++ quote :: tail) := by
  simp only [writeText, List.append_assoc]
  rfl

theorem length_writeText (t : Text) :
    (writeText t).length = (t.flatMap writeCodePoint).length + 2 := by
  have hlength := congrArg List.length (writeText_append t [])
  simp only [List.append_nil, List.length_cons, List.length_append, List.length_nil] at hlength
  omega

/-!
# What texts are written with
-/

/-- Is a code point one that marks, numerals and escapes consist of: the end of a line, or ASCII
from the space on? -/
def isPlain (c : CodePoint) : Bool :=
  c.val = 10 || (32 ≤ c.val && c.val < 127)

theorem all_isPlain_control {n : Nat} (h : n < 32) :
    (Text.of "\\u" ++ hexDigits 4 n).all isPlain = true := by
  revert n
  decide

section Plain

variable {P : CodePoint → Prop} (hplain : ∀ c, isPlain c = true → P c)
include hplain

theorem forall_mem_of_all_isPlain {t : Text} (h : t.all isPlain = true) : ∀ c ∈ t, P c :=
  fun c hc => hplain c (List.all_eq_true.mp h c hc)

theorem forall_mem_writeCodePoint {c : CodePoint} :
    (∀ d ∈ writeCodePoint c, P d) ↔ (32 ≤ c.val → P c) := by
  have hcontrol {t : Text} (hc : c.val < 32) (ht : t.all isPlain = true) :
      (∀ d ∈ t, P d) ↔ (32 ≤ c.val → P c) :=
    iff_of_true (forall_mem_of_all_isPlain hplain ht) fun hle => absurd hc (Nat.not_lt.mpr hle)
  have hmark {t : Text} {n : Nat} (hc : c.val = n)
      (hn : (CodePoint.ofNat n :: t).all isPlain = true) : (∀ d ∈ t, P d) ↔ (32 ≤ c.val → P c) := by
    have hall := forall_mem_of_all_isPlain hplain hn
    rw [Utf8.ofNat_eq hc.symm] at hall
    exact iff_of_true (fun d hd => hall d (List.mem_cons_of_mem c hd))
      fun _ => hall c List.mem_cons_self
  unfold writeCodePoint
  split
  · exact hmark (by assumption) (by decide)
  · exact hmark (by assumption) (by decide)
  · exact hcontrol (by omega) (by decide)
  · exact hcontrol (by omega) (by decide)
  · exact hcontrol (by omega) (by decide)
  · exact hcontrol (by omega) (by decide)
  · exact hcontrol (by omega) (by decide)
  · split
    · rename_i hlow
      exact hcontrol hlow (all_isPlain_control hlow)
    · rename_i hlow
      rw [List.forall_mem_singleton]
      exact ⟨fun h _ => h, fun h => h (Nat.not_lt.mp hlow)⟩

theorem forall_mem_writeText {t : Text} :
    (∀ d ∈ writeText t, P d) ↔ ∀ c ∈ t, 32 ≤ c.val → P c := by
  have hquote : ∀ d ∈ Text.of "\"", P d := forall_mem_of_all_isPlain hplain (by decide)
  have hwritten : (∀ d ∈ t.flatMap writeCodePoint, P d) ↔ ∀ c ∈ t, 32 ≤ c.val → P c := by
    simp only [← forall_mem_writeCodePoint hplain, List.mem_flatMap, forall_exists_index, and_imp]
    exact ⟨fun h c hc d hd => h d c hc hd, fun h d c hc hd => h c hc d hd⟩
  unfold writeText
  rw [List.forall_mem_append, List.forall_mem_append, hwritten]
  exact ⟨fun h => h.1.2, fun h => ⟨⟨hquote, h⟩, hquote⟩⟩

end Plain

end Json

end ContainerDesk
