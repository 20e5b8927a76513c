import ContainerDesk.Text.Basic

/-!
# Line ends

A line may end with a line feed, with a carriage return, or with both in this order.
The desk reads all three as a line feed.
-/

namespace ContainerDesk

def lineFeed : CodePoint := CodePoint.ofChar '\n'

def carriageReturn : CodePoint := CodePoint.ofChar '\r'

namespace Text

/-- A text with line feeds for all line ends; `afterReturn` tells whether a carriage return
stands right in front of it. -/
def unifyLineEndsAfter (afterReturn : Bool) : Text → Text
  | [] => []
  | c :: rest =>
      if c = carriageReturn then
        lineFeed :: unifyLineEndsAfter true rest
      else if c = lineFeed ∧ afterReturn then
        unifyLineEndsAfter false rest
      else
        c :: unifyLineEndsAfter false rest

def unifyLineEnds (t : Text) : Text :=
  unifyLineEndsAfter false t

theorem unifyLineEnds_eq_self {t : Text} (h : carriageReturn ∉ t) : t.unifyLineEnds = t := by
  unfold unifyLineEnds
  induction t with
  | nil => rfl
  | cons c rest ih =>
      have hc : c ≠ carriageReturn := fun hc => h (by simp [hc])
      have hrest : carriageReturn ∉ rest := fun hr => h (by simp [hr])
      simp [unifyLineEndsAfter, hc, ih hrest]

end Text

end ContainerDesk
