import ContainerDesk.Json.Reader
import ContainerDesk.Json.Writer
import ContainerDesk.Proofs.Number.Notation

/-!
# Numbers in JSON

A number is read in three parts: digits, digits after a point, and an exponent.  What
is written for an integer or for a finite number reads back as that number, in front of
any text that cannot carry the number on.
-/

namespace ContainerDesk

namespace Json

open Binary64 (DecimalForm placesText scaleText signText zeros)

/-- A text that a number cannot run into. -/
def EndsNumber (t : Text) : Prop :=
  ∀ c, t.head? = some c → c.isDigit = false ∧ c.val ≠ 46 ∧ c.val ≠ 101 ∧ c.val ≠ 69

theorem EndsNumber.endsDigits {t : Text} (h : EndsNumber t) : EndsDigits t :=
  fun c hc => (h c hc).1

/-!
# Exponents
-/

theorem exponentPart_none {tail : Text} (h : EndsNumber tail) : exponentPart? tail = none := by
  cases tail with
  | nil => rfl
  | cons c rest =>
      rcases h c rfl with ⟨_, _, hsmall, hcapital⟩
      simp [exponentPart?, hsmall, hcapital]

theorem exponentPart_row (negative : Bool) {row tail : Text} (hrow : IsDigitRow row)
    (hne : row ≠ []) (htail : EndsDigits tail) :
    exponentPart? (Text.of (if negative then "e-" else "e+") ++ row ++ tail) =
      some (2 + row.length, if negative then -(digitsValue row : Int) else digitsValue row) := by
  have hempty : row.isEmpty = false := List.isEmpty_eq_false_iff.mpr hne
  have htake := takeWhile_isDigit_append hrow htail
  cases negative with
  | false =>
      simp only [Bool.false_eq_true, if_false]
      show exponentPart? (CodePoint.ofChar 'e' :: CodePoint.ofChar '+' :: (row ++ tail)) = _
      simp only [exponentPart?, show (CodePoint.ofChar 'e').val = 101 from rfl,
        show (CodePoint.ofChar '+').val = 43 from rfl, decide_true, Bool.true_or, if_true,
        Nat.reduceEqDiff, if_false, htake, hempty, Bool.false_eq_true]
  | true =>
      simp only [if_true]
      show exponentPart? (CodePoint.ofChar 'e' :: CodePoint.ofChar '-' :: (row ++ tail)) = _
      simp only [exponentPart?, show (CodePoint.ofChar 'e').val = 101 from rfl,
        show (CodePoint.ofChar '-').val = 45 from rfl, decide_true, Bool.true_or, if_true,
        if_false, htake, hempty, Bool.false_eq_true]

theorem exponentPart_scale (power : Int) {tail : Text} (h : EndsDigits tail) :
    exponentPart? (scaleText (some power) ++ tail) =
      some ((scaleText (some power)).length, power) := by
  have hread := exponentPart_row (decide (power < 0)) (Binary64.isDigitRow_scaleDigits power)
    (Binary64.scaleDigits_ne_nil power) h
  rw [Binary64.digitsValue_scaleDigits] at hread
  unfold scaleText
  by_cases hneg : power < 0
  · simp only [hneg, decide_true, if_true] at hread ⊢
    rw [hread, List.length_append]
    congr 2
    omega
  · simp only [hneg, decide_false, Bool.false_eq_true, if_false] at hread ⊢
    rw [hread, List.length_append]
    congr 2
    omega

theorem exponentPart_scaleText (scale : Option Int) {tail : Text} (h : EndsNumber tail) :
    exponentPart? (scaleText scale ++ tail) =
      scale.map fun power => ((scaleText scale).length, power) := by
  cases scale with
  | none => exact exponentPart_none h
  | some power => exact exponentPart_scale power h.endsDigits

/-!
# Places
-/

theorem fractionDigits_none (scale : Option Int) {tail : Text} (h : EndsNumber tail) :
    fractionDigits (scaleText scale ++ tail) = [] := by
  cases scale with
  | none =>
      cases tail with
      | nil => rfl
      | cons c rest => exact if_neg (h c rfl).2.1
  | some power =>
      rw [scaleText]
      split <;> rfl

theorem endsDigits_scale (scale : Option Int) {tail : Text} (h : EndsNumber tail) :
    EndsDigits (scaleText scale ++ tail) := by
  intro c hc
  cases scale with
  | none => exact (h c hc).1
  | some power =>
      rw [scaleText] at hc
      split at hc
      · rw [← Option.some.inj hc]
        rfl
      · rw [← Option.some.inj hc]
        rfl

theorem fractionDigits_places {places : Text} (hplaces : IsDigitRow places)
    (scale : Option Int) {tail : Text} (h : EndsNumber tail) :
    fractionDigits (placesText places ++ (scaleText scale ++ tail)) = places := by
  cases places with
  | nil => exact fractionDigits_none scale h
  | cons c rest => exact takeWhile_isDigit_append hplaces (endsDigits_scale scale h)

theorem endsDigits_places (places : Text) (scale : Option Int) {tail : Text} (h : EndsNumber tail) :
    EndsDigits (placesText places ++ (scaleText scale ++ tail)) := by
  cases places with
  | nil => exact endsDigits_scale scale h
  | cons d others =>
      intro c hc
      rw [← Option.some.inj hc]
      rfl

theorem length_placesText (places : Text) :
    (if places.isEmpty then 0 else 1 + places.length) = (placesText places).length := by
  cases places with
  | nil => rfl
  | cons c rest => exact Nat.add_comm 1 _

/-!
# Numbers
-/

section Parts

variable {places tail : Text}

theorem whole_of_lead {c : CodePoint} {digits rest : Text} (hrow : IsDigitRow (c :: digits))
    (hlead : c :: digits = zeros 1 ∨ c.val ≠ 48) (hrest : EndsDigits rest) :
    (if c.val = 48 then [c] else (c :: (digits ++ rest)).takeWhile CodePoint.isDigit) =
      c :: digits := by
  rcases hlead with hzero | hlead
  · rcases List.cons.inj hzero with ⟨rfl, rfl⟩
    rfl
  · rw [if_neg hlead]
    exact takeWhile_isDigit_append hrow hrest

theorem drop_parts (front whole places exponent tail : Text) :
    (front ++ (whole ++ (places ++ (exponent ++ tail)))).drop
      (front.length + whole.length + places.length + exponent.length) = tail := by
  rw [← List.append_assoc, ← List.append_assoc, ← List.append_assoc]
  apply List.drop_left'
  simp only [List.length_append]

theorem readNumber_parts (position : Nat) (negative : Bool) (scale : Option Int)
    {c : CodePoint} {digits : Text} (hrow : IsDigitRow (c :: digits))
    (hlead : c :: digits = zeros 1 ∨ c.val ≠ 48) (hplaces : IsDigitRow places)
    (htail : EndsNumber tail) :
    readNumber ⟨position, signText negative ++
        (c :: (digits ++ (placesText places ++ (scaleText scale ++ tail))))⟩ =
      let after : Cursor := ⟨position + ((signText negative).length + (c :: digits).length +
        (placesText places).length + (scaleText scale).length), tail⟩
      if places.isEmpty && !scale.isSome then
        if digitLimit < (c :: digits).length then
          .error (.tooManyDigits (c :: digits).length)
        else
          .ok (.int (if negative then -(digitsValue (c :: digits) : Int)
            else digitsValue (c :: digits)), after)
      else
        .ok (.float (Binary64.ofDecimal negative (digitsValue (c :: digits ++ places))
          (scale.getD 0 - places.length)), after) := by
  have hdigit : c.isDigit = true := hrow c List.mem_cons_self
  have hsign : c.val ≠ 45 := by
    intro hc
    simp [CodePoint.isDigit, hc] at hdigit
  have hwhole := whole_of_lead hrow hlead (endsDigits_places places scale htail)
  have hdrop : (c :: (digits ++ (placesText places ++ (scaleText scale ++ tail)))).drop
      (c :: digits).length = placesText places ++ (scaleText scale ++ tail) := by
    rw [← List.cons_append, List.drop_left]
  have hfraction := fractionDigits_places hplaces scale htail
  have hexponent := exponentPart_scaleText scale htail
  have hlength : ((scale.map fun power => ((scaleText scale).length, power)).map (·.1)).getD 0 =
      (scaleText scale).length := by
    cases scale <;> rfl
  have hpower : ((scale.map fun power => ((scaleText scale).length, power)).map (·.2)).getD 0 =
      scale.getD 0 := by
    cases scale <;> rfl
  have hsome : (scale.map fun power => ((scaleText scale).length, power)).isSome =
      scale.isSome := by
    cases scale <;> rfl
  -- The reader drops what it has read from the whole text, so the sign comes into what is left.
  cases negative with
  | false =>
      have hafter : (c :: (digits ++ (placesText places ++ (scaleText scale ++ tail)))).drop
          (0 + (c :: digits).length + (placesText places).length +
            (scaleText scale).length) = tail :=
        drop_parts [] (c :: digits) _ _ tail
      simp only [readNumber, signText, Bool.false_eq_true, if_false, List.nil_append, hsign,
        hwhole, hdrop, hfraction, length_placesText, List.drop_left, hexponent, hlength, hpower,
        hsome, List.isEmpty_cons, hafter]
      rfl
  | true =>
      have hafter : (CodePoint.ofChar '-' ::
          (c :: (digits ++ (placesText places ++ (scaleText scale ++ tail))))).drop
          (1 + (c :: digits).length + (placesText places).length +
            (scaleText scale).length) = tail :=
        drop_parts (Text.of "-") (c :: digits) _ _ tail
      have hminus : Text.of "-" = [CodePoint.ofChar '-'] := rfl
      have hval : (CodePoint.ofChar '-').val = 45 := rfl
      simp only [readNumber, signText, if_true, hminus, List.singleton_append, hval,
        hwhole, hdrop, hfraction, length_placesText, List.drop_left, hexponent, hlength, hpower,
        hsome, List.isEmpty_cons, Bool.false_eq_true, if_false, hafter]
      rfl

theorem exists_cons_numeral (n : Nat) :
    ∃ c digits, numeral n = c :: digits ∧ (c :: digits = zeros 1 ∨ c.val ≠ 48) := by
  by_cases hn : n = 0
  · rw [hn]
    exact ⟨digit 0, [], numeral_of_lt (by decide), .inl rfl⟩
  · rcases head_numeral hn with ⟨c, digits, heq, _, hc⟩
    exact ⟨c, digits, heq, .inr hc⟩

theorem integerNumeral_eq (n : Int) :
    integerNumeral n = signText (decide (n < 0)) ++ numeral n.natAbs := by
  unfold integerNumeral signText
  by_cases hn : n < 0
  · simp [hn]
  · simp [hn]

theorem readNumber_int (position : Nat) {n : Int} {t : Text} (h : integerNumeral? n = some t)
    (htail : EndsNumber tail) :
    readNumber ⟨position, t ++ tail⟩ = .ok (.int n, ⟨position + t.length, tail⟩) := by
  unfold integerNumeral? at h
  split at h
  · rename_i hlimit
    rw [← Option.some.inj h, integerNumeral_eq]
    have hlength : (numeral n.natAbs).length ≤ digitLimit := by
      have hpos : 0 < digitLimit := by decide
      generalize digitLimit = limit at *
      exact length_numeral_le hpos hlimit
    have hvalue := digitsValue_numeral n.natAbs
    have hrow := isDigitRow_numeral n.natAbs
    rcases exists_cons_numeral n.natAbs with ⟨c, digits, heq, hlead⟩
    rw [heq] at hlength hvalue hrow ⊢
    have hread := readNumber_parts position (decide (n < 0)) none hrow hlead
      isDigitRow_nil htail
    simp only [placesText, scaleText, List.nil_append, List.isEmpty_nil, Option.isSome_none,
      Bool.not_false, Bool.and_true, if_true, if_neg (Nat.not_lt.mpr hlength), hvalue,
      List.length_nil, Nat.add_zero] at hread
    rw [List.append_assoc, List.cons_append, hread, List.length_append]
    congr 3
    by_cases hn : n < 0
    · simp only [hn, decide_true, if_true]
      omega
    · simp only [hn, decide_false, Bool.false_eq_true, if_false]
      omega
  · cases h

theorem readNumber_finite (position : Nat) (negative : Bool) (exponent : Fin 2047)
    (fraction : Fin fractionCount) (htail : EndsNumber tail) :
    readNumber ⟨position, (Binary64.finite negative exponent fraction).write ++ tail⟩ =
      .ok (.float (.finite negative exponent fraction),
        ⟨position + (Binary64.finite negative exponent fraction).write.length, tail⟩) := by
  rcases Binary64.exists_form_write negative exponent fraction with ⟨form, htext, hvalue⟩
  rcases form with ⟨whole, places, scale, hrow, ⟨c, digits, rfl, hlead⟩, hplaces, hfractional⟩
  have hnumber : (places.isEmpty && !scale.isSome) = false := by
    rcases hfractional with hplaces | hscale
    · simp [hplaces]
    · simp [hscale]
  have hread := readNumber_parts position negative scale hrow hlead hplaces htail
  simp only [hnumber, Bool.false_eq_true, if_false] at hread
  rw [htext, ← hvalue]
  simp only [DecimalForm.text, List.append_assoc, List.cons_append, hread, DecimalForm.digits,
    DecimalForm.exponent, List.length_append, List.length_cons]
  congr 3
  omega

/-!
# How numbers start
-/

def StartsNumber (t : Text) : Prop :=
  ∃ negative c rest, t = signText negative ++ c :: rest ∧ c.isDigit = true

theorem StartsNumber.append {t : Text} (h : StartsNumber t) (tail : Text) :
    StartsNumber (t ++ tail) := by
  rcases h with ⟨negative, c, rest, rfl, hc⟩
  exact ⟨negative, c, rest ++ tail, by rw [List.append_assoc, List.cons_append], hc⟩

theorem startsNumber_int {n : Int} {t : Text} (h : integerNumeral? n = some t) :
    StartsNumber t := by
  unfold integerNumeral? at h
  split at h
  · have hrow := isDigitRow_numeral n.natAbs
    rcases exists_cons_numeral n.natAbs with ⟨c, digits, heq, _⟩
    rw [heq] at hrow
    rw [← Option.some.inj h, integerNumeral_eq, heq]
    exact ⟨_, c, digits, rfl, hrow c List.mem_cons_self⟩
  · cases h

theorem startsNumber_finite (negative : Bool) (exponent : Fin 2047)
    (fraction : Fin fractionCount) :
    StartsNumber (Binary64.finite negative exponent fraction).write := by
  rcases Binary64.exists_form_write negative exponent fraction with ⟨form, htext, _⟩
  have hrow := form.whole_row
  rcases form.whole_lead with ⟨c, digits, heq, _⟩
  rw [heq] at hrow
  refine ⟨negative, c, digits ++ placesText form.places ++ scaleText form.scale, ?_,
    hrow c List.mem_cons_self⟩
  rw [htext, DecimalForm.text, heq]
  simp only [List.cons_append]

end Parts

end Json

end ContainerDesk
