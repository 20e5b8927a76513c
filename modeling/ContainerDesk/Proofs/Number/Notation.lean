import ContainerDesk.Proofs.Number.Decimal

/-!
# Decimal notation in parts

What stands for a finite number in a text has digits before the point, perhaps digits
after it, and perhaps an exponent.  However a decimal is written, its digits and its
exponent give a decimal of the same value.
-/

namespace ContainerDesk

namespace Binary64

def placesText : Text → Text
  | [] => []
  | c :: rest => Text.of "." ++ c :: rest

def scaleDigits (power : Int) : Text :=
  (if power.natAbs < 10 then zeros 1 else []) ++ numeral power.natAbs

def scaleText : Option Int → Text
  | none => []
  | some power => Text.of (if power < 0 then "e-" else "e+") ++ scaleDigits power

/-- Unsigned decimal notation that is no integer numeral. -/
structure DecimalForm where
  whole : Text
  places : Text
  scale : Option Int
  whole_row : IsDigitRow whole
  /-- Only a single zero starts with a zero. -/
  whole_lead : ∃ c rest, whole = c :: rest ∧ (whole = zeros 1 ∨ c.val ≠ 48)
  places_row : IsDigitRow places
  fractional : places ≠ [] ∨ scale.isSome

namespace DecimalForm

def text (form : DecimalForm) : Text :=
  form.whole ++ placesText form.places ++ scaleText form.scale

def digits (form : DecimalForm) : Nat :=
  digitsValue (form.whole ++ form.places)

def exponent (form : DecimalForm) : Int :=
  form.scale.getD 0 - form.places.length

end DecimalForm

theorem placesText_eq {places : Text} (h : places ≠ []) :
    placesText places = Text.of "." ++ places := by
  cases places with
  | nil => exact absurd rfl h
  | cons c rest => rfl

theorem isDigitRow_zeros (count : Nat) : IsDigitRow (zeros count) := by
  intro c hc
  rw [List.eq_of_mem_replicate hc]
  decide

theorem digitsValue_zeros (count : Nat) : digitsValue (zeros count) = 0 := by
  induction count with
  | zero => rfl
  | succ count ih =>
      have happend : zeros (count + 1) = zeros 1 ++ zeros count := rfl
      rw [happend, digitsValue_append, ih]
      show 0 * 10 ^ (zeros count).length + 0 = 0
      rw [Nat.zero_mul]

theorem length_zeros (count : Nat) : (zeros count).length = count :=
  List.length_replicate

theorem digitsValue_zeros_append (count : Nat) (t : Text) :
    digitsValue (zeros count ++ t) = digitsValue t := by
  rw [digitsValue_append, digitsValue_zeros, Nat.zero_mul, Nat.zero_add]

theorem isDigitRow_scaleDigits (power : Int) : IsDigitRow (scaleDigits power) := by
  apply isDigitRow_append
  · split
    · exact isDigitRow_zeros 1
    · exact isDigitRow_nil
  · exact isDigitRow_numeral _

theorem digitsValue_scaleDigits (power : Int) :
    digitsValue (scaleDigits power) = power.natAbs := by
  unfold scaleDigits
  split
  · rw [digitsValue_zeros_append, digitsValue_numeral]
  · exact digitsValue_numeral _

theorem scaleDigits_ne_nil (power : Int) : scaleDigits power ≠ [] :=
  List.append_ne_nil_of_right_ne_nil _ (numeral_ne_nil _)

/-!
# The forms of a decimal
-/

section Forms

variable {digits : Nat}

theorem lead_numeral (hdigits : digits ≠ 0) {count : Nat} (hcount : count ≠ 0) :
    ∃ c rest, (numeral digits).take count = c :: rest ∧ c.val ≠ 48 := by
  rcases head_numeral hdigits with ⟨c, rest, heq, _, hc⟩
  cases count with
  | zero => exact absurd rfl hcount
  | succ count => exact ⟨c, rest.take count, by rw [heq, List.take_succ_cons], hc⟩

def smallForm (digits : Nat) (exponent : Int) : DecimalForm where
  whole := zeros 1
  places := zeros ((numeral digits).length + exponent).natAbs ++ numeral digits
  scale := none
  whole_row := isDigitRow_zeros 1
  whole_lead := ⟨_, _, rfl, .inl rfl⟩
  places_row := isDigitRow_append (isDigitRow_zeros _) (isDigitRow_numeral _)
  fractional := .inl (List.append_ne_nil_of_right_ne_nil _ (numeral_ne_nil _))

theorem smallForm_text (digits : Nat) (exponent : Int) :
    (smallForm digits exponent).text =
      Text.of "0." ++ zeros ((numeral digits).length + exponent).natAbs ++ numeral digits := by
  have hplaces : zeros ((numeral digits).length + exponent).natAbs ++ numeral digits ≠ [] :=
    List.append_ne_nil_of_right_ne_nil _ (numeral_ne_nil _)
  simp only [DecimalForm.text, smallForm, placesText_eq hplaces, scaleText, List.append_nil,
    List.append_assoc]
  rfl

theorem smallForm_value {exponent : Int} (h : (numeral digits).length + exponent ≤ 0) :
    (smallForm digits exponent).digits = digits ∧
      (smallForm digits exponent).exponent = exponent := by
  constructor
  · show digitsValue (zeros 1 ++ (zeros _ ++ numeral digits)) = digits
    rw [digitsValue_zeros_append, digitsValue_zeros_append, digitsValue_numeral]
  · show (0 : Int) - (zeros _ ++ numeral digits).length = exponent
    rw [List.length_append, length_zeros]
    omega

def wholeForm (digits : Nat) (hdigits : digits ≠ 0) (count : Nat) : DecimalForm where
  whole := numeral digits ++ zeros count
  places := zeros 1
  scale := none
  whole_row := isDigitRow_append (isDigitRow_numeral _) (isDigitRow_zeros _)
  whole_lead := by
    rcases head_numeral hdigits with ⟨c, rest, heq, _, hc⟩
    exact ⟨c, rest ++ zeros count, by rw [heq, List.cons_append], .inr hc⟩
  places_row := isDigitRow_zeros 1
  fractional := .inl (List.cons_ne_nil _ _)

theorem wholeForm_text (hdigits : digits ≠ 0) (count : Nat) :
    (wholeForm digits hdigits count).text = numeral digits ++ zeros count ++ Text.of ".0" := by
  simp only [DecimalForm.text, wholeForm, scaleText, List.append_nil]
  rfl

theorem wholeForm_value (negative : Bool) (hdigits : digits ≠ 0) (count : Nat) :
    ofDecimal negative (wholeForm digits hdigits count).digits
      (wholeForm digits hdigits count).exponent = ofDecimal negative digits count := by
  have hvalue : (wholeForm digits hdigits count).digits = digits * 10 ^ (count + 1) := by
    show digitsValue (numeral digits ++ zeros count ++ zeros 1) = _
    rw [List.append_assoc, digitsValue_append, digitsValue_zeros_append, digitsValue_zeros,
      digitsValue_numeral, List.length_append, length_zeros, length_zeros, Nat.add_zero]
  have hexponent : (wholeForm digits hdigits count).exponent = -1 := rfl
  rw [hvalue, hexponent, ofDecimal_mul_pow]
  congr 1
  omega

def splitForm (digits : Nat) (hdigits : digits ≠ 0) (count : Nat) (hcount : count ≠ 0)
    (scale : Option Int) (h : count < (numeral digits).length ∨ scale.isSome) :
    DecimalForm where
  whole := (numeral digits).take count
  places := (numeral digits).drop count
  scale := scale
  whole_row := (isDigitRow_numeral _).take count
  whole_lead := by
    rcases lead_numeral hdigits hcount with ⟨c, rest, heq, hc⟩
    exact ⟨c, rest, heq, .inr hc⟩
  places_row := (isDigitRow_numeral _).drop count
  fractional := by
    rcases h with h | h
    · left
      intro hnil
      have hlength := List.drop_eq_nil_iff.mp hnil
      omega
    · exact .inr h

theorem splitForm_text (hdigits : digits ≠ 0) {count : Nat} (hcount : count ≠ 0)
    {scale : Option Int} (h : count < (numeral digits).length ∨ scale.isSome) :
    (splitForm digits hdigits count hcount scale h).text =
      (numeral digits).take count ++
        (if (numeral digits).length ≤ count then [] else
          Text.of "." ++ (numeral digits).drop count) ++ scaleText scale := by
  simp only [DecimalForm.text, splitForm]
  congr 2
  by_cases hle : (numeral digits).length ≤ count
  · rw [if_pos hle, List.drop_eq_nil_of_le hle]
    rfl
  · rw [if_neg hle]
    apply placesText_eq
    intro hnil
    exact hle (List.drop_eq_nil_iff.mp hnil)

theorem splitForm_value (exponent : Int) (hdigits : digits ≠ 0) {count : Nat}
    (hcount : count ≠ 0) {scale : Option Int} (h : count < (numeral digits).length ∨ scale.isSome)
    (hle : count ≤ (numeral digits).length)
    (hexponent : scale.getD 0 = (numeral digits).length - count + exponent) :
    (splitForm digits hdigits count hcount scale h).digits = digits ∧
      (splitForm digits hdigits count hcount scale h).exponent = exponent := by
  constructor
  · show digitsValue ((numeral digits).take count ++ (numeral digits).drop count) = digits
    rw [List.take_append_drop, digitsValue_numeral]
  · show scale.getD 0 - ((numeral digits).drop count).length = exponent
    rw [List.length_drop, hexponent]
    omega

end Forms

/-!
# Written numbers
-/

/-- However a decimal is written, it keeps its value. -/
theorem exists_form {digits : Nat} (hdigits : digits ≠ 0) (exponent : Int) :
    ∃ form : DecimalForm, writeDecimal digits exponent = form.text ∧
      ∀ negative, ofDecimal negative form.digits form.exponent =
        ofDecimal negative digits exponent := by
  have hvalue (negative : Bool) := ofDecimal_withoutTrailingZeros negative digits exponent
  have hstripped := withoutTrailingZeros_ne_zero exponent hdigits
  unfold writeDecimal
  generalize withoutTrailingZeros digits exponent = stripped at hvalue hstripped
  rcases stripped with ⟨kept, power⟩
  dsimp only at hvalue hstripped ⊢
  have hlength : 0 < (numeral kept).length := List.length_pos_iff.mpr (numeral_ne_nil _)
  -- The three ways to set the point, as `writeDecimal` tells them apart.
  by_cases hsmall : firstScaledPoint < (numeral kept).length + power ∧
      (numeral kept).length + power ≤ 0
  · rcases smallForm_value hsmall.2 with ⟨hform, hpower⟩
    refine ⟨smallForm kept power, ?_, ?_⟩
    · rw [if_pos hsmall, smallForm_text]
    · intro negative
      rw [hform, hpower, hvalue]
  · rw [if_neg hsmall]
    by_cases hplain : 0 < (numeral kept).length + power ∧
        (numeral kept).length + power ≤ lastPlainPoint
    · rw [if_pos hplain]
      by_cases hwhole : (numeral kept).length ≤ ((numeral kept).length + power).natAbs
      · refine ⟨wholeForm kept hstripped
          (((numeral kept).length + power).natAbs - (numeral kept).length), ?_, ?_⟩
        · rw [if_pos hwhole, wholeForm_text]
        · intro negative
          rw [wholeForm_value, ← hvalue]
          congr 1
          omega
      · have hcount : ((numeral kept).length + power).natAbs ≠ 0 := by omega
        have hinside : ((numeral kept).length + power).natAbs < (numeral kept).length ∨
            (none : Option Int).isSome := .inl (Nat.not_le.mp hwhole)
        rcases splitForm_value power hstripped hcount hinside (by omega)
          (by rw [Option.getD_none]; omega) with ⟨hform, hpower⟩
        refine ⟨splitForm kept hstripped _ hcount none hinside, ?_, ?_⟩
        · rw [if_neg hwhole, splitForm_text, if_neg hwhole, scaleText, List.append_nil,
            List.append_assoc]
        · intro negative
          rw [hform, hpower, hvalue]
    · have hscale : 1 < (numeral kept).length ∨
          (some ((numeral kept).length + power - 1)).isSome := .inr rfl
      rcases splitForm_value power hstripped (by decide) hscale (by omega)
        (by rw [Option.getD_some]; omega) with ⟨hform, hpower⟩
      refine ⟨splitForm kept hstripped 1 (by decide) _ hscale, ?_, ?_⟩
      · rw [if_neg hplain, splitForm_text, scaleText, scaleDigits]
        simp only [List.append_assoc]
      · intro negative
        rw [hform, hpower, hvalue]

theorem exists_form_write (negative : Bool) (exponent : Fin 2047)
    (fraction : Fin fractionCount) :
    ∃ form : DecimalForm,
      write (.finite negative exponent fraction) = signText negative ++ form.text ∧
      ofDecimal negative form.digits form.exponent = .finite negative exponent fraction := by
  by_cases hzero : units exponent fraction = 0
  · refine ⟨⟨zeros 1, zeros 1, none, isDigitRow_zeros 1, ⟨_, _, rfl, .inl rfl⟩, isDigitRow_zeros 1,
      .inl (List.cons_ne_nil _ _)⟩, ?_, ?_⟩
    · rw [write, if_pos hzero]
      rfl
    · show ofDecimal negative 0 (-1) = _
      rw [ofDecimal_zero, zero, ← ofUnits_units negative exponent fraction, hzero]
      rfl
  · rcases exists_form (shortest_ne_zero hzero) (shortest exponent fraction).2 with
      ⟨form, htext, hvalue⟩
    refine ⟨form, ?_, ?_⟩
    · rw [write, if_neg hzero]
      exact congrArg (signText negative ++ ·) htext
    · rw [hvalue, ofDecimal_shortest]

end Binary64

end ContainerDesk
