import ContainerDesk.Host.Load
import ContainerDesk.Proofs.Host.Scaling
import ContainerDesk.Proofs.Number.Numeral
import Mathlib.Algebra.Order.Field.Basic
import Mathlib.Algebra.Order.Ring.Rat
import Mathlib.Tactic.FieldSimp
import Mathlib.Tactic.Linarith
import Mathlib.Tactic.Ring

/-!
# How sizes are shown

A size below `2 ^ 53` is shown in the largest unit of which it has at least one, as the
decimal with one place that is nearest to the exact amount, a tie going to the even digit.
What is shown is at most a twentieth of the unit away from the size, and a larger size is
never shown as a smaller one.

The unit is chosen before the amount is rounded.  So a size that is less than a twentieth
of a unit below the next larger unit is shown as 1024.0 of the smaller one.
-/

namespace ContainerDesk

namespace Size

open Binary64

/-- Does a text show an amount, with one place after the point, of the unit at a place? -/
def Shows (text : Text) (amount : ℚ) (place : ℕ) : Prop :=
  ∃ (whole tenth : ℕ) (unit : Text), tenth < 10 ∧ amount = whole + tenth / 10 ∧
    units[place]? = some unit ∧
    text = numeral whole ++ Text.of "." ++ [digit tenth] ++ Text.of " " ++ unit

/-- Is a decimal with one place the nearest to a number, the even one of two? -/
def IsNearestTenth (x decimal : ℚ) : Prop :=
  ∃ tenths : ℕ, decimal = tenths / 10 ∧ |decimal - x| ≤ 1 / 20 ∧
    (|decimal - x| = 1 / 20 → Even tenths)

def tenthsOf (octets place : ℕ) : ℕ :=
  roundHalfEven (octets * 10) (step ^ place)

variable {octets more place higher : ℕ} {x : Binary64}

/-!
# The text of a size
-/

theorem IsAmount.writeOnePlace_eq (h : IsAmount x octets place) :
    x.writeOnePlace = writeTenths (tenthsOf octets place) := by
  rcases h with ⟨exponent, fraction, rfl, hunits⟩
  have hround : roundHalfEven (Binary64.units exponent fraction * 10) unitsPerOne =
      tenthsOf octets place := by
    rw [← roundHalfEven_mul _ _ (step_pow_pos place), Nat.mul_right_comm, hunits,
      Nat.mul_right_comm, Nat.mul_comm unitsPerOne, roundHalfEven_mul _ _ unitsPerOne_pos]
    rfl
  rw [writeOnePlace, hround]
  rfl

theorem shows_writeTenths (tenths : ℕ) {unit : Text} (hunit : units[place]? = some unit) :
    Shows (writeTenths tenths ++ Text.of " " ++ unit) (tenths / 10) place := by
  refine ⟨tenths / 10, tenths % 10, unit, Nat.mod_lt _ (by decide), ?_, hunit, rfl⟩
  have hsplit : (tenths : ℚ) = 10 * (tenths / 10 : ℕ) + (tenths % 10 : ℕ) := by
    exact_mod_cast (Nat.div_add_mod tenths 10).symm
  rw [hsplit]
  ring

theorem fromInteger_eq :
    Value.toBinary64.fromInteger = fun n =>
      match ofInt n with
      | .infinite _ => .error (.overflow (Text.of "int too large to convert to float"))
      | x => .ok x := by
  -- The function is unfolded as a whole: at an integer, unfolding would compute its number.
  delta Value.toBinary64.fromInteger
  funext n
  generalize ofInt n = x
  cases x <;> rfl

theorem toBinary64_int (hoctets : octets < 2 ^ 53) :
    (Value.int octets).toBinary64 = .ok (ofInt octets) := by
  rcases isAmount_ofInt hoctets with ⟨exponent, fraction, hfinite, _⟩
  rw [Value.toBinary64, fromInteger_eq]
  dsimp only
  rw [hfinite]

theorem sizeText_int (hoctets : octets < 2 ^ 53) :
    (Value.int octets).sizeText = .ok (text (ofInt octets)) := by
  rw [Value.sizeText, toBinary64_int hoctets]
  rfl

theorem exists_sizeText (hoctets : octets < 2 ^ 53) :
    ∃ text place, (Value.int octets).sizeText = .ok text ∧
      Shows text (tenthsOf octets place / 10) place ∧ IsReached octets place := by
  rcases exists_scaled hoctets with ⟨amount, place, unit, hscale, hamount, hunit, hreached⟩
  refine ⟨text (ofInt octets), place, sizeText_int hoctets, ?_, hreached⟩
  rw [text, hscale]
  dsimp only
  rw [hamount.writeOnePlace_eq]
  exact shows_writeTenths _ hunit

/-!
# Reading a text
-/

theorem numeral_append_inj {m n : ℕ} {s t : Text} (hs : EndsDigits s) (ht : EndsDigits t)
    (h : numeral m ++ s = numeral n ++ t) : m = n ∧ s = t := by
  have hrow : numeral m = numeral n := by
    rw [← takeWhile_isDigit_append (isDigitRow_numeral m) hs, h,
      takeWhile_isDigit_append (isDigitRow_numeral n) ht]
  rw [hrow, List.append_cancel_left_eq] at h
  exact ⟨by rw [← digitsValue_numeral m, hrow, digitsValue_numeral], h⟩

theorem Shows.unique {text : Text} {amount amount' : ℚ} {place' : ℕ}
    (h : Shows text amount place) (h' : Shows text amount' place') :
    amount = amount' ∧ place = place' := by
  rcases h with ⟨whole, tenth, unit, htenth, rfl, hunit, rfl⟩
  rcases h' with ⟨whole', tenth', unit', htenth', rfl, hunit', htext⟩
  have hends : ∀ rest, EndsDigits (Text.of "." ++ rest) := by
    intro rest c hc
    obtain rfl : CodePoint.ofChar '.' = c := Option.some.inj hc
    decide
  simp only [List.append_assoc] at htext
  rcases numeral_append_inj (hends _) (hends _) htext with ⟨rfl, hplaces⟩
  rw [List.append_cancel_left_eq, List.singleton_append, List.singleton_append,
    List.cons.injEq, List.append_cancel_left_eq] at hplaces
  have hdigit : tenth = tenth' := by
    have hval := congrArg Fin.val hplaces.1
    rw [digit_val htenth, digit_val htenth'] at hval
    omega
  have hnodup : units.Nodup := by decide
  have hlt := (List.getElem?_eq_some_iff.mp hunit).1
  rw [hdigit]
  exact ⟨rfl, (List.getElem?_inj hlt hnodup).mp (by rw [hunit, hunit', hplaces.2])⟩

/-!
# Rounding
-/

theorem isNearestTenth_roundHalfEven (num : ℕ) {den : ℕ} (hden : 0 < den) :
    IsNearestTenth (num / den) (roundHalfEven (num * 10) den / 10) := by
  have hpos : (0 : ℚ) < den := by exact_mod_cast hden
  rcases roundHalfEven_bounds (num * 10) hden with ⟨hlow, hhigh⟩
  have heven := @roundHalfEven_even (num * 10) den hden
  generalize roundHalfEven (num * 10) den = tenths at hlow hhigh heven ⊢
  have hlow' : (2 : ℚ) * (num * 10) ≤ (2 * tenths + 1) * den := by exact_mod_cast hlow
  have hhigh' : (2 : ℚ) * tenths * den ≤ 2 * (num * 10) + den := by exact_mod_cast hhigh
  have hdistance : (tenths / 10 - num / den : ℚ) =
      (2 * tenths * den - 2 * (num * 10)) / (20 * den) := by
    field_simp
    ring
  have habs : |(tenths / 10 - num / den : ℚ)| =
      |(2 * tenths * den - 2 * (num * 10) : ℚ)| / (20 * den) := by
    rw [hdistance, abs_div, abs_of_pos (show (0 : ℚ) < 20 * den by linarith)]
  refine ⟨tenths, rfl, ?_, ?_⟩
  · rw [habs, div_le_div_iff₀ (by linarith) (by norm_num)]
    have hle : |(2 * tenths * den - 2 * (num * 10) : ℚ)| ≤ den :=
      abs_le.mpr ⟨by linarith, by linarith⟩
    linarith
  · intro htie
    rw [habs, div_eq_div_iff (by linarith) (by norm_num)] at htie
    have heq : |(2 * tenths * den - 2 * (num * 10) : ℚ)| = den := by linarith
    apply heven
    rcases eq_or_eq_neg_of_abs_eq heq with habove | hbelow
    · right
      have hsum : (2 : ℚ) * tenths * den = 2 * (num * 10) + den := by linarith
      exact_mod_cast hsum
    · left
      have hsum : (2 : ℚ) * (num * 10) = (2 * tenths + 1) * den := by linarith
      exact_mod_cast hsum

theorem IsNearestTenth.abs_mul_sub_le {num den decimal : ℚ} (h : IsNearestTenth (num / den) decimal)
    (hden : 0 < den) : |decimal * den - num| ≤ den / 20 := by
  rcases h with ⟨_, _, hnear, _⟩
  calc |decimal * den - num| = |decimal - num / den| * den := by
        rw [← abs_of_pos hden, ← abs_mul, abs_of_pos hden, sub_mul, div_mul_cancel₀ _ hden.ne']
    _ ≤ 1 / 20 * den := mul_le_mul_of_nonneg_right hnear hden.le
    _ = den / 20 := by ring

theorem isNearestTenth_tenthsOf (octets place : ℕ) :
    IsNearestTenth (octets / 1024 ^ place) (tenthsOf octets place / 10) := by
  have h := isNearestTenth_roundHalfEven octets (step_pow_pos place)
  rwa [Nat.cast_pow, step, Nat.cast_ofNat] at h

/-!
# The size that is shown
-/

theorem tenthsOf_of_lt (h : octets < step ^ (place + 1)) : tenthsOf octets place ≤ step * 10 := by
  have hexact := roundHalfEven_exact (step * 10) (step_pow_pos place)
  rw [← hexact]
  apply roundHalfEven_mono
  rw [Nat.mul_right_comm, ← Nat.pow_succ']
  exact Nat.mul_le_mul_right 10 h.le

theorem le_tenthsOf (h : step ^ place ≤ octets) : 10 ≤ tenthsOf octets place := by
  have hexact := roundHalfEven_exact 10 (step_pow_pos place)
  rw [← hexact]
  apply roundHalfEven_mono
  rw [Nat.mul_comm]
  exact Nat.mul_le_mul_right 10 h

/-- A larger size is not shown as a smaller one: at the next unit, at least one of it is shown, and
below it at most as much. -/
theorem tenthsOf_mul_mono (hplace : IsReached octets place) (hhigher : IsReached more higher)
    (h : octets ≤ more) :
    tenthsOf octets place * step ^ place ≤ tenthsOf more higher * step ^ higher := by
  have hle : place ≤ higher :=
    hhigher.2 ⟨hplace.1.1, hplace.1.2.imp_right fun hreached => hreached.trans h⟩
  -- In one unit rounding keeps the order, and across units the next larger one lies in between.
  rcases Nat.eq_or_lt_of_le hle with rfl | hlt
  · exact Nat.mul_le_mul_right _ (roundHalfEven_mono _ (Nat.mul_le_mul_right 10 h))
  · rw [isReached_iff] at hplace hhigher
    have hbelow : octets < step ^ (place + 1) := hplace.2.2.resolve_left (by omega)
    have hreached : step ^ higher ≤ more := hhigher.2.1.resolve_left (by omega)
    calc tenthsOf octets place * step ^ place
        ≤ step * 10 * step ^ place := Nat.mul_le_mul_right _ (tenthsOf_of_lt hbelow)
      _ = 10 * step ^ (place + 1) := by rw [Nat.pow_succ', Nat.mul_comm step 10, Nat.mul_assoc]
      _ ≤ 10 * step ^ higher := Nat.mul_le_mul_left 10 (Nat.pow_le_pow_right (by decide) hlt)
      _ ≤ tenthsOf more higher * step ^ higher := Nat.mul_le_mul_right _ (le_tenthsOf hreached)

/-- The unit is the largest one that the size reaches, and the amount is rounded half to even.  It
is at most a twentieth of the unit off, and what is shown grows with the size. -/
theorem sizeText_shows (octets : ℕ) (hoctets : octets < 2 ^ 53) :
    ∃ text amount place, (Value.int octets).sizeText = .ok text ∧ Shows text amount place ∧
      IsGreatest {k | k ≤ 4 ∧ (k = 0 ∨ 1024 ^ k ≤ octets)} place ∧
      IsNearestTenth (octets / 1024 ^ place) amount ∧
      |amount * 1024 ^ place - octets| ≤ 1024 ^ place / 20 ∧
      ∀ more : ℕ, octets ≤ more → more < 2 ^ 53 → ∀ text' amount' place',
        (Value.int more).sizeText = .ok text' → Shows text' amount' place' →
          amount * 1024 ^ place ≤ amount' * 1024 ^ place' := by
  rcases exists_sizeText hoctets with ⟨text, place, htext, hshows, hreached⟩
  have hnear := isNearestTenth_tenthsOf octets place
  refine ⟨text, _, place, htext, hshows, hreached, hnear, hnear.abs_mul_sub_le (by positivity), ?_⟩
  intro more hle hmore text' amount' place' htext' hshows'
  rcases exists_sizeText hmore with ⟨other, higher, hother, hshowsOther, hhigher⟩
  obtain rfl : text' = other := Except.ok.inj (htext'.symm.trans hother)
  rcases hshows'.unique hshowsOther with ⟨rfl, rfl⟩
  have hmono := tenthsOf_mul_mono hreached hhigher hle
  have hcast : (tenthsOf octets place * 1024 ^ place : ℚ) ≤
      tenthsOf more place' * 1024 ^ place' := by exact_mod_cast hmono
  linarith

/-- A size just below what would be rounded up to 1024.0, and the next unit. -/
theorem sizeText_shows_crossing :
    1048524 < 2 ^ 53 ∧ 1048524 ≤ 1048576 ∧ 1048576 < 2 ^ 53 ∧
      (Value.int 1048524).sizeText = .ok (Text.of "1023.9 KB") ∧
      (Value.int 1048576).sizeText = .ok (Text.of "1.0 MB") ∧
      Shows (Text.of "1023.9 KB") (10239 / 10) 1 ∧ Shows (Text.of "1.0 MB") 1 2 ∧
      IsNearestTenth (1048524 / 1024 ^ 1) (10239 / 10) ∧
      (10239 / 10 * 1024 ^ 1 : ℚ) ≤ 1 * 1024 ^ 2 := by
  have hlt : 1048524 < 2 ^ 53 := by norm_num
  have hlt' : 1048576 < 2 ^ 53 := by norm_num
  have htext : text (ofInt 1048524) = Text.of "1023.9 KB" := by decide +kernel
  have htext' : text (ofInt 1048576) = Text.of "1.0 MB" := by decide +kernel
  have hshown := (sizeText_int hlt).trans (congrArg Except.ok htext)
  have hshown' := (sizeText_int hlt').trans (congrArg Except.ok htext')
  have hshows : Shows (Text.of "1023.9 KB") (10239 / 10) 1 :=
    ⟨1023, 9, Text.of "KB", by decide, by norm_num, rfl, by decide +kernel⟩
  have hshows' : Shows (Text.of "1.0 MB") 1 2 :=
    ⟨1, 0, Text.of "MB", by decide, by norm_num, rfl, by decide +kernel⟩
  rcases sizeText_shows 1048524 hlt with
    ⟨text, amount, place, hother, hotherShows, _, hnear, _, hmono⟩
  obtain rfl := Except.ok.inj (hshown.symm.trans hother)
  rcases hotherShows.unique hshows with ⟨rfl, rfl⟩
  exact ⟨hlt, by norm_num, hlt', hshown, hshown', hshows, hshows', hnear,
    hmono 1048576 (by norm_num) hlt' _ _ _ hshown' hshows'⟩

/-!
# Below the next unit
-/

theorem tenthsOf_lt_iff (octets place : ℕ) :
    tenthsOf octets place < step * 10 ↔ 20 * octets < 20479 * step ^ place := by
  have hpos := step_pow_pos place
  rcases roundHalfEven_bounds (octets * 10) hpos with ⟨hlow, hhigh⟩
  have heven := @roundHalfEven_even (octets * 10) _ hpos
  rw [← tenthsOf] at hlow hhigh heven
  generalize tenthsOf octets place = tenths at hlow hhigh heven ⊢
  generalize step ^ place = unit at hpos hlow hhigh heven ⊢
  rw [show step * 10 = 10240 from rfl]
  constructor
  · intro hlt
    have hle : (2 * tenths + 1) * unit ≤ 20479 * unit := Nat.mul_le_mul_right unit (by omega)
    rcases Nat.lt_or_ge (20 * octets) (20479 * unit) with hbelow | habove
    · exact hbelow
    · -- Exactly half a tenth below the next unit, the odd number of tenths is not taken.
      have htie : (2 * tenths + 1) * unit = 20479 * unit := by omega
      have hodd := Nat.eq_of_mul_eq_mul_right hpos htie
      have htenths : Even tenths := heven (Or.inl (by omega))
      rw [Nat.even_iff] at htenths
      omega
  · intro hlt
    by_contra hnot
    have hle : 20480 * unit ≤ 2 * tenths * unit := Nat.mul_le_mul_right unit (by omega)
    omega

/-- Is a size less than a twentieth of the unit at a place below the next larger unit? -/
def IsBarelyBelow (octets place : ℕ) : Prop :=
  (1024 : ℚ) ^ (place + 1) - 1024 ^ place / 20 ≤ octets ∧ octets < 1024 ^ (place + 1)

theorem isBarelyBelow_iff :
    IsBarelyBelow octets place ↔
      20479 * step ^ place ≤ 20 * octets ∧ octets < step ^ (place + 1) := by
  have hleast : (1024 : ℚ) ^ (place + 1) - 1024 ^ place / 20 ≤ octets ↔
      (20479 * 1024 ^ place : ℚ) ≤ 20 * octets := by
    rw [pow_succ]
    constructor
    · intro h
      linarith
    · intro h
      linarith
  rw [IsBarelyBelow, hleast]
  norm_cast

theorem IsBarelyBelow.isReached (h : IsBarelyBelow octets place) (hplace : place < 4) :
    IsReached octets place := by
  rw [isBarelyBelow_iff] at h
  exact isReached_iff.mpr ⟨hplace.le, Or.inr (by omega), Or.inr h.2⟩

/-- The amount stays below 1024 of a unit that has a larger one, except for the sizes that are
barely below that one: those are rounded up to it. -/
theorem sizeText_below_iff (octets : ℕ) (hoctets : octets < 2 ^ 53) :
    ∃ text amount place, (Value.int octets).sizeText = .ok text ∧ Shows text amount place ∧
      (amount < 1024 ∨ place = 4 ↔ ∀ k < 4, ¬ IsBarelyBelow octets k) := by
  rcases exists_sizeText hoctets with ⟨text, place, htext, hshows, hreached⟩
  refine ⟨text, _, place, htext, hshows, ?_⟩
  have hamount : (tenthsOf octets place / 10 : ℚ) < 1024 ↔
      20 * octets < 20479 * step ^ place := by
    rw [← tenthsOf_lt_iff, div_lt_iff₀ (by norm_num)]
    norm_cast
  rw [hamount]
  constructor
  · rintro hbelow k hk hbarely
    obtain rfl : place = k := hreached.unique (hbarely.isReached hk)
    rw [isBarelyBelow_iff] at hbarely
    omega
  · intro hnone
    rw [isReached_iff] at hreached
    rcases hreached.2.2 with hlast | hlt
    · exact Or.inr hlast
    · have hnot := hnone place
      rw [isBarelyBelow_iff] at hnot
      omega

/-- The largest size in kilobytes that stays below 1024 of them. -/
theorem sizeText_below_iff_kilobytes :
    1048524 < 2 ^ 53 ∧ (∀ k < 4, ¬ IsBarelyBelow 1048524 k) ∧
      ∃ text amount place, (Value.int 1048524).sizeText = .ok text ∧ Shows text amount place ∧
        (amount < 1024 ∨ place = 4) := by
  have hlt : 1048524 < 2 ^ 53 := by norm_num
  have hnone : ∀ k < 4, ¬ IsBarelyBelow 1048524 k := by
    simp only [isBarelyBelow_iff]
    decide
  rcases sizeText_below_iff 1048524 hlt with ⟨text, amount, place, htext, hshows, hiff⟩
  exact ⟨hlt, hnone, text, amount, place, htext, hshows, hiff.mpr hnone⟩

/-- A size that is rounded up to 1024.0 of its unit. -/
theorem sizeText_barelyBelow :
    1048575 < 2 ^ 53 ∧ (Value.int 1048575).sizeText = .ok (Text.of "1024.0 KB") ∧
      Shows (Text.of "1024.0 KB") 1024 1 ∧ ¬ ((1024 : ℚ) < 1024 ∨ 1 = 4) := by
  have hlt : 1048575 < 2 ^ 53 := by norm_num
  have htext : text (ofInt 1048575) = Text.of "1024.0 KB" := by decide +kernel
  have hshows : Shows (Text.of "1024.0 KB") 1024 1 :=
    ⟨1024, 0, Text.of "KB", by decide, by norm_num, rfl, by decide +kernel⟩
  exact ⟨hlt, (sizeText_int hlt).trans (congrArg Except.ok htext), hshows, by norm_num⟩

end Size

end ContainerDesk
