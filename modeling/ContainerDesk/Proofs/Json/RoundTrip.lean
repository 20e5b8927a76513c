import ContainerDesk.Proofs.Json.Written

/-!
# Reading what was written

A readable value reads back from what is written for it, at any depth of indentation
and in front of anything that cannot carry a number on.  The reader stands right behind
the value then.  As much fuel as there are code points is enough.
-/

namespace ContainerDesk

namespace Json

/-!
# Blanks
-/

theorem skipBlanks_append (position : Nat) {blanks : Text} {c : CodePoint} {rest : Text}
    (hblanks : ∀ d ∈ blanks, isBlank d = true) (hc : isBlank c = false) :
    skipBlanks ⟨position, blanks ++ c :: rest⟩ = ⟨position + blanks.length, c :: rest⟩ := by
  have htake : (blanks ++ c :: rest).takeWhile isBlank = blanks := by
    rw [List.takeWhile_append_of_pos hblanks, List.takeWhile_cons_of_neg (by simp [hc]),
      List.append_nil]
  have hdrop : (blanks ++ c :: rest).dropWhile isBlank = c :: rest := by
    rw [List.dropWhile_append_of_pos hblanks, List.dropWhile_cons_of_neg (by simp [hc])]
  rw [skipBlanks, htake, hdrop]

theorem skipBlanks_of_not_blank (position : Nat) {c : CodePoint} (rest : Text)
    (hc : isBlank c = false) : skipBlanks ⟨position, c :: rest⟩ = ⟨position, c :: rest⟩ :=
  skipBlanks_append position (fun _ hd => absurd hd List.not_mem_nil) hc

theorem isBlank_newLine (indent : Nat) : ∀ d ∈ newLine indent, isBlank d = true := by
  intro d hd
  rcases List.mem_append.mp hd with hd | hd
  · rw [List.mem_singleton.mp hd]
    decide
  · rw [List.eq_of_mem_replicate hd]
    decide

theorem skipBlanks_newLine (position indent : Nat) {c : CodePoint} (rest : Text)
    (hc : isBlank c = false) :
    skipBlanks ⟨position, newLine indent ++ c :: rest⟩ =
      ⟨position + (newLine indent).length, c :: rest⟩ :=
  skipBlanks_append position (isBlank_newLine indent) hc

theorem skipBlanks_startsValue (position indent : Nat) {t : Text} (ht : StartsValue t) :
    skipBlanks ⟨position, newLine indent ++ t⟩ = ⟨position + (newLine indent).length, t⟩ := by
  rcases ht with ⟨c, rest, rfl, hc, _⟩
  exact skipBlanks_newLine position indent rest hc

theorem endsNumber_newLine (indent : Nat) (tail : Text) : EndsNumber (newLine indent ++ tail) := by
  intro c hc
  rw [← Option.some.inj hc]
  decide

/-!
# Values in front of a text
-/

/-- Does the value read back from whatever is written for it? -/
def ReadsBack (depth : Nat) (value : Value) : Prop :=
  ∀ indent w, writeAt indent value = .ok w → ∀ position fuel tail, EndsNumber tail →
    w.length ≤ fuel →
    readValue depth fuel ⟨position, w ++ tail⟩ = .ok (value, ⟨position + w.length, tail⟩)

theorem not_length_le_zero {depth indent : Nat} {value : Value} {w : Text}
    (hvalue : IsReadable depth value) (hw : writeAt indent value = .ok w) : ¬w.length ≤ 0 := by
  rcases startsValue_of_readable hvalue hw with ⟨c, rest, rfl, _⟩
  exact Nat.not_succ_le_zero _

theorem readValue_word {depth fuel position : Nat} {c : CodePoint} {rest : Text}
    (hc : c.val ≠ 34 ∧ c.val ≠ 123 ∧ c.val ≠ 91) :
    readValue depth (fuel + 1) ⟨position, c :: rest⟩ =
      match readWord? ⟨position, c :: rest⟩ with
      | some found => .ok found
      | none => readNumber ⟨position, c :: rest⟩ := by
  rw [readValue]
  cases readWord? ⟨position, c :: rest⟩ with
  | none =>
      simp only [hc.1, hc.2.1, hc.2.2, if_false, decide_false, Bool.or_self, Bool.and_false,
        Bool.false_eq_true]
  | some found =>
      simp only [hc.1, hc.2.1, hc.2.2, if_false, decide_false, Bool.or_self, Bool.and_false,
        Bool.false_eq_true]

/-!
# Numbers
-/

theorem isPrefixOf_cons_of_ne {c d : CodePoint} (h : d ≠ c) (s t : Text) :
    (d :: s).isPrefixOf (c :: t) = false := by
  simp [List.isPrefixOf, h]

theorem ne_of_isDigit {c d : CodePoint} (hc : c.isDigit = true) (hd : d.isDigit = false) :
    d ≠ c := by
  rintro rfl
  rw [hc] at hd
  cases hd

theorem readWord_number (position : Nat) {t : Text} (ht : StartsNumber t) :
    readWord? ⟨position, t⟩ = none := by
  rcases ht with ⟨negative, c, rest, rfl, hc⟩
  unfold readWord?
  rw [Option.map_eq_none_iff, List.find?_eq_none]
  intro word hword
  simp only [words, List.mem_cons, List.not_mem_nil, or_false] at hword
  rw [Bool.not_eq_true]
  cases negative with
  | false =>
      rcases hword with rfl | rfl | rfl | rfl | rfl | rfl
      all_goals exact isPrefixOf_cons_of_ne (ne_of_isDigit hc rfl) _ _
  | true =>
      rcases hword with rfl | rfl | rfl | rfl | rfl | rfl
      · exact isPrefixOf_cons_of_ne (by decide) _ _
      · exact isPrefixOf_cons_of_ne (by decide) _ _
      · exact isPrefixOf_cons_of_ne (by decide) _ _
      · exact isPrefixOf_cons_of_ne (by decide) _ _
      · exact isPrefixOf_cons_of_ne (by decide) _ _
      · -- Behind the minus sign a digit stands, not the first letter of the word.
        exact isPrefixOf_cons_of_ne (ne_of_isDigit hc rfl) _ _

theorem readValue_number {depth fuel position : Nat} {t : Text} (ht : StartsNumber t) :
    readValue depth (fuel + 1) ⟨position, t⟩ = readNumber ⟨position, t⟩ := by
  have hword := readWord_number position ht
  rcases ht with ⟨negative, c, rest, rfl, hc⟩
  cases negative with
  | false =>
      have hrange : 48 ≤ c.val ∧ c.val ≤ 57 := by
        simpa [CodePoint.isDigit] using hc
      rw [show Binary64.signText false ++ c :: rest = c :: rest from rfl] at hword ⊢
      rw [readValue_word (by omega), hword]
  | true =>
      rw [show Binary64.signText true ++ c :: rest = CodePoint.ofChar '-' :: c :: rest from rfl]
        at hword ⊢
      rw [readValue_word (by decide), hword]

theorem readsBack_int (depth : Nat) (n : Int) : ReadsBack depth (.int n) := by
  intro indent w hw position fuel tail htail hfuel
  have hnumeral := writeAt_int hw
  have hstart := startsNumber_int hnumeral
  cases fuel with
  | zero =>
      rcases hstart with ⟨negative, c, rest, rfl, _⟩
      simp at hfuel
  | succ fuel =>
      rw [readValue_number (hstart.append tail)]
      exact readNumber_int position hnumeral htail

/-!
# Words and texts
-/

theorem readValue_of_word {depth fuel position : Nat} {c : CodePoint} {w tail : Text}
    {value : Value} (hc : c.val ≠ 34 ∧ c.val ≠ 123 ∧ c.val ≠ 91)
    (hword : readWord? ⟨position, c :: w ++ tail⟩ =
      some (value, ⟨position + (c :: w).length, tail⟩))
    (hfuel : (c :: w).length ≤ fuel) :
    readValue depth fuel ⟨position, c :: w ++ tail⟩ =
      .ok (value, ⟨position + (c :: w).length, tail⟩) := by
  cases fuel with
  | zero => simp at hfuel
  | succ fuel =>
      rw [List.cons_append] at hword ⊢
      rw [readValue_word hc, hword]

theorem readsBack_null (depth : Nat) : ReadsBack depth .null := by
  intro indent w hw position fuel tail _ hfuel
  rw [← Except.ok.inj hw] at hfuel ⊢
  exact readValue_of_word (by decide) rfl hfuel

theorem readsBack_bool (depth : Nat) (b : Bool) : ReadsBack depth (.bool b) := by
  intro indent w hw position fuel tail _ hfuel
  rw [← Except.ok.inj hw] at hfuel ⊢
  cases b with
  | true => exact readValue_of_word (by decide) rfl hfuel
  | false => exact readValue_of_word (by decide) rfl hfuel

theorem readsBack_float (depth : Nat) (x : Binary64) : ReadsBack depth (.float x) := by
  intro indent w hw position fuel tail htail hfuel
  rw [← Except.ok.inj hw] at hfuel ⊢
  cases x with
  | nan => exact readValue_of_word (by decide) rfl hfuel
  | infinite negative =>
      cases negative with
      | true => exact readValue_of_word (by decide) rfl hfuel
      | false => exact readValue_of_word (by decide) rfl hfuel
  | finite negative exponent fraction =>
      have hstart := startsNumber_finite negative exponent fraction
      cases fuel with
      | zero =>
          rcases hstart with ⟨negative, c, rest, heq, _⟩
          simp [writeFloat, heq] at hfuel
      | succ fuel =>
          show readValue depth (fuel + 1) ⟨position, (Binary64.finite _ _ _).write ++ tail⟩ = _
          rw [readValue_number (hstart.append tail)]
          exact readNumber_finite position negative exponent fraction htail

theorem readsBack_text (depth : Nat) (t : Text) : ReadsBack depth (.text t) := by
  intro indent w hw position fuel tail _ hfuel
  rw [← Except.ok.inj hw] at hfuel ⊢
  have hlength := length_writeText t
  cases fuel with
  | zero => omega
  | succ fuel =>
      rw [writeText_append, readValue]
      dsimp only
      rw [if_pos (by decide), readTextFrom_write]
      dsimp only
      rw [hlength, show position + 1 + (t.flatMap writeCodePoint).length + 1 =
        position + ((t.flatMap writeCodePoint).length + 2) by omega]

/-!
# Lists
-/

def separator (indent : Nat) : Text :=
  Text.of "," ++ newLine indent

theorem separator_append (indent : Nat) (tail : Text) :
    separator indent ++ tail = CodePoint.ofChar ',' :: (newLine indent ++ tail) := by
  rfl

theorem length_separator (indent : Nat) :
    (separator indent).length = (newLine indent).length + 1 := by
  rfl

theorem endsNumber_separator (indent : Nat) (tail : Text) :
    EndsNumber (separator indent ++ tail) := by
  intro c hc
  rw [← Option.some.inj hc]
  decide

theorem startsValue_joinWith {part : Text} (h : StartsValue part) (separator : Text)
    (others : List Text) : StartsValue (Text.joinWith separator (part :: others)) := by
  cases others with
  | nil => exact h
  | cons next rest =>
      rw [Text.joinWith, List.append_assoc]
      exact h.append _

theorem readItems_write {depth indent : Nat} (outer : Nat) {items : List Value}
    (hreads : ∀ item ∈ items, ReadsBack depth item ∧
      ∀ w, writeAt indent item = .ok w → StartsValue w)
    {parts : List Text} (h : writeItems indent items = .ok parts) (hne : items ≠ []) :
    ∀ position fuel tail, (Text.joinWith (separator indent) parts).length < fuel →
      readItems depth fuel ⟨position, Text.joinWith (separator indent) parts ++
          (newLine outer ++ CodePoint.ofChar ']' :: tail)⟩ =
        .ok (items, ⟨position + (Text.joinWith (separator indent) parts).length +
          (newLine outer).length + 1, tail⟩) := by
  induction items generalizing parts with
  | nil => exact absurd rfl hne
  | cons item rest ih =>
      rcases writeItems_cons h with ⟨part, others, hpart, hothers, rfl⟩
      have hitem := (hreads item List.mem_cons_self).1 indent part hpart
      intro position fuel tail hfuel
      cases fuel with
      | zero => omega
      | succ fuel =>
          cases rest with
          | nil =>
              rw [← Except.ok.inj hothers] at hfuel ⊢
              rw [Text.joinWith] at hfuel ⊢
              rw [readItems, hitem position fuel _ (endsNumber_newLine _ _) (by omega)]
              dsimp only
              rw [skipBlanks_newLine _ _ _ (by decide)]
              rfl
          | cons next rest =>
              -- The separator ends the item, were it a number, and the next item starts behind it.
              rcases writeItems_cons hothers with ⟨second, more, hsecond, hmore, rfl⟩
              have hstart : StartsValue (Text.joinWith (separator indent) (second :: more)) :=
                startsValue_joinWith ((hreads next (by simp)).2 second hsecond) _ _
              have hrest := ih (fun other hother => hreads other (List.mem_cons_of_mem _ hother))
                hothers (List.cons_ne_nil _ _)
              rw [Text.joinWith] at hfuel ⊢
              generalize Text.joinWith (separator indent) (second :: more) = joined at *
              simp only [List.length_append, length_separator] at hfuel
              rw [List.append_assoc, List.append_assoc, readItems,
                hitem position fuel _ (endsNumber_separator _ _) (by omega)]
              dsimp only
              rw [separator_append, skipBlanks_of_not_blank _ _ (by decide)]
              dsimp only
              rw [if_neg (by decide), if_pos (by decide),
                skipBlanks_startsValue _ _ (hstart.append _), hrest _ fuel tail (by omega)]
              simp only [List.length_append, length_separator]
              rw [show position + part.length + 1 + (newLine indent).length + joined.length =
                position + (part.length + ((newLine indent).length + 1) + joined.length) by omega]

/-!
# Tables
-/

/-- What is still to be done when the value of an entry has been read. -/
theorem readEntries_value {depth fuel position : Nat} {key part tail : Text} {value : Value}
    {after : Cursor} (hstart : StartsValue part)
    (hvalue : readValue depth fuel ⟨position + ((writeText key).length + 2), part ++ tail⟩ =
      .ok (value, after)) :
    readEntries depth (fuel + 1)
        ⟨position, writeText key ++ (Text.of ": " ++ (part ++ tail))⟩ =
      match (skipBlanks after).rest with
      | [] => .error (.at .noComma (skipBlanks after).position)
      | c :: rest =>
          if c.val = 125 then
            .ok ([(key, value)], ⟨(skipBlanks after).position + 1, rest⟩)
          else if c.val = 44 then
            match readEntries depth fuel
                (skipBlanks ⟨(skipBlanks after).position + 1, rest⟩) with
            | .error fault => .error fault
            | .ok (entries, after) => .ok ((key, value) :: entries, after)
          else
            .error (.at .noComma (skipBlanks after).position) := by
  have hblank : ∀ d ∈ Text.of " ", isBlank d = true := by
    intro d hd
    rw [List.mem_singleton.mp hd]
    decide
  have hskip (q : Nat) : skipBlanks ⟨q, CodePoint.ofChar ' ' :: (part ++ tail)⟩ =
      ⟨q + 1, part ++ tail⟩ := by
    rcases hstart with ⟨c, rest, rfl, hc, _⟩
    exact skipBlanks_append q hblank hc
  have hcolon : Text.of ": " ++ (part ++ tail) =
      CodePoint.ofChar ':' :: CodePoint.ofChar ' ' :: (part ++ tail) := rfl
  -- The reader counts the quotation marks, the colon and the blank one by one.
  rw [length_writeText, show position + ((key.flatMap writeCodePoint).length + 2 + 2) =
    position + 1 + (key.flatMap writeCodePoint).length + 1 + 1 + 1 by omega] at hvalue
  rw [writeText_append, hcolon, readEntries]
  dsimp only
  rw [if_neg (by decide), readTextFrom_write]
  dsimp only
  rw [skipBlanks_of_not_blank _ _ (by decide)]
  dsimp only
  rewrite [if_neg (by decide), hskip, hvalue]
  rfl

theorem startsValue_entry (key t : Text) : StartsValue (writeText key ++ t) := by
  rw [writeText_append]
  exact ⟨_, _, rfl, by decide, by decide⟩

theorem readEntries_write {depth indent : Nat} (outer : Nat) {entries : List (Text × Value)}
    (hreads : ∀ entry ∈ entries, ReadsBack depth entry.2 ∧
      ∀ w, writeAt indent entry.2 = .ok w → StartsValue w)
    {parts : List Text} (h : writeEntries indent entries = .ok parts) (hne : entries ≠ []) :
    ∀ position fuel tail, (Text.joinWith (separator indent) parts).length < fuel →
      readEntries depth fuel ⟨position, Text.joinWith (separator indent) parts ++
          (newLine outer ++ CodePoint.ofChar '\x7d' :: tail)⟩ =
        .ok (entries, ⟨position + (Text.joinWith (separator indent) parts).length +
          (newLine outer).length + 1, tail⟩) := by
  induction entries generalizing parts with
  | nil => exact absurd rfl hne
  | cons entry rest ih =>
      rcases entry with ⟨key, value⟩
      rcases writeEntries_cons h with ⟨part, others, hpart, hothers, rfl⟩
      have hentry := hreads (key, value) List.mem_cons_self
      have hvalue := hentry.1 indent part hpart
      have hcolon : (Text.of ": ").length = 2 := rfl
      intro position fuel tail hfuel
      cases fuel with
      | zero => omega
      | succ fuel =>
          cases rest with
          | nil =>
              rw [← Except.ok.inj hothers] at hfuel ⊢
              rw [Text.joinWith] at hfuel ⊢
              simp only [List.length_append, hcolon] at hfuel
              rw [List.append_assoc, List.append_assoc,
                readEntries_value (hentry.2 part hpart)
                  (hvalue _ fuel _ (endsNumber_newLine _ _) (by omega)),
                skipBlanks_newLine _ _ _ (by decide)]
              dsimp only
              rw [if_pos (by decide)]
              simp only [List.length_append, hcolon]
              rw [show position + ((writeText key).length + 2) + part.length =
                position + ((writeText key).length + 2 + part.length) by omega]
          | cons next rest =>
              -- As with the items of a list, but it is a key that starts behind the separator.
              rcases next with ⟨nextKey, nextValue⟩
              rcases writeEntries_cons hothers with ⟨second, more, hsecond, hmore, rfl⟩
              have hstart : StartsValue (Text.joinWith (separator indent)
                  ((writeText nextKey ++ Text.of ": " ++ second) :: more)) := by
                apply startsValue_joinWith
                rw [List.append_assoc]
                exact startsValue_entry nextKey _
              have hrest := ih (fun other hother => hreads other (List.mem_cons_of_mem _ hother))
                hothers (List.cons_ne_nil _ _)
              rw [Text.joinWith] at hfuel ⊢
              generalize Text.joinWith (separator indent)
                ((writeText nextKey ++ Text.of ": " ++ second) :: more) = joined at *
              simp only [List.length_append, length_separator, hcolon] at hfuel
              rw [List.append_assoc, List.append_assoc, List.append_assoc, List.append_assoc,
                readEntries_value (hentry.2 part hpart)
                  (hvalue _ fuel _ (endsNumber_separator _ _) (by omega)),
                separator_append, skipBlanks_of_not_blank _ _ (by decide)]
              dsimp only
              rw [if_neg (by decide), if_pos (by decide),
                skipBlanks_startsValue _ _ (hstart.append _), hrest _ fuel tail (by omega)]
              simp only [List.length_append, length_separator, hcolon]
              rw [show position + ((writeText key).length + 2) + part.length + 1 +
                  (newLine indent).length + joined.length =
                position + ((writeText key).length + 2 + part.length +
                  ((newLine indent).length + 1) + joined.length) by omega]

/-!
# Whole values
-/

theorem block_append (opening closing : CodePoint) (indent : Nat) (parts : List Text)
    (tail : Text) :
    block [opening] [closing] indent parts ++ tail =
      opening :: (newLine (indent + 1) ++
        (Text.joinWith (separator (indent + 1)) parts ++ (newLine indent ++ closing :: tail))) := by
  simp only [block, separator, List.append_assoc, List.singleton_append]
  rfl

theorem length_block (opening closing : CodePoint) (indent : Nat) (parts : List Text) :
    (block [opening] [closing] indent parts).length =
      (newLine (indent + 1)).length + (Text.joinWith (separator (indent + 1)) parts).length +
        (newLine indent).length + 2 := by
  have hlength := congrArg List.length (block_append opening closing indent parts [])
  simp only [List.append_nil, List.length_cons, List.length_append, List.length_nil] at hlength
  omega

theorem readValue_list {depth fuel position indent : Nat} {t : Text} (ht : StartsValue t)
    {items : List Value} {after : Cursor}
    (h : readItems depth fuel ⟨position + 1 + (newLine indent).length, t⟩ = .ok (items, after)) :
    readValue (depth + 1) (fuel + 1) ⟨position, CodePoint.ofChar '[' :: (newLine indent ++ t)⟩ =
      .ok (.list items, after) := by
  rw [readValue]
  dsimp only
  rw [if_neg (by decide), if_neg (by simp), if_neg (by decide), if_pos (by decide),
    skipBlanks_startsValue _ _ ht]
  rcases ht with ⟨c, rest, rfl, _, hclosing, _⟩
  dsimp only
  rw [if_neg hclosing, Nat.add_sub_cancel, h]

theorem readValue_table {depth fuel position indent : Nat} {t : Text} (ht : StartsValue t)
    {entries : List (Text × Value)} {after : Cursor}
    (h : readEntries depth fuel ⟨position + 1 + (newLine indent).length, t⟩ =
      .ok (entries, after)) :
    readValue (depth + 1) (fuel + 1)
        ⟨position, CodePoint.ofChar '\x7b' :: (newLine indent ++ t)⟩ =
      .ok (.table (tableOf entries), after) := by
  rw [readValue]
  dsimp only
  rw [if_neg (by decide), if_neg (by simp), if_pos (by decide), skipBlanks_startsValue _ _ ht]
  rcases ht with ⟨c, rest, rfl, _, _, hclosing, _⟩
  dsimp only
  rw [if_neg hclosing, Nat.add_sub_cancel, h]

theorem readValue_emptyList (depth fuel position : Nat) (tail : Text) :
    readValue (depth + 1) (fuel + 1) ⟨position, Text.of "[]" ++ tail⟩ =
      .ok (.list [], ⟨position + 2, tail⟩) := by
  show readValue (depth + 1) (fuel + 1)
    ⟨position, CodePoint.ofChar '[' :: CodePoint.ofChar ']' :: tail⟩ = _
  rw [readValue]
  dsimp only
  rw [if_neg (by decide), if_neg (by simp), if_neg (by decide), if_pos (by decide),
    skipBlanks_of_not_blank _ _ (by decide)]
  rfl

theorem readValue_emptyTable (depth fuel position : Nat) (tail : Text) :
    readValue (depth + 1) (fuel + 1) ⟨position, Text.of "\x7b\x7d" ++ tail⟩ =
      .ok (.table [], ⟨position + 2, tail⟩) := by
  show readValue (depth + 1) (fuel + 1)
    ⟨position, CodePoint.ofChar '\x7b' :: CodePoint.ofChar '\x7d' :: tail⟩ = _
  rw [readValue]
  dsimp only
  rw [if_neg (by decide), if_neg (by simp), if_pos (by decide),
    skipBlanks_of_not_blank _ _ (by decide)]
  rfl

theorem readsBack_list {depth : Nat} {items : List Value}
    (hitems : ∀ item ∈ items, IsReadable depth item) (ih : ∀ item ∈ items, ReadsBack depth item) :
    ReadsBack (depth + 1) (.list items) := by
  intro indent w hw position fuel tail _ hfuel
  cases fuel with
  | zero => exact absurd hfuel (not_length_le_zero (IsReadable.list hitems) hw)
  | succ fuel =>
      cases items with
      | nil =>
          rw [← Except.ok.inj hw]
          exact readValue_emptyList depth fuel position tail
      | cons item items =>
          rcases writeAt_list hw with ⟨parts, hparts, rfl⟩
          rcases writeItems_cons hparts with ⟨part, others, hpart, _, rfl⟩
          have hreads : ∀ other ∈ item :: items, ReadsBack depth other ∧
              ∀ w, writeAt (indent + 1) other = .ok w → StartsValue w :=
            fun other hother =>
              ⟨ih other hother, fun w => startsValue_of_readable (hitems other hother)⟩
          have hstart : StartsValue (Text.joinWith (separator (indent + 1)) (part :: others)) :=
            startsValue_joinWith ((hreads item List.mem_cons_self).2 part hpart) _ _
          have hread := readItems_write indent hreads hparts (List.cons_ne_nil _ _)
            (position + 1 + (newLine (indent + 1)).length) fuel tail
          have hlength := length_block (CodePoint.ofChar '[') (CodePoint.ofChar ']') indent
            (part :: others)
          rw [show Text.of "[" = [CodePoint.ofChar '['] from rfl,
            show Text.of "]" = [CodePoint.ofChar ']'] from rfl] at hfuel ⊢
          rw [hlength] at hfuel ⊢
          rw [block_append, readValue_list (hstart.append _) (hread (by omega))]
          generalize (Text.joinWith (separator (indent + 1)) (part :: others)).length = length
          rw [show position + 1 + (newLine (indent + 1)).length + length +
              (newLine indent).length + 1 =
            position + ((newLine (indent + 1)).length + length +
              (newLine indent).length + 2) by omega]

theorem readsBack_table {depth : Nat} {entries : List (Text × Value)}
    (hkeys : (entries.map (·.1)).Nodup) (hvalues : ∀ entry ∈ entries, IsReadable depth entry.2)
    (ih : ∀ entry ∈ entries, ReadsBack depth entry.2) :
    ReadsBack (depth + 1) (.table entries) := by
  intro indent w hw position fuel tail _ hfuel
  cases fuel with
  | zero => exact absurd hfuel (not_length_le_zero (IsReadable.table hkeys hvalues) hw)
  | succ fuel =>
      cases entries with
      | nil =>
          rw [← Except.ok.inj hw]
          exact readValue_emptyTable depth fuel position tail
      | cons entry entries =>
          rcases entry with ⟨key, value⟩
          rcases writeAt_table hw with ⟨parts, hparts, rfl⟩
          rcases writeEntries_cons hparts with ⟨part, others, _, _, rfl⟩
          have hreads : ∀ other ∈ (key, value) :: entries, ReadsBack depth other.2 ∧
              ∀ w, writeAt (indent + 1) other.2 = .ok w → StartsValue w :=
            fun other hother =>
              ⟨ih other hother, fun w => startsValue_of_readable (hvalues other hother)⟩
          have hstart : StartsValue (Text.joinWith (separator (indent + 1))
              ((writeText key ++ Text.of ": " ++ part) :: others)) := by
            apply startsValue_joinWith
            rw [List.append_assoc]
            exact startsValue_entry key _
          have hread := readEntries_write indent hreads hparts (List.cons_ne_nil _ _)
            (position + 1 + (newLine (indent + 1)).length) fuel tail
          have hlength := length_block (CodePoint.ofChar '\x7b') (CodePoint.ofChar '\x7d') indent
            ((writeText key ++ Text.of ": " ++ part) :: others)
          rw [show Text.of "\x7b" = [CodePoint.ofChar '\x7b'] from rfl,
            show Text.of "\x7d" = [CodePoint.ofChar '\x7d'] from rfl] at hfuel ⊢
          rw [hlength] at hfuel ⊢
          rw [block_append, readValue_table (hstart.append _) (hread (by omega)),
            tableOf_eq_self hkeys]
          generalize (Text.joinWith (separator (indent + 1))
            ((writeText key ++ Text.of ": " ++ part) :: others)).length = length
          rw [show position + 1 + (newLine (indent + 1)).length + length +
              (newLine indent).length + 1 =
            position + ((newLine (indent + 1)).length + length +
              (newLine indent).length + 2) by omega]

/-- Every readable value reads back from what is written for it. -/
theorem readsBack {depth : Nat} {value : Value} (h : IsReadable depth value) :
    ReadsBack depth value := by
  induction h with
  | null => exact readsBack_null _
  | bool b => exact readsBack_bool _ b
  | int n => exact readsBack_int _ n
  | float x => exact readsBack_float _ x
  | text t => exact readsBack_text _ t
  | list hitems ih => exact readsBack_list hitems ih
  | table hkeys hvalues ih => exact readsBack_table hkeys hvalues ih

theorem read_of_write {value : Value} {t : Text} (hvalue : IsReadable depthLimit value)
    (h : write value = .ok t) : read t = .ok value := by
  have hread := readsBack hvalue 0 t h 0 (fuelFor t) [] (fun c hc => absurd hc (by simp))
    (by unfold fuelFor; omega)
  rcases startsValue_of_readable hvalue h with ⟨c, rest, rfl, hblank, _, _, hascii⟩
  have hmark : ¬(c :: rest).head? = some (CodePoint.ofNat 0xFEFF) := by
    intro heq
    rw [Option.some.inj heq] at hascii
    exact absurd hascii (by decide)
  rw [List.append_nil] at hread
  rw [read, if_neg hmark, skipBlanks_of_not_blank _ _ hblank, hread]
  rfl

end Json

end ContainerDesk
