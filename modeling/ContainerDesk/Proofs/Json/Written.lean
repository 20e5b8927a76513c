import ContainerDesk.Proofs.Json.Number
import ContainerDesk.Proofs.Json.Readable
import ContainerDesk.Proofs.Json.Text

/-!
# Written values

What is written for a value starts with no blank and with no closing bracket.  The
elements of a list and the entries of a table are written one by one.

Marks and numerals are plain ASCII, so only the texts of a value bring in other code
points, and no control among them.  What holds of plain code points holds of all that is
written exactly if it holds of those: no carriage return is ever written, and a
surrogate only where a text has one.
-/

namespace ContainerDesk

namespace Json

/-!
# Lists and tables
-/

theorem writeItems_cons {indent : Nat} {item : Value} {rest : List Value} {parts : List Text}
    (h : writeItems indent (item :: rest) = .ok parts) :
    ∃ part others, writeAt indent item = .ok part ∧ writeItems indent rest = .ok others ∧
      parts = part :: others := by
  rw [writeItems] at h
  split at h
  · cases h
  · rename_i part hpart
    split at h
    · cases h
    · rename_i others hothers
      exact ⟨part, others, hpart, hothers, (Except.ok.inj h).symm⟩

theorem writeEntries_cons {indent : Nat} {key : Text} {value : Value}
    {rest : List (Text × Value)} {parts : List Text}
    (h : writeEntries indent ((key, value) :: rest) = .ok parts) :
    ∃ part others, writeAt indent value = .ok part ∧ writeEntries indent rest = .ok others ∧
      parts = (writeText key ++ Text.of ": " ++ part) :: others := by
  rw [writeEntries] at h
  split at h
  · cases h
  · rename_i part hpart
    split at h
    · cases h
    · rename_i others hothers
      exact ⟨part, others, hpart, hothers, (Except.ok.inj h).symm⟩

theorem writeAt_list {indent : Nat} {item : Value} {items : List Value} {w : Text}
    (h : writeAt indent (.list (item :: items)) = .ok w) :
    ∃ parts, writeItems (indent + 1) (item :: items) = .ok parts ∧
      w = block (Text.of "[") (Text.of "]") indent parts := by
  rw [writeAt] at h
  split at h
  · rename_i parts hparts
    exact ⟨parts, hparts, (Except.ok.inj h).symm⟩
  · cases h

theorem writeAt_table {indent : Nat} {entry : Text × Value} {entries : List (Text × Value)}
    {w : Text} (h : writeAt indent (.table (entry :: entries)) = .ok w) :
    ∃ parts, writeEntries (indent + 1) (entry :: entries) = .ok parts ∧
      w = block (Text.of "\x7b") (Text.of "\x7d") indent parts := by
  rw [writeAt] at h
  split at h
  · rename_i parts hparts
    exact ⟨parts, hparts, (Except.ok.inj h).symm⟩
  · cases h

theorem writeAt_int {indent : Nat} {n : Int} {w : Text} (h : writeAt indent (.int n) = .ok w) :
    integerNumeral? n = some w := by
  rw [writeAt] at h
  unfold writeInteger at h
  split at h
  · rename_i t ht
    rw [ht, Except.ok.inj h]
  · cases h

/-!
# How written values start
-/

/-- A text that starts with an ASCII code point, with no blank and with no closing bracket. -/
def StartsValue (t : Text) : Prop :=
  ∃ c rest, t = c :: rest ∧ isBlank c = false ∧ c.val ≠ 93 ∧ c.val ≠ 125 ∧ c.val < 128

theorem StartsValue.append {t : Text} (h : StartsValue t) (tail : Text) :
    StartsValue (t ++ tail) := by
  rcases h with ⟨c, rest, rfl, hc⟩
  exact ⟨c, rest ++ tail, rfl, hc⟩

theorem StartsNumber.startsValue {t : Text} (h : StartsNumber t) : StartsValue t := by
  rcases h with ⟨negative, c, rest, rfl, hc⟩
  cases negative with
  | true => exact ⟨_, _, rfl, rfl, by decide⟩
  | false =>
      have hrange : 48 ≤ c.val ∧ c.val ≤ 57 := by
        simpa [CodePoint.isDigit] using hc
      refine ⟨c, rest, rfl, ?_, by omega⟩
      simp only [isBlank, Bool.or_eq_false_iff, decide_eq_false_iff_not]
      omega

theorem startsValue_of_readable {depth indent : Nat} {value : Value} {w : Text}
    (hvalue : IsReadable depth value) (h : writeAt indent value = .ok w) : StartsValue w := by
  cases hvalue with
  | null =>
      rw [← Except.ok.inj h]
      exact ⟨_, _, rfl, rfl, by decide⟩
  | bool b =>
      rw [← Except.ok.inj h]
      cases b with
      | true => exact ⟨_, _, rfl, rfl, by decide⟩
      | false => exact ⟨_, _, rfl, rfl, by decide⟩
  | int n => exact (startsNumber_int (writeAt_int h)).startsValue
  | float x =>
      rw [← Except.ok.inj h]
      cases x with
      | nan => exact ⟨_, _, rfl, rfl, by decide⟩
      | infinite negative =>
          cases negative with
          | true => exact ⟨_, _, rfl, rfl, by decide⟩
          | false => exact ⟨_, _, rfl, rfl, by decide⟩
      | finite negative exponent fraction =>
          exact (startsNumber_finite negative exponent fraction).startsValue
  | text t =>
      rw [← Except.ok.inj h]
      exact ⟨_, _, rfl, rfl, by decide⟩
  | @list _ items hitems =>
      cases items with
      | nil =>
          rw [← Except.ok.inj h]
          exact ⟨_, _, rfl, rfl, by decide⟩
      | cons item items =>
          rcases writeAt_list h with ⟨parts, _, rfl⟩
          exact ⟨_, _, rfl, rfl, by decide⟩
  | @table _ entries hkeys hvalues =>
      cases entries with
      | nil =>
          rw [← Except.ok.inj h]
          exact ⟨_, _, rfl, rfl, by decide⟩
      | cons entry entries =>
          rcases writeAt_table h with ⟨parts, _, rfl⟩
          exact ⟨_, _, rfl, rfl, by decide⟩

/-!
# What numbers and marks are written with
-/

theorem all_isPlain_append {s t : Text} (hs : s.all isPlain = true) (ht : t.all isPlain = true) :
    (s ++ t).all isPlain = true := by
  rw [List.all_append, hs, ht]
  rfl

theorem all_isPlain_row {row : Text} (h : IsDigitRow row) : row.all isPlain = true := by
  rw [List.all_eq_true]
  intro c hc
  have hdigit := h c hc
  simp only [CodePoint.isDigit, Bool.and_eq_true, decide_eq_true_eq] at hdigit
  simp only [isPlain, Bool.or_eq_true, Bool.and_eq_true, decide_eq_true_eq]
  omega

theorem all_isPlain_sign (negative : Bool) : (Binary64.signText negative).all isPlain = true := by
  cases negative <;> decide

theorem all_isPlain_integerNumeral (n : Int) : (integerNumeral n).all isPlain = true := by
  rw [integerNumeral_eq]
  exact all_isPlain_append (all_isPlain_sign _) (all_isPlain_row (isDigitRow_numeral _))

theorem all_isPlain_form (form : Binary64.DecimalForm) : form.text.all isPlain = true := by
  apply all_isPlain_append
  · apply all_isPlain_append
    · exact all_isPlain_row form.whole_row
    · have hrow := form.places_row
      cases hplaces : form.places with
      | nil => rfl
      | cons c rest =>
          rw [hplaces] at hrow
          exact all_isPlain_append (by decide) (all_isPlain_row hrow)
  · cases form.scale with
    | none => rfl
    | some power =>
        apply all_isPlain_append
        · split <;> decide
        · exact all_isPlain_row (Binary64.isDigitRow_scaleDigits power)

theorem all_isPlain_float (x : Binary64) : (writeFloat x).all isPlain = true := by
  cases x with
  | nan => decide
  | infinite negative => cases negative <;> decide
  | finite negative exponent fraction =>
      rcases Binary64.exists_form_write negative exponent fraction with ⟨form, htext, _⟩
      show (Binary64.finite negative exponent fraction).write.all isPlain = true
      rw [htext]
      exact all_isPlain_append (all_isPlain_sign negative) (all_isPlain_form form)

theorem all_isPlain_newLine (indent : Nat) : (newLine indent).all isPlain = true := by
  apply all_isPlain_append
  · decide
  · rw [List.all_eq_true]
    intro c hc
    rw [List.eq_of_mem_replicate hc]
    decide

/-!
# What values are written with
-/

/-- Have all integers of a value one property, and all code points of its texts another, at any
depth?  Octets have no written form. -/
inductive Consists (I : Int → Prop) (P : CodePoint → Prop) : Value → Prop where
  | null : Consists I P .null
  | bool (b : Bool) : Consists I P (.bool b)
  | int {n : Int} (h : I n) : Consists I P (.int n)
  | float (x : Binary64) : Consists I P (.float x)
  | text {t : Text} (h : ∀ c ∈ t, P c) : Consists I P (.text t)
  | list {items : List Value} (h : ∀ item ∈ items, Consists I P item) : Consists I P (.list items)
  | table {entries : List (Text × Value)} (hkeys : ∀ entry ∈ entries, ∀ c ∈ entry.1, P c)
      (hvalues : ∀ entry ∈ entries, Consists I P entry.2) : Consists I P (.table entries)

theorem Consists.mono {I : Int → Prop} {P Q : CodePoint → Prop} {value : Value}
    (h : Consists I P value) (himp : ∀ c, P c → Q c) : Consists I Q value := by
  induction h with
  | null => exact .null
  | bool b => exact .bool b
  | int h => exact .int h
  | float x => exact .float x
  | text h => exact .text fun c hc => himp c (h c hc)
  | list _ ih => exact .list ih
  | table hkeys _ ih =>
      exact .table (fun entry hentry c hc => himp c (hkeys entry hentry c hc)) ih

def IsShort (n : Int) : Prop :=
  n.natAbs < 10 ^ digitLimit

variable {P : CodePoint → Prop}

theorem forall_mem_joinWith {separator : Text} (hseparator : ∀ c ∈ separator, P c)
    {parts : List Text} :
    (∀ c ∈ Text.joinWith separator parts, P c) ↔ ∀ part ∈ parts, ∀ c ∈ part, P c := by
  induction parts with
  | nil => exact ⟨fun _ part hpart => absurd hpart List.not_mem_nil,
      fun _ c hc => absurd hc List.not_mem_nil⟩
  | cons part rest ih =>
      rw [List.forall_mem_cons]
      cases rest with
      | nil => exact ⟨fun h => ⟨h, fun other hother => absurd hother List.not_mem_nil⟩, And.left⟩
      | cons next others =>
          rw [← ih, Text.joinWith, List.forall_mem_append, List.forall_mem_append]
          exact ⟨fun h => ⟨h.1.1, h.2⟩, fun h => ⟨⟨h.1, hseparator⟩, h.2⟩⟩

def IsWrittenIn (P : CodePoint → Prop) (indent : Nat) (value : Value) : Prop :=
  ∃ w, writeAt indent value = .ok w ∧ ∀ c ∈ w, P c

theorem writeItems_iff {indent : Nat} {Q : Value → Prop} {items : List Value}
    (h : ∀ item ∈ items, IsWrittenIn P indent item ↔ Q item) :
    (∃ parts, writeItems indent items = .ok parts ∧ ∀ part ∈ parts, ∀ c ∈ part, P c) ↔
      ∀ item ∈ items, Q item := by
  induction items with
  | nil => exact ⟨fun _ item hitem => absurd hitem List.not_mem_nil,
      fun _ => ⟨[], rfl, fun part hpart => absurd hpart List.not_mem_nil⟩⟩
  | cons item rest ih =>
      rw [List.forall_mem_cons, ← h item List.mem_cons_self,
        ← ih fun other hother => h other (List.mem_cons_of_mem _ hother)]
      constructor
      · rintro ⟨parts, hwrite, hparts⟩
        rcases writeItems_cons hwrite with ⟨part, others, hpart, hothers, rfl⟩
        rw [List.forall_mem_cons] at hparts
        exact ⟨⟨part, hpart, hparts.1⟩, others, hothers, hparts.2⟩
      · rintro ⟨⟨part, hpart, hfirst⟩, others, hothers, hrest⟩
        refine ⟨part :: others, ?_, List.forall_mem_cons.mpr ⟨hfirst, hrest⟩⟩
        rw [writeItems, hpart]
        dsimp only
        rw [hothers]

section Plain

variable (hplain : ∀ c, isPlain c = true → P c)
include hplain

theorem forall_mem_block {opening closing : Text} (hopening : opening.all isPlain = true)
    (hclosing : closing.all isPlain = true) (indent : Nat) {parts : List Text} :
    (∀ c ∈ block opening closing indent parts, P c) ↔ ∀ part ∈ parts, ∀ c ∈ part, P c := by
  have hline : ∀ depth, ∀ c ∈ newLine depth, P c := fun depth =>
    forall_mem_of_all_isPlain hplain (all_isPlain_newLine depth)
  have hseparator : ∀ c ∈ Text.of "," ++ newLine (indent + 1), P c :=
    forall_mem_of_all_isPlain hplain (all_isPlain_append (by decide) (all_isPlain_newLine _))
  unfold block
  simp only [List.forall_mem_append, forall_mem_joinWith hseparator]
  constructor
  · rintro ⟨⟨⟨_, hparts⟩, _⟩, _⟩
    exact hparts
  · intro hparts
    exact ⟨⟨⟨⟨forall_mem_of_all_isPlain hplain hopening, hline _⟩, hparts⟩, hline _⟩,
      forall_mem_of_all_isPlain hplain hclosing⟩

theorem writeEntries_iff {indent : Nat} {Q : Value → Prop} {entries : List (Text × Value)}
    (h : ∀ entry ∈ entries, IsWrittenIn P indent entry.2 ↔ Q entry.2) :
    (∃ parts, writeEntries indent entries = .ok parts ∧ ∀ part ∈ parts, ∀ c ∈ part, P c) ↔
      (∀ entry ∈ entries, ∀ c ∈ entry.1, 32 ≤ c.val → P c) ∧ ∀ entry ∈ entries, Q entry.2 := by
  induction entries with
  | nil => exact ⟨fun _ => ⟨fun entry hentry => absurd hentry List.not_mem_nil,
      fun entry hentry => absurd hentry List.not_mem_nil⟩,
      fun _ => ⟨[], rfl, fun part hpart => absurd hpart List.not_mem_nil⟩⟩
  | cons entry rest ih =>
      rcases entry with ⟨key, value⟩
      have hentry : ∀ part : Text, (∀ c ∈ writeText key ++ Text.of ": " ++ part, P c) ↔
          (∀ c ∈ key, 32 ≤ c.val → P c) ∧ ∀ c ∈ part, P c := by
        intro part
        rw [List.forall_mem_append, List.forall_mem_append, forall_mem_writeText hplain]
        exact and_congr_left fun _ =>
          and_iff_left (forall_mem_of_all_isPlain hplain (by decide))
      rw [List.forall_mem_cons, List.forall_mem_cons, ← h (key, value) List.mem_cons_self,
        and_and_and_comm, ← ih fun other hother => h other (List.mem_cons_of_mem _ hother)]
      constructor
      · rintro ⟨parts, hwrite, hparts⟩
        rcases writeEntries_cons hwrite with ⟨part, others, hpart, hothers, rfl⟩
        rw [List.forall_mem_cons, hentry] at hparts
        exact ⟨⟨hparts.1.1, part, hpart, hparts.1.2⟩, others, hothers, hparts.2⟩
      · rintro ⟨⟨hkey, part, hpart, hfirst⟩, others, hothers, hrest⟩
        refine ⟨(writeText key ++ Text.of ": " ++ part) :: others, ?_,
          List.forall_mem_cons.mpr ⟨(hentry part).mpr ⟨hkey, hfirst⟩, hrest⟩⟩
        rw [writeEntries, hpart]
        dsimp only
        rw [hothers]

theorem isWrittenIn_list {indent : Nat} {item : Value} {items : List Value} :
    IsWrittenIn P indent (.list (item :: items)) ↔
      ∃ parts, writeItems (indent + 1) (item :: items) = .ok parts ∧
        ∀ part ∈ parts, ∀ c ∈ part, P c := by
  have hblock {parts : List Text} :
      (∀ c ∈ block (Text.of "[") (Text.of "]") indent parts, P c) ↔
        ∀ part ∈ parts, ∀ c ∈ part, P c :=
    forall_mem_block hplain (by decide) (by decide) indent
  constructor
  · rintro ⟨w, hwrite, hw⟩
    rcases writeAt_list hwrite with ⟨parts, hparts, rfl⟩
    exact ⟨parts, hparts, hblock.mp hw⟩
  · rintro ⟨parts, hparts, h⟩
    refine ⟨_, ?_, hblock.mpr h⟩
    rw [writeAt, hparts]

theorem isWrittenIn_table {indent : Nat} {entry : Text × Value} {entries : List (Text × Value)} :
    IsWrittenIn P indent (.table (entry :: entries)) ↔
      ∃ parts, writeEntries (indent + 1) (entry :: entries) = .ok parts ∧
        ∀ part ∈ parts, ∀ c ∈ part, P c := by
  have hblock {parts : List Text} :
      (∀ c ∈ block (Text.of "\x7b") (Text.of "\x7d") indent parts, P c) ↔
        ∀ part ∈ parts, ∀ c ∈ part, P c :=
    forall_mem_block hplain (by decide) (by decide) indent
  constructor
  · rintro ⟨w, hwrite, hw⟩
    rcases writeAt_table hwrite with ⟨parts, hparts, rfl⟩
    exact ⟨parts, hparts, hblock.mp hw⟩
  · rintro ⟨parts, hparts, h⟩
    refine ⟨_, ?_, hblock.mpr h⟩
    rw [writeAt, hparts]

theorem isWrittenIn_int {indent : Nat} {n : Int} : IsWrittenIn P indent (.int n) ↔ IsShort n := by
  unfold IsWrittenIn IsShort
  rw [writeAt]
  unfold writeInteger integerNumeral?
  rw [Nat.pow_eq]
  by_cases hshort : n.natAbs < 10 ^ digitLimit
  · rw [if_pos hshort]
    exact iff_of_true ⟨_, rfl, forall_mem_of_all_isPlain hplain (all_isPlain_integerNumeral n)⟩
      hshort
  · rw [if_neg hshort]
    exact iff_of_false (fun ⟨_, hwrite, _⟩ => nomatch hwrite) hshort

/-- A value is written with code points of one kind exactly if its integers are short and its texts
consist of such code points, controls left aside. -/
theorem isWrittenIn_iff {depth : Nat} {value : Value} (hvalue : IsReadable depth value) :
    ∀ indent, IsWrittenIn P indent value ↔ Consists IsShort (fun c => 32 ≤ c.val → P c) value := by
  have hknown {indent : Nat} {value : Value} {w : Text} (hwrite : writeAt indent value = .ok w) :
      IsWrittenIn P indent value ↔ ∀ c ∈ w, P c := by
    unfold IsWrittenIn
    rw [hwrite]
    exact ⟨fun ⟨_, heq, h⟩ => Except.ok.inj heq ▸ h, fun h => ⟨w, rfl, h⟩⟩
  have hpure {t : Text} (ht : t.all isPlain = true) : ∀ c ∈ t, P c :=
    forall_mem_of_all_isPlain hplain ht
  induction hvalue with
  | null => exact fun _ => iff_of_true ((hknown rfl).mpr (hpure (by decide))) .null
  | bool b =>
      intro indent
      refine iff_of_true ((hknown rfl).mpr (hpure ?_)) (.bool b)
      cases b <;> decide
  | float x =>
      exact fun _ => iff_of_true ((hknown rfl).mpr (hpure (all_isPlain_float x))) (.float x)
  | int n =>
      intro indent
      rw [isWrittenIn_int hplain]
      exact ⟨.int, fun h => by cases h; assumption⟩
  | text t =>
      intro indent
      rw [hknown rfl, forall_mem_writeText hplain]
      exact ⟨.text, fun h => by cases h; assumption⟩
  | @list depth items _ ih =>
      intro indent
      cases items with
      | nil =>
          exact iff_of_true ((hknown rfl).mpr (hpure (by decide)))
            (.list fun item hitem => absurd hitem List.not_mem_nil)
      | cons item items =>
          rw [isWrittenIn_list hplain, writeItems_iff fun item hitem => ih item hitem _]
          exact ⟨.list, fun h => by cases h; assumption⟩
  | @table depth entries _ _ ih =>
      intro indent
      cases entries with
      | nil =>
          exact iff_of_true ((hknown rfl).mpr (hpure (by decide)))
            (.table (fun entry hentry => absurd hentry List.not_mem_nil)
              fun entry hentry => absurd hentry List.not_mem_nil)
      | cons entry entries =>
          rw [isWrittenIn_table hplain,
            writeEntries_iff hplain fun entry hentry => ih entry hentry _]
          exact ⟨fun h => .table h.1 h.2, fun h => by cases h; exact ⟨by assumption, by assumption⟩⟩

end Plain

theorem carriageReturn_not_mem_writeAt {depth : Nat} {value : Value}
    (hvalue : IsReadable depth value) :
    ∀ indent w, writeAt indent value = .ok w → carriageReturn ∉ w := by
  intro indent w hwrite hmem
  have hwritten : IsWrittenIn (fun _ => True) indent value := ⟨w, hwrite, fun _ _ => trivial⟩
  rw [isWrittenIn_iff (fun _ _ => trivial) hvalue] at hwritten
  have hconsists : Consists IsShort (fun c => 32 ≤ c.val → c ≠ carriageReturn) value := by
    apply hwritten.mono
    intro c _ hlow heq
    rw [heq] at hlow
    exact absurd hlow (by decide)
  have hplain : ∀ c, isPlain c = true → c ≠ carriageReturn := by
    intro c hc heq
    rw [heq] at hc
    exact absurd hc (by decide)
  rcases (isWrittenIn_iff hplain hvalue indent).mpr hconsists with ⟨other, hother, hno⟩
  rw [hwrite] at hother
  cases hother
  exact hno carriageReturn hmem rfl

end Json

end ContainerDesk
