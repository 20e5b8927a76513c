import ContainerDesk.Text.Casing
import Mathlib.Data.List.Forall2
import Mathlib.Data.List.Infix

/-!
# Words in letters of any case

A word stands in the lower-case form of a text exactly if it stands in the text itself, in
letters of any case.  This holds of words in the small letters `a` to `z` without `i` and
`k`: these two are also in the lower-case forms of the dotted capital I and of the Kelvin
sign, each of the others only in its own and in that of its capital.
-/

namespace ContainerDesk

namespace CodePoint

theorem lower_ne_nil (c : CodePoint) : c.lower ≠ [] := by
  unfold lower
  split
  · exact List.cons_ne_nil _ _
  · split
    · exact List.cons_ne_nil _ _
    · exact List.cons_ne_nil _ _

def IsCaseOf (letter c : CodePoint) : Prop :=
  c = letter ∨ c.val + 32 = letter.val

/-- Is the code point one of the small letters `a` to `z`, but neither `i` nor `k`? -/
def isSteadyLetter (c : CodePoint) : Bool :=
  97 ≤ c.val && c.val ≤ 122 && c.val ≠ 105 && c.val ≠ 107

/-- The code points with a lower-case form of their own are the capitals `A` to `Z`, the Kelvin sign
and others behind `z`, with lower-case forms behind `z` too. -/
theorem lowerCaseRuns_bounds : ∀ run ∈ lowerCaseRuns,
    (run.first = 0x41 ∧ run.last = 0x5A ∧ run.image = 0x61) ∨
      (run.first = 0x212A ∧ run.last = 0x212A ∧ run.image = 0x6B) ∨
        (0x7A < run.first ∧ 0x7A < run.image ∧ run.image + (run.last - run.first) < 0x110000) := by
  decide +kernel

theorem lower_of_find {c : CodePoint} {run : CaseRun} (hdotted : c.val ≠ 0x130)
    (hfind : lowerCaseRuns.find? (·.covers c) = some run) :
    run ∈ lowerCaseRuns ∧ run.first ≤ c.val ∧ c.val ≤ run.last ∧
      ∃ d : CodePoint, c.lower = [d] ∧
        d.val = (run.image + (c.val - run.first)) % 0x110000 := by
  have hcovers := List.find?_some hfind
  simp only [CaseRun.covers, Bool.and_eq_true, decide_eq_true_eq] at hcovers
  refine ⟨List.mem_of_find?_eq_some hfind, hcovers.1.1, hcovers.1.2,
    ofNat (run.image + (c.val - run.first)), ?_, rfl⟩
  rw [lower, if_neg hdotted, hfind]

theorem lower_cases (c : CodePoint) :
    (65 ≤ c.val ∧ c.val ≤ 90 ∧ ∃ d : CodePoint, c.lower = [d] ∧ d.val = c.val + 32) ∨
      (¬ (65 ≤ c.val ∧ c.val ≤ 90) ∧ c.lower = [c]) ∨
        (122 < c.val ∧ ∀ d ∈ c.lower, d.val = 105 ∨ d.val = 107 ∨ 122 < d.val) := by
  by_cases hdotted : c.val = 0x130
  · have hlower : c.lower = [ofChar 'i', ofNat 0x307] := if_pos hdotted
    refine .inr (.inr ⟨by omega, fun d hd => ?_⟩)
    rw [hlower] at hd
    rcases List.mem_cons.mp hd with rfl | hd
    · exact .inl rfl
    · rw [List.mem_singleton.mp hd]
      exact .inr (.inr (by decide))
  · cases hfind : lowerCaseRuns.find? (·.covers c) with
    | none =>
        refine .inr (.inl ⟨fun hcapital => ?_, by rw [lower, if_neg hdotted, hfind]⟩)
        have hskipped := List.find?_eq_none.mp hfind ⟨0x41, 0x5A, 1, 0x61⟩ List.mem_cons_self
        simp [CaseRun.covers, Nat.mod_one, hcapital] at hskipped
    | some run =>
        rcases lower_of_find hdotted hfind with ⟨hrun, hstart, hend, d, hlower, hd⟩
        rw [hlower]
        simp only [List.mem_singleton, forall_eq]
        rcases lowerCaseRuns_bounds run hrun with
          ⟨hfirst, hlast, himage⟩ | ⟨hfirst, hlast, himage⟩ | ⟨hfirst, himage, hsmall⟩
        · exact .inl ⟨by omega, by omega, d, rfl, by omega⟩
        · exact .inr (.inr ⟨by omega, .inr (.inl (by omega))⟩)
        · exact .inr (.inr ⟨by omega, .inr (.inr (by omega))⟩)

theorem lower_of_isSteadyLetter {letter c : CodePoint} (h : letter.isSteadyLetter = true) :
    (letter ∈ c.lower ↔ IsCaseOf letter c) ∧ (letter ∈ c.lower → c.lower = [letter]) := by
  simp only [isSteadyLetter, Bool.and_eq_true, decide_eq_true_eq] at h
  rcases lower_cases c with ⟨hlow, hhigh, d, hlower, hd⟩ | ⟨hcapital, hlower⟩ | ⟨hbehind, hlower⟩
  · rw [hlower, List.mem_singleton, IsCaseOf, Fin.ext_iff, Fin.ext_iff]
    refine ⟨by omega, fun heq => ?_⟩
    rw [Fin.ext heq]
  · rw [hlower, List.mem_singleton, IsCaseOf, Fin.ext_iff, Fin.ext_iff]
    refine ⟨by omega, fun heq => ?_⟩
    rw [Fin.ext heq]
  · have hnot : letter ∉ c.lower := fun hmem => by
      have := hlower letter hmem
      omega
    refine ⟨⟨fun hmem => absurd hmem hnot, ?_⟩, fun hmem => absurd hmem hnot⟩
    rw [IsCaseOf, Fin.ext_iff]
    omega

end CodePoint

namespace Text

theorem occursIn_eq_true {needle t : Text} : needle.occursIn t = true ↔ needle <:+: t := by
  induction t with
  | nil => rw [occursIn, List.isEmpty_iff, List.infix_nil]
  | cons c rest ih =>
      rw [occursIn, Bool.or_eq_true, ih, List.isPrefixOf_iff_prefix, List.infix_cons_iff]

theorem lower_eq_nil {t : Text} : t.lower = [] ↔ t = [] := by
  cases t with
  | nil => exact ⟨fun _ => rfl, fun _ => rfl⟩
  | cons c rest =>
      constructor
      · intro h
        rw [lower, lowerAfter, List.append_eq_nil_iff] at h
        have hfirst := h.1
        split at hfirst
        · cases hfirst
        · exact absurd hfirst c.lower_ne_nil
      · intro h
        cases h

/-- Does a word stand in a text, in letters of any case?  The word is in small letters. -/
def Mentions (t word : Text) : Prop :=
  ∃ part, part <:+: t ∧ List.Forall₂ CodePoint.IsCaseOf word part

variable {word : Text}

/-- What the lower-case form of a text has for its first code point.  A capital sigma has one of two
forms, by what stands around it, and neither is a Latin letter. -/
theorem exists_lowerAfter_cons (seen : Text) (c : CodePoint) (rest : Text) :
    ∃ piece, lowerAfter seen (c :: rest) = piece ++ lowerAfter (c :: seen) rest ∧ piece ≠ [] ∧
      ∀ letter : CodePoint, letter.isSteadyLetter = true →
        (letter ∈ piece ↔ CodePoint.IsCaseOf letter c) ∧ (letter ∈ piece → piece = [letter]) := by
  refine ⟨_, rfl, ?_, fun letter hletter => ?_⟩
  · split
    · exact List.cons_ne_nil _ _
    · exact c.lower_ne_nil
  split
  · rename_i hsigma
    have hhigh : letter.val ≤ 122 := by
      simp only [CodePoint.isSteadyLetter, Bool.and_eq_true, decide_eq_true_eq] at hletter
      exact hletter.1.1.2
    have hnot : ∀ form : Char, 122 < form.toNat → letter ∉ [CodePoint.ofChar form] := by
      intro form hform hmem
      rw [List.mem_singleton.mp hmem] at hhigh
      exact absurd hhigh (Nat.not_le.mpr hform)
    have hcase : ¬ CodePoint.IsCaseOf letter c := by
      rw [hsigma]
      rintro (rfl | hcapital)
      · exact absurd hhigh (by decide)
      · rw [← hcapital] at hhigh
        exact absurd hhigh (by decide)
    split
    · exact ⟨iff_of_false (hnot _ (by decide)) hcase, fun hmem => absurd hmem (hnot _ (by decide))⟩
    · exact ⟨iff_of_false (hnot _ (by decide)) hcase, fun hmem => absurd hmem (hnot _ (by decide))⟩
  · exact CodePoint.lower_of_isSteadyLetter hletter

/-- A word stands at the front of the lower-case form of a text exactly if it stands at the front of
the text, in letters of any case. -/
theorem isPrefix_lowerAfter (hword : ∀ letter ∈ word, letter.isSteadyLetter = true)
    (seen t : Text) :
    word <+: lowerAfter seen t ↔
      ∃ part, part <+: t ∧ List.Forall₂ CodePoint.IsCaseOf word part := by
  induction t generalizing seen word with
  | nil => simp [lowerAfter]
  | cons c rest ih =>
      cases word with
      | nil => exact iff_of_true List.nil_prefix ⟨[], List.nil_prefix, .nil⟩
      | cons letter word =>
          have ⟨hletter, hword⟩ := List.forall_mem_cons.mp hword
          rcases exists_lowerAfter_cons seen c rest with ⟨piece, hpiece, hne, hcase⟩
          rcases hcase letter hletter with ⟨hmem, hsingle⟩
          rw [hpiece]
          constructor
          · intro hfront
            have hfirst : letter ∈ piece := by
              cases piece with
              | nil => exact absurd rfl hne
              | cons d piece =>
                  rw [List.cons_append, List.cons_prefix_cons] at hfront
                  rw [hfront.1]
                  exact List.mem_cons_self
            rw [hsingle hfirst, List.singleton_append, List.cons_prefix_cons] at hfront
            rcases (ih hword _).mp hfront.2 with ⟨part, hpart, hcases⟩
            exact ⟨c :: part, List.cons_prefix_cons.mpr ⟨rfl, hpart⟩, .cons (hmem.mp hfirst) hcases⟩
          · rintro ⟨part, hpart, hcases⟩
            cases hcases with
            | cons hfirst hcases =>
                rcases List.cons_prefix_cons.mp hpart with ⟨rfl, hrest⟩
                rw [hsingle (hmem.mpr hfirst), List.singleton_append, List.cons_prefix_cons]
                exact ⟨rfl, (ih hword _).mpr ⟨_, hrest, hcases⟩⟩

theorem infix_append_of_not_mem {letter : CodePoint} {piece rest : Text} (h : letter ∉ piece) :
    letter :: word <:+: piece ++ rest ↔ letter :: word <:+: rest := by
  induction piece with
  | nil => rfl
  | cons c piece ih =>
      have ⟨hc, hpiece⟩ := not_or.mp (mt List.mem_cons.mpr h)
      rw [List.cons_append, List.infix_cons_iff, List.cons_prefix_cons, ih hpiece]
      exact or_iff_right fun hfront => hc hfront.1

theorem mentions_cons {t : Text} {c : CodePoint} :
    Mentions (c :: t) word ↔
      (∃ part, part <+: c :: t ∧ List.Forall₂ CodePoint.IsCaseOf word part) ∨ t.Mentions word := by
  simp only [Mentions, List.infix_cons_iff, or_and_right, exists_or]

theorem isInfix_lowerAfter (hword : ∀ letter ∈ word, letter.isSteadyLetter = true)
    (seen t : Text) : word <:+: lowerAfter seen t ↔ t.Mentions word := by
  induction t generalizing seen with
  | nil => simp [lowerAfter, Mentions]
  | cons c rest ih =>
      rw [mentions_cons, ← isPrefix_lowerAfter hword seen, ← ih (c :: seen)]
      cases word with
      | nil => exact iff_of_true List.nil_infix (.inl List.nil_prefix)
      | cons letter word =>
          rcases exists_lowerAfter_cons seen c rest with ⟨piece, hpiece, _, hcase⟩
          rw [hpiece]
          by_cases hmem : letter ∈ piece
          · rw [(hcase letter (hword letter List.mem_cons_self)).2 hmem]
            exact List.infix_cons_iff
          · rw [infix_append_of_not_mem hmem]
            refine (or_iff_right_of_imp fun hfront => ?_).symm
            exact (infix_append_of_not_mem hmem).mp hfront.isInfix

theorem occursIn_lower (hword : ∀ letter ∈ word, letter.isSteadyLetter = true) (t : Text) :
    word.occursIn t.lower = true ↔ t.Mentions word := by
  rw [occursIn_eq_true]
  exact isInfix_lowerAfter hword [] t

end Text

end ContainerDesk
