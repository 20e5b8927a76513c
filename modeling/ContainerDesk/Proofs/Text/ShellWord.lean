import ContainerDesk.Text.ShellWord

/-!
# Quoted words of the shell

A text that was quoted for the shell is one word of a command line, whatever code points
it has: the shell reads its quotes away and expands nothing in it.  So a command line of
quoted words, with single spaces between them, is split into exactly these words.
-/

namespace ContainerDesk

/-- What may stand outside of quotes neither ends a word, nor starts a quotation, nor has an effect
of its own. -/
theorem CodePoint.plain_of_isShellSafe {c : CodePoint} (h : c.isShellSafe = true) :
    c.isShellBlank = false ∧ c.val ≠ 39 ∧ c.val ≠ 34 ∧ c.val ≠ 92 ∧ c.isShellActive = false := by
  simp [isShellSafe, isDigit, Text.of, ofChar, isShellBlank, isShellActive, Fin.ext_iff] at h ⊢
  omega

variable {word : Option Text} {w t rest : Text} {c : CodePoint}

/-!
# Single code points
-/

theorem shellWordsFrom_blank (h : c.isShellBlank = true) :
    shellWordsFrom .plain (some w) (c :: rest) =
      (shellWordsFrom .plain none rest).map (w.reverse :: ·) := by
  rw [shellWordsFrom.eq_def]
  simp [h]

theorem shellWordsFrom_safe (h : c.isShellSafe = true) :
    shellWordsFrom .plain word (c :: rest) =
      shellWordsFrom .plain (some (c :: word.getD [])) rest := by
  rcases CodePoint.plain_of_isShellSafe h with ⟨hblank, hsingle, hdouble, hescape, hactive⟩
  rw [shellWordsFrom.eq_def]
  simp [hblank, hsingle, hdouble, hescape, hactive]

theorem shellWordsFrom_openSingle (h : c.val = 39) :
    shellWordsFrom .plain word (c :: rest) = shellWordsFrom .single (some (word.getD [])) rest := by
  rw [shellWordsFrom.eq_def]
  simp [CodePoint.isShellBlank, h]

theorem shellWordsFrom_closeSingle (h : c.val = 39) :
    shellWordsFrom .single word (c :: rest) = shellWordsFrom .plain word rest := by
  rw [shellWordsFrom, if_pos h]

theorem shellWordsFrom_single (h : c.val ≠ 39) :
    shellWordsFrom .single word (c :: rest) =
      shellWordsFrom .single (some (c :: word.getD [])) rest := by
  rw [shellWordsFrom, if_neg h]

theorem shellWordsFrom_openDouble (h : c.val = 34) :
    shellWordsFrom .plain word (c :: rest) = shellWordsFrom .double (some (word.getD [])) rest := by
  rw [shellWordsFrom.eq_def]
  simp [CodePoint.isShellBlank, h]

theorem shellWordsFrom_closeDouble (h : c.val = 34) :
    shellWordsFrom .double word (c :: rest) = shellWordsFrom .plain word rest := by
  rw [shellWordsFrom.eq_def]
  simp [h]

theorem shellWordsFrom_apostrophe (h : c.val = 39) :
    shellWordsFrom .double word (c :: rest) =
      shellWordsFrom .double (some (c :: word.getD [])) rest := by
  rw [shellWordsFrom.eq_def]
  simp [CodePoint.expandsInDoubleQuotes, h]

/-!
# Words
-/

theorem shellWordsFrom_safeText (h : ∀ c ∈ t, c.isShellSafe = true) :
    shellWordsFrom .plain (some w) (t ++ rest) =
      shellWordsFrom .plain (some (t.reverse ++ w)) rest := by
  induction t generalizing w with
  | nil => rfl
  | cons c t ih =>
      have ⟨hc, ht⟩ := List.forall_mem_cons.mp h
      rw [List.cons_append, shellWordsFrom_safe hc, ih ht, List.reverse_cons, List.append_assoc]
      rfl

/-- An apostrophe leaves the single quotes, stands between double quotes and enters the single
quotes again. -/
theorem shellWordsFrom_escapedApostrophe :
    shellWordsFrom .single (some w) (Text.of "'\"'\"'" ++ rest) =
      shellWordsFrom .single (some (CodePoint.ofChar '\'' :: w)) rest := by
  have hmarks : Text.of "'\"'\"'" =
      [⟨39, by decide⟩, ⟨34, by decide⟩, ⟨39, by decide⟩, ⟨34, by decide⟩, ⟨39, by decide⟩] := rfl
  rw [hmarks, List.cons_append, shellWordsFrom_closeSingle rfl, List.cons_append,
    shellWordsFrom_openDouble rfl, List.cons_append, shellWordsFrom_apostrophe rfl,
    List.cons_append, shellWordsFrom_closeDouble rfl, List.cons_append,
    shellWordsFrom_openSingle rfl]
  rfl

theorem shellWordsFrom_escaped :
    shellWordsFrom .single (some w) (t.flatMap Text.shellQuoteCodePoint ++ Text.of "'" ++ rest) =
      shellWordsFrom .plain (some (t.reverse ++ w)) rest := by
  induction t generalizing w with
  | nil => exact shellWordsFrom_closeSingle rfl
  | cons c t ih =>
      rw [List.flatMap_cons, List.append_assoc, List.append_assoc, ← List.append_assoc _ _ rest,
        Text.shellQuoteCodePoint]
      by_cases hc : c.val = 39
      · have hapostrophe : CodePoint.ofChar '\'' = c := Fin.ext hc.symm
        rw [if_pos hc, shellWordsFrom_escapedApostrophe, ih, hapostrophe]
        simp
      · rw [if_neg hc, List.singleton_append, shellWordsFrom_single hc, ih]
        simp

theorem shellWordsFrom_shellQuoted (t rest : Text) :
    shellWordsFrom .plain none (t.shellQuoted ++ rest) =
      shellWordsFrom .plain (some t.reverse) rest := by
  cases t with
  | nil => exact (shellWordsFrom_openSingle rfl).trans (shellWordsFrom_closeSingle rfl)
  | cons c t =>
      rw [Text.shellQuoted, if_neg (by simp)]
      split
      · rename_i hsafe
        have ⟨hc, ht⟩ := List.forall_mem_cons.mp (List.all_eq_true.mp hsafe)
        rw [List.cons_append, shellWordsFrom_safe hc, shellWordsFrom_safeText ht]
        simp
      · rw [List.append_assoc, List.append_assoc, ← List.append_assoc _ _ rest]
        have hopen : ∀ line, Text.of "'" ++ line = ⟨39, by decide⟩ :: line := fun _ => rfl
        rw [hopen, shellWordsFrom_openSingle rfl, Option.getD_none, shellWordsFrom_escaped]
        simp

/-- A command line of quoted words is split into these words, and the shell expands nothing. -/
theorem shellWords?_joinWith (words : List Text) :
    shellWords? (Text.joinWith (Text.of " ") (words.map Text.shellQuoted)) = some words := by
  have hrun : ∀ (first : Text) (others : List Text),
      shellWordsFrom .plain none (Text.joinWith (Text.of " ")
        ((first :: others).map Text.shellQuoted)) = some (first :: others) := by
    intro first others
    induction others generalizing first with
    | nil =>
        have hword := shellWordsFrom_shellQuoted first []
        rw [List.append_nil] at hword
        simp [Text.joinWith, hword, shellWordsFrom]
    | cons next others ih =>
        have hspace : Text.of " " = [⟨32, by decide⟩] := rfl
        rw [List.map_cons, List.map_cons, Text.joinWith, List.append_assoc,
          shellWordsFrom_shellQuoted, hspace, List.singleton_append, shellWordsFrom_blank rfl,
          ← hspace, ← List.map_cons, ih]
        simp
  cases words with
  | nil => rfl
  | cons first others => exact hrun first others

/-- Without the quotes the shell would start a second command. -/
example : shellWords? (Text.of "docker exec a;reboot") = none := by decide +kernel

end ContainerDesk
