import ContainerDesk.Text.Blank

/-!
# Laws of texts

Comparing texts code point by code point is a linear order: any two texts can be
compared, and two texts that may each stand before the other are one text.

Trimming leaves nothing to trim.
-/

namespace ContainerDesk

namespace Text

/-!
# The order of texts
-/

theorem atMost_total (s t : Text) : s.atMost t = true ∨ t.atMost s = true := by
  induction s generalizing t with
  | nil => exact Or.inl rfl
  | cons c s ih =>
      cases t with
      | nil => exact Or.inr rfl
      | cons d t =>
          rcases Nat.lt_trichotomy c.val d.val with h | h | h
          · exact Or.inl (by simp [atMost, h])
          · have hcd : c = d := Fin.ext h
            rcases ih t with hst | hts
            · exact Or.inl (by simp [atMost, hcd, hst])
            · exact Or.inr (by simp [atMost, hcd, hts])
          · exact Or.inr (by simp [atMost, h])

theorem atMost_refl (t : Text) : t.atMost t = true := by
  rcases atMost_total t t with h | h
  · exact h
  · exact h

theorem atMost_antisymm {s t : Text} (hst : s.atMost t = true) (hts : t.atMost s = true) :
    s = t := by
  induction s generalizing t with
  | nil =>
      cases t with
      | nil => rfl
      | cons d t => simp [atMost] at hts
  | cons c s ih =>
      cases t with
      | nil => simp [atMost] at hst
      | cons d t =>
          simp only [atMost, Bool.or_eq_true, Bool.and_eq_true, decide_eq_true_eq] at hst hts
          rcases hst with hlt | ⟨hcd, hst⟩
          · rcases hts with hgt | ⟨hdc, _⟩
            · omega
            · subst hdc
              omega
          · subst hcd
            rcases hts with hgt | ⟨_, hts⟩
            · omega
            · rw [ih hst hts]

theorem atMost_trans {s t u : Text} (hst : s.atMost t = true) (htu : t.atMost u = true) :
    s.atMost u = true := by
  induction s generalizing t u with
  | nil => rfl
  | cons c s ih =>
      cases t with
      | nil => simp [atMost] at hst
      | cons d t =>
          cases u with
          | nil => simp [atMost] at htu
          | cons e u =>
              simp only [atMost, Bool.or_eq_true, Bool.and_eq_true, decide_eq_true_eq]
                at hst htu ⊢
              rcases hst with hcd | ⟨hcd, hst⟩ <;> rcases htu with hde | ⟨hde, htu⟩
              · exact Or.inl (Nat.lt_trans hcd hde)
              · exact Or.inl (hde ▸ hcd)
              · exact Or.inl (hcd ▸ hde)
              · exact Or.inr ⟨hcd.trans hde, ih hst htu⟩

/-!
# Trimming
-/

theorem isBlank_of_dropWhile_eq_cons {t rest : Text} {c : CodePoint}
    (h : t.dropWhile CodePoint.isBlank = c :: rest) : c.isBlank = false := by
  induction t with
  | nil => simp at h
  | cons d t ih =>
      cases hd : d.isBlank with
      | true => exact ih (by simpa [List.dropWhile_cons, hd] using h)
      | false =>
          rw [List.dropWhile_cons, hd] at h
          have hcd : d = c := (List.cons.inj h).1
          rw [← hcd]
          exact hd

theorem dropWhile_isBlank_dropWhile (t : Text) :
    (t.dropWhile CodePoint.isBlank).dropWhile CodePoint.isBlank =
      t.dropWhile CodePoint.isBlank := by
  cases h : t.dropWhile CodePoint.isBlank with
  | nil => rfl
  | cons c rest => simp [isBlank_of_dropWhile_eq_cons h]

theorem dropWhile_reverse_dropWhile {t : Text} (h : t.dropWhile CodePoint.isBlank = t) :
    (t.reverse.dropWhile CodePoint.isBlank).reverse.dropWhile CodePoint.isBlank =
      (t.reverse.dropWhile CodePoint.isBlank).reverse := by
  cases hr : (t.reverse.dropWhile CodePoint.isBlank).reverse with
  | nil => rfl
  | cons c rest =>
      have hstart : (t.reverse.dropWhile CodePoint.isBlank).reverse <+: t := by
        have := List.reverse_prefix.mpr (List.dropWhile_suffix CodePoint.isBlank (l := t.reverse))
        rwa [List.reverse_reverse] at this
      rw [hr] at hstart
      rcases hstart with ⟨tail, htail⟩
      have hkept : t.dropWhile CodePoint.isBlank = c :: (rest ++ tail) := by
        rw [h, ← htail, List.cons_append]
      simp [isBlank_of_dropWhile_eq_cons hkept]

theorem trim_trim (t : Text) : t.trim.trim = t.trim := by
  have hfront : t.trim.dropWhile CodePoint.isBlank = t.trim :=
    dropWhile_reverse_dropWhile (dropWhile_isBlank_dropWhile t)
  calc t.trim.trim = ((t.trim.dropWhile CodePoint.isBlank).reverse.dropWhile
        CodePoint.isBlank).reverse := rfl
    _ = (t.trim.reverse.dropWhile CodePoint.isBlank).reverse := by rw [hfront]
    _ = t.trim := by simp only [trim, List.reverse_reverse, dropWhile_isBlank_dropWhile]

theorem dropWhile_isBlank_eq_self {t : Text} :
    t.dropWhile CodePoint.isBlank = t ↔ ∀ c ∈ t.head?, c.isBlank = false := by
  cases t with
  | nil => simp
  | cons c rest =>
      cases hc : c.isBlank with
      | false => simp [hc]
      | true =>
          have hle : (rest.dropWhile CodePoint.isBlank).length ≤ rest.length :=
            (List.dropWhile_suffix CodePoint.isBlank).length_le
          have hne : rest.dropWhile CodePoint.isBlank ≠ c :: rest := by
            intro hself
            rw [hself, List.length_cons] at hle
            omega
          simp [hc, hne]

/-- Trimming takes nothing off a text exactly if it has no blank at either end. -/
theorem trim_eq_self {t : Text} :
    t.trim = t ↔ (∀ c ∈ t.head?, c.isBlank = false) ∧ ∀ c ∈ t.getLast?, c.isBlank = false := by
  rw [← List.head?_reverse, ← dropWhile_isBlank_eq_self, ← dropWhile_isBlank_eq_self]
  constructor
  · intro h
    have hfront : t.dropWhile CodePoint.isBlank = t := by
      have hlength : t.length ≤ (t.dropWhile CodePoint.isBlank).length := by
        have hle := (List.dropWhile_suffix CodePoint.isBlank
          (l := (t.dropWhile CodePoint.isBlank).reverse)).length_le
        have htrim := congrArg List.length h
        rw [trim, List.length_reverse] at htrim
        rw [List.length_reverse] at hle
        omega
      exact (List.dropWhile_suffix CodePoint.isBlank).eq_of_length_le hlength
    rw [trim, hfront] at h
    exact ⟨hfront, by rw [← List.reverse_inj, h, List.reverse_reverse]⟩
  · rintro ⟨hfront, hback⟩
    rw [trim, hfront, hback, List.reverse_reverse]

theorem trim_append_cons {front rest : Text} {c : CodePoint}
    (hfront : (front ++ c :: rest).dropWhile CodePoint.isBlank = front ++ c :: rest)
    (hc : c.isBlank = false) : ∃ kept, (front ++ c :: rest).trim = front ++ c :: kept := by
  have hstop : (c :: front.reverse).dropWhile CodePoint.isBlank = c :: front.reverse :=
    dropWhile_isBlank_eq_self.mpr (by simpa using hc)
  refine ⟨(rest.reverse.dropWhile CodePoint.isBlank).reverse, ?_⟩
  rw [trim, hfront, List.reverse_append, List.reverse_cons, List.append_assoc,
    List.singleton_append, List.dropWhile_append, hstop]
  split
  · rename_i hnone
    simp [List.isEmpty_iff.mp hnone]
  · simp

theorem trim_of_forall {t : Text} (h : ∀ c ∈ t, c.isBlank = false) : t.trim = t :=
  trim_eq_self.mpr ⟨fun c hc => h c (List.mem_of_mem_head? hc),
    fun c hc => h c (List.mem_of_getLast? hc)⟩

end Text

end ContainerDesk
