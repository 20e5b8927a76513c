import ContainerDesk.Logging.Source
import Mathlib.Data.List.Induction
import Mathlib.Logic.Relation

/-!
# Sources that stand below others

Each source has at most one source right above it: the longest of the names before its
dividing dots that is known or talkative.  The sources that are found to be talkative are
those from which a way up leads to a talkative one.

What stands below a source begins with its name and a dot.  For a talkative source the
converse holds as well, unless two dots stand side by side right behind its name.
-/

namespace ContainerDesk

namespace Source

/-- The names before the dots that divide a source, the longest first.  Its name is read from the
end. -/
def heads : (reversedName : Text) → List Text
  | [] => []
  | [_] => []
  | c :: d :: rest =>
      if c = dot then (d :: rest).reverse :: heads rest else heads (d :: rest)

def IsRightAbove (known : List Text) (source above : Text) : Prop :=
  (heads source.reverse).find? (fun name => talkative.contains name || known.contains name) =
    some above

def Descends (known : List Text) : (source above : Text) → Prop :=
  Relation.ReflTransGen (IsRightAbove known)

/-!
# Ways up
-/

theorem heads_cons_of_ne {c d : CodePoint} {rest : Text} (h : c ≠ dot) :
    heads (c :: d :: rest) = heads (d :: rest) :=
  if_neg h

theorem heads_dot_cons (d : CodePoint) (rest : Text) :
    heads (dot :: d :: rest) = (d :: rest).reverse :: heads rest :=
  if_pos rfl

theorem isBelowTalkative_iff (known : List Text) (reversedName : Text) :
    isBelowTalkative known reversedName = true ↔
      ∃ above, IsRightAbove known reversedName.reverse above ∧
        ∃ name ∈ talkative, Descends known above name := by
  unfold IsRightAbove
  rw [List.reverse_reverse]
  fun_induction isBelowTalkative known reversedName with
  | case1 => simp [heads]
  | case2 c => simp [heads]
  | case3 d rest above htalkative =>
      have hfirst : (heads (dot :: d :: rest)).find? (fun name =>
          talkative.contains name || known.contains name) = some above := by
        rw [heads_dot_cons, List.find?_cons_of_pos]
        rw [htalkative, Bool.true_or]
      rw [eq_self, true_iff]
      exact ⟨above, hfirst, above, List.contains_iff_mem.mp htalkative, .refl⟩
  | case4 d rest above hquiet hknown ih =>
      -- The way goes on from the known source as it does for that source itself.
      have hfirst : (heads (dot :: d :: rest)).find? (fun name =>
          talkative.contains name || known.contains name) = some above := by
        rw [heads_dot_cons, List.find?_cons_of_pos]
        rw [hknown, Bool.or_true]
      rw [ih, hfirst]
      constructor
      · rintro ⟨next, hnext, name, hname, hway⟩
        have hstep : IsRightAbove known above next := by
          unfold IsRightAbove
          rwa [List.reverse_reverse]
        exact ⟨above, rfl, name, hname, .head hstep hway⟩
      · rintro ⟨_, heq, name, hname, hway⟩
        cases heq
        rcases Relation.ReflTransGen.cases_head hway with rfl | ⟨next, hnext, hrest⟩
        · exact absurd (List.contains_iff_mem.mpr hname) hquiet
        · unfold IsRightAbove at hnext
          rw [List.reverse_reverse] at hnext
          exact ⟨next, hnext, name, hname, hrest⟩
  | case5 d rest above hquiet hunknown ih =>
      rw [ih, heads_dot_cons, List.find?_cons_of_neg]
      rw [Bool.or_eq_true]
      exact not_or.mpr ⟨hquiet, hunknown⟩
  | case6 c d rest hother ih => rw [ih, heads_cons_of_ne hother]

/-- The sources that are found to be talkative are those with a way up to a talkative one. -/
theorem isTalkative_iff (known : List Text) (source : Text) :
    isTalkative known source = true ↔ ∃ name ∈ talkative, Descends known source name := by
  unfold isTalkative
  rw [Bool.or_eq_true, isBelowTalkative_iff, List.reverse_reverse, List.contains_iff_mem]
  constructor
  · rintro (htalkative | ⟨above, hstep, name, hname, hway⟩)
    · exact ⟨source, htalkative, .refl⟩
    · exact ⟨name, hname, .head hstep hway⟩
  · rintro ⟨name, hname, hway⟩
    rcases Relation.ReflTransGen.cases_head hway with rfl | ⟨above, hstep, hrest⟩
    · exact .inl hname
    · exact .inr ⟨above, hstep, name, hname, hrest⟩

/-!
# Names with dots
-/

theorem prefix_of_mem_heads {reversedName above : Text} (h : above ∈ heads reversedName) :
    above ++ [dot] <+: reversedName.reverse := by
  fun_induction heads reversedName with
  | case1 => cases h
  | case2 c => cases h
  | case3 d rest ih =>
      rcases List.mem_cons.mp h with rfl | hrest
      · have hwhole : (dot :: d :: rest).reverse = (d :: rest).reverse ++ [dot] :=
          List.reverse_cons
        exact hwhole ▸ List.prefix_rfl
      · exact (ih hrest).trans
          (List.reverse_prefix.mpr ((List.suffix_cons d rest).trans (List.suffix_cons dot _)))
  | case4 c d rest hother ih =>
      exact (ih h).trans (List.reverse_prefix.mpr (List.suffix_cons c _))

theorem Descends.eq_or_prefix {known : List Text} {source above : Text}
    (h : Descends known source above) : source = above ∨ above ++ [dot] <+: source := by
  induction h with
  | refl => exact .inl rfl
  | tail hway hstep ih =>
      have hfront := prefix_of_mem_heads (List.mem_of_find?_eq_some hstep)
      rw [List.reverse_reverse] at hfront
      right
      rcases ih with rfl | hprefix
      · exact hfront
      · exact hfront.trans ((List.prefix_append _ _).trans hprefix)

theorem ne_nil_of_mem_talkative {name : Text} (h : name ∈ talkative) : name ≠ [] := by
  rintro rfl
  exact absurd h (by decide)

theorem isBelowTalkative_of_dot (known : List Text) {name : Text} (hname : name ∈ talkative)
    (behind : Text) (hbehind : behind.getLast? ≠ some dot) :
    isBelowTalkative known (behind ++ dot :: name.reverse) = true := by
  have hat : isBelowTalkative known (dot :: name.reverse) = true := by
    rcases List.exists_cons_of_ne_nil
      (mt List.reverse_eq_nil_iff.mp (ne_nil_of_mem_talkative hname)) with ⟨d, rest, hreverse⟩
    have habove : talkative.contains (d :: rest).reverse = true := by
      rw [← hreverse, List.reverse_reverse]
      exact List.contains_iff_mem.mpr hname
    rw [hreverse, isBelowTalkative, if_pos rfl, if_pos habove]
  induction behind using List.twoStepInduction with
  | nil => exact hat
  | singleton c =>
      have hother : c ≠ dot := fun heq => hbehind (congrArg some heq)
      show isBelowTalkative known (c :: dot :: name.reverse) = true
      rw [isBelowTalkative, if_neg hother]
      exact hat
  | cons_cons c d rest ihrest ih =>
      have hlast : (d :: rest).getLast? ≠ some dot := by
        rwa [List.getLast?_cons_cons] at hbehind
      rw [List.cons_append, List.cons_append, isBelowTalkative]
      by_cases hdot : c = dot
      · rw [if_pos hdot]
        dsimp only
        split
        · rfl
        · split
          · exact ih d hlast
          · apply ihrest
            -- The last dot divides, so the one before it is passed over.
            cases rest with
            | nil => exact fun heq => absurd heq (by decide)
            | cons e rest => rwa [List.getLast?_cons_cons] at hlast
      · rw [if_neg hdot]
        exact ih d hlast

/-- Where no two dots stand side by side right behind a talkative name, what stands below it can be
told from the front of the name, whatever sources are known. -/
theorem isTalkative_iff_prefix (known : List Text) {source : Text}
    (h : ∀ name ∈ talkative, ¬ name ++ [dot, dot] <+: source) :
    isTalkative known source = true ↔
      ∃ name ∈ talkative, source = name ∨ name ++ [dot] <+: source := by
  constructor
  · intro htalkative
    rcases (isTalkative_iff known source).mp htalkative with ⟨name, hname, hway⟩
    exact ⟨name, hname, hway.eq_or_prefix⟩
  · rintro ⟨name, hname, rfl | ⟨behind, hsource⟩⟩
    · exact (isTalkative_iff known source).mpr ⟨source, hname, .refl⟩
    · have hreverse : source.reverse = behind.reverse ++ dot :: name.reverse := by
        rw [← hsource]
        simp
      have hbehind : behind.reverse.getLast? ≠ some dot := by
        rw [List.getLast?_reverse]
        intro hfirst
        rcases List.head?_eq_some_iff.mp hfirst with ⟨rest, rfl⟩
        apply h name hname
        rw [← hsource]
        exact ⟨rest, by simp⟩
      unfold isTalkative
      rw [hreverse, isBelowTalkative_of_dot known hname behind.reverse hbehind, Bool.or_true]

/-- Of two dots side by side the last one divides, so nothing that is known stands above. -/
example : isTalkative [] (Text.of "docker..api") = false := by decide

end Source

end ContainerDesk
