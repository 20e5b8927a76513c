import ContainerDesk.Storage.Disk

/-!
# The ways to places

A path names a place that starts nowhere, or at the top in one of two ways of writing,
and goes on with names that are not empty.  Following the names one by one, as the
system holds them, leads to the plain form of the place.
-/

namespace ContainerDesk

/-!
# Names as the system holds them
-/

namespace SystemText

theorem octetsOfCodePoint_ne_nil (c : CodePoint) : octetsOfCodePoint c ≠ [] := by
  unfold octetsOfCodePoint Utf8.encodeCodePoint
  dsimp only
  repeat' split
  all_goals exact List.cons_ne_nil _ _

theorem ofOctets_cons_ne_nil (first : Octet) (rest : List Octet) :
    ofOctets (first :: rest) ≠ [] := by
  rw [ofOctets, ofOctetsFrom]
  cases Utf8.step first rest with
  | scalar c width => exact List.cons_ne_nil _ _
  | broken defect width => exact List.cons_ne_nil _ _

theorem held_eq_nil {t : Text} : held t = [] ↔ t = [] := by
  constructor
  · intro h
    cases t with
    | nil => rfl
    | cons c rest =>
        unfold held at h
        split at h
        · rcases List.exists_cons_of_ne_nil (octetsOfCodePoint_ne_nil c) with ⟨first, others, heq⟩
          rw [octets, List.flatMap_cons, heq, List.cons_append] at h
          exact absurd h (ofOctets_cons_ne_nil _ _)
        · exact h
  · rintro rfl
    rfl

end SystemText

namespace Place

/-- One step on the way from a place, with the name as the system holds it. -/
def follow (seen : Place) (name : Text) : Place :=
  if name = up then seen.above else seen ++ [SystemText.held name]

theorem map_held_above (place : Place) :
    place.above.map SystemText.held = above (place.map SystemText.held) := by
  have hlast : place.getLast? = some [] ↔ (place.map SystemText.held).getLast? = some [] := by
    rw [List.getLast?_map]
    cases place.getLast? with
    | none => simp
    | some name => simp [SystemText.held_eq_nil]
  unfold above
  by_cases h : place.getLast? = some []
  · rw [if_pos h, if_pos (hlast.mp h)]
  · rw [if_neg h, if_neg fun hheld => h (hlast.mpr hheld), List.map_dropLast]

theorem map_held_steps (names : List Text) (seen : Place) :
    (names.foldl step seen).map SystemText.held =
      names.foldl follow (seen.map SystemText.held) := by
  induction names generalizing seen with
  | nil => rfl
  | cons name rest ih =>
      rw [List.foldl_cons, List.foldl_cons, ih]
      congr 1
      unfold step follow
      by_cases h : name = up
      · rw [if_pos h, if_pos h, map_held_above]
      · rw [if_neg h, if_neg h, List.map_append]
        rfl

/-!
# Places below the top
-/

section Top

variable {names : List Text} (hnames : ∀ name ∈ names, name ≠ [])

theorem above_top {below : List Text} (hbelow : ∀ name ∈ below, name ≠ []) :
    above ([] :: below) = [] :: below.dropLast := by
  cases below with
  | nil => rfl
  | cons first rest =>
      have hlast : ([] :: first :: rest).getLast? ≠ some [] := by
        intro h
        rw [List.getLast?_cons_cons] at h
        exact hbelow [] (List.mem_of_getLast? h) rfl
      unfold above
      rw [if_neg hlast, List.dropLast_cons_cons]

theorem step_top {below : List Text} (hbelow : ∀ name ∈ below, name ≠ []) {name : Text}
    (hname : name ≠ []) :
    ∃ rest, step ([] :: below) name = [] :: rest ∧ ∀ other ∈ rest, other ≠ [] := by
  unfold step
  by_cases h : name = up
  · rw [if_pos h, above_top hbelow]
    exact ⟨_, rfl, fun other hother => hbelow other ((List.dropLast_sublist _).subset hother)⟩
  · rw [if_neg h, List.cons_append]
    refine ⟨_, rfl, ?_⟩
    intro other hother
    rcases List.mem_append.mp hother with hother | hother
    · exact hbelow other hother
    · rw [List.mem_singleton.mp hother]
      exact hname

include hnames

theorem steps_top {below : List Text} (hbelow : ∀ name ∈ below, name ≠ []) :
    ∃ rest, names.foldl step ([] :: below) = [] :: rest ∧ ∀ name ∈ rest, name ≠ [] := by
  induction names generalizing below with
  | nil => exact ⟨below, rfl, hbelow⟩
  | cons name names ih =>
      rcases step_top hbelow (hnames name List.mem_cons_self) with ⟨rest, hstep, hrest⟩
      rw [List.foldl_cons, hstep]
      exact ih (fun other hother => hnames other (List.mem_cons_of_mem _ hother)) hrest

theorem steps_top_twice {below : List Text} (hbelow : ∀ name ∈ below, name ≠ []) :
    names.foldl step ([] :: [] :: below) = [] :: names.foldl step ([] :: below) := by
  induction names generalizing below with
  | nil => rfl
  | cons name names ih =>
      rcases step_top hbelow (hnames name List.mem_cons_self) with ⟨rest, hstep, hrest⟩
      have htwice : step ([] :: [] :: below) name = [] :: [] :: rest := by
        rw [← hstep]
        unfold step
        by_cases h : name = up
        · rw [if_pos h, if_pos h, above, above, List.getLast?_cons_cons, List.dropLast_cons_cons]
          split <;> rfl
        · rw [if_neg h, if_neg h, List.cons_append]
      rw [List.foldl_cons, List.foldl_cons, hstep, htwice]
      exact ih (fun other hother => hnames other (List.mem_cons_of_mem _ hother)) hrest

theorem steps_nowhere {seen : Place} (hseen : ∀ name ∈ seen, name ≠ []) :
    ∀ name ∈ names.foldl step seen, name ≠ [] := by
  induction names generalizing seen with
  | nil => exact hseen
  | cons name names ih =>
      rw [List.foldl_cons]
      apply ih (fun other hother => hnames other (List.mem_cons_of_mem _ hother))
      intro other hother
      unfold step above at hother
      split at hother
      · split at hother
        · exact hseen other hother
        · exact hseen other ((List.dropLast_sublist _).subset hother)
      · rcases List.mem_append.mp hother with hother | hother
        · exact hseen other hother
        · rw [List.mem_singleton.mp hother]
          exact hnames name List.mem_cons_self

end Top

end Place

/-!
# Places that paths name
-/

/-- The start of a place and the names on the way from there. -/
structure Place.Way where
  /-- The start as it is written. -/
  start : Place
  names : List Text
  start_cases : start = [] ∨ start = [[]] ∨ start = [[], []]
  names_ne_nil : ∀ name ∈ names, name ≠ []

namespace Place.Way

def place (way : Way) : Place :=
  way.start ++ way.names

def origin (way : Way) : Place :=
  if way.start = [] then [] else top

/-- The plain form is reached by following the names. -/
theorem plain_eq (way : Way) : way.place.plain = way.names.foldl follow way.origin := by
  rcases way with ⟨start, names, hstart, hnames⟩
  have hnone : ∀ name ∈ ([] : List Text), name ≠ [] := fun _ h => absurd h List.not_mem_nil
  rcases steps_top hnames hnone with ⟨below, hbelow, hrest⟩
  have hdrop : below.dropWhile (·.isEmpty) = below := by
    cases below with
    | nil => rfl
    | cons first others =>
        have hfirst : first.isEmpty = false :=
          List.isEmpty_eq_false_iff.mpr (hrest first List.mem_cons_self)
        rw [List.dropWhile_cons_of_neg (by simp [hfirst])]
  have htop : names.foldl follow top = top ++ below.map SystemText.held := by
    have hmap := map_held_steps names [[]]
    rw [hbelow] at hmap
    exact hmap.symm
  -- A way starts at the working folder or with one or two slashes, and two count as one.
  rcases hstart with rfl | rfl | rfl
  · have hne := steps_nowhere hnames hnone
    have hmap : (names.foldl step []).map SystemText.held = names.foldl follow [] :=
      map_held_steps names []
    show plain names = names.foldl follow []
    unfold plain direct
    rw [← hmap]
    cases hdirect : names.foldl step [] with
    | nil => rfl
    | cons first rest =>
        cases first with
        | nil => exact absurd rfl (hne [] (hdirect ▸ List.mem_cons_self))
        | cons c others => rfl
  · show plain ([] :: names) = names.foldl follow top
    have hdirect : direct ([] :: names) = [] :: below := hbelow
    rw [plain, hdirect, htop]
    dsimp only
    rw [hdrop]
  · show plain ([] :: [] :: names) = names.foldl follow top
    have hdirect : direct ([] :: [] :: names) = [] :: [] :: below := by
      rw [← hbelow]
      exact steps_top_twice hnames hnone
    rw [plain, hdirect, htop]
    dsimp only
    rw [List.dropWhile_cons_of_pos rfl, hdrop]

/-- What a place looks like is seen from its origin. -/
theorem standing_eq (way : Way) (disk : Disk) :
    disk.standing way.place =
      match Disk.Cause.ofPath? (disk.pathOf way.place) with
      | some cause => .barred cause
      | none => disk.standingFrom way.origin way.names := by
  rcases way with ⟨start, names, hstart, hnames⟩
  have hdrop : names.dropWhile (·.isEmpty) = names := by
    cases names with
    | nil => rfl
    | cons first others =>
        have hfirst : first.isEmpty = false :=
          List.isEmpty_eq_false_iff.mpr (hnames first List.mem_cons_self)
        rw [List.dropWhile_cons_of_neg (by simp [hfirst])]
  unfold Disk.standing
  generalize Disk.Cause.ofPath? _ = cause
  cases cause with
  | some cause => rfl
  | none =>
      rcases hstart with rfl | rfl | rfl
      · cases names with
        | nil => rfl
        | cons first others =>
            cases first with
            | nil => exact absurd rfl (hnames [] List.mem_cons_self)
            | cons c rest => rfl
      · show disk.standingFrom top (names.dropWhile (·.isEmpty)) = disk.standingFrom top names
        rw [hdrop]
      · show disk.standingFrom top (([] :: names).dropWhile (·.isEmpty)) =
          disk.standingFrom top names
        rw [List.dropWhile_cons_of_pos rfl, hdrop]

def enter (way : Way) (name : Text) (h : name ≠ []) : Way where
  start := way.start
  names := way.names ++ [name]
  start_cases := way.start_cases
  names_ne_nil := List.forall_mem_append.mpr ⟨way.names_ne_nil, List.forall_mem_singleton.mpr h⟩

theorem place_enter (way : Way) {name : Text} (h : name ≠ []) :
    (way.enter name h).place = way.place ++ [name] :=
  (List.append_assoc way.start way.names [name]).symm

def outer (way : Way) : Way where
  start := way.start
  names := way.names.dropLast
  start_cases := way.start_cases
  names_ne_nil := fun name hname =>
    way.names_ne_nil name ((List.dropLast_sublist _).subset hname)

theorem place_outer {way : Way} (h : way.names ≠ []) : way.outer.place = way.place.dropLast := by
  show way.start ++ way.names.dropLast = (way.start ++ way.names).dropLast
  rw [List.dropLast_append_of_ne_nil h]

theorem outer_enter (way : Way) {name : Text} (h : name ≠ []) : (way.enter name h).outer = way := by
  rcases way with ⟨start, names, hstart, hnames⟩
  unfold enter outer
  simp only [List.dropLast_concat]

/-- Going back where that is possible leaves a way to a place. -/
theorem exists_place_eq_direct (way : Way) : ∃ other : Way, other.place = way.place.direct := by
  rcases way with ⟨start, names, hstart, hnames⟩
  have hnone : ∀ name ∈ ([] : List Text), name ≠ [] := fun _ h => absurd h List.not_mem_nil
  rcases steps_top hnames hnone with ⟨rest, hrest, hne⟩
  rcases hstart with rfl | rfl | rfl
  · exact ⟨⟨[], names.foldl step [], .inl rfl, steps_nowhere hnames hnone⟩, rfl⟩
  · exact ⟨⟨[[]], rest, .inr (.inl rfl), hne⟩, hrest.symm⟩
  · refine ⟨⟨[[], []], rest, .inr (.inr rfl), hne⟩, ?_⟩
    show [] :: [] :: rest = names.foldl step [[], []]
    rw [steps_top_twice hnames hnone, hrest]

theorem exists_place_eq_within (way folder : Way) :
    ∃ other : Way, other.place = way.place.within folder.place := by
  rcases way with ⟨start, names, hstart, hnames⟩
  have hfolder : (∀ name ∈ names, name ≠ []) → names.head? ≠ some [] :=
    fun hnames hhead => hnames [] (List.mem_of_mem_head? hhead) rfl
  rcases hstart with rfl | rfl | rfl
  · refine ⟨⟨folder.start, folder.names ++ names, folder.start_cases,
      List.forall_mem_append.mpr ⟨folder.names_ne_nil, hnames⟩⟩, ?_⟩
    show folder.start ++ (folder.names ++ names) = within names folder.place
    rw [within, isFromTop, decide_eq_false (hfolder hnames)]
    exact (List.append_assoc _ _ _).symm
  · exact ⟨⟨[[]], names, .inr (.inl rfl), hnames⟩, rfl⟩
  · exact ⟨⟨[[], []], names, .inr (.inr rfl), hnames⟩, rfl⟩

def ofPath (path : Text) : Way where
  start := Disk.startOf path
  names := (path.pieces Disk.slash).filter fun name => !name.isEmpty && name ≠ Text.of "."
  start_cases := by
    unfold Disk.startOf
    split
    · exact .inl rfl
    · exact .inr (.inr rfl)
    · exact .inr (.inl rfl)
  names_ne_nil := by
    intro name hname hnil
    have hkept := (List.mem_filter.mp hname).2
    simp [hnil] at hkept

theorem place_ofPath (path : Text) : (ofPath path).place = Disk.placeOf path := rfl

end Place.Way

end ContainerDesk
