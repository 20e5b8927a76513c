import ContainerDesk.Proofs.Storage.Disk

/-!
# Folders on the way

The path of a folder is the front of every path into it, so what the system takes as a
path it takes as the path of each folder on the way.  On such a path only the system
refuses to make folders, and the place where one was refused is no folder afterwards.
-/

namespace ContainerDesk

namespace Disk

/-!
# Fronts of paths
-/

theorem strayFrom_eq_none (position : Nat) {t : Text} :
    strayFrom position t = none ↔
      ∀ c ∈ t, (c.isSurrogate && !SystemText.standsForOctet c) = false := by
  induction t generalizing position with
  | nil => exact ⟨fun _ c hc => absurd hc List.not_mem_nil, fun _ => rfl⟩
  | cons c rest ih =>
      rw [strayFrom, List.forall_mem_cons]
      by_cases hstray : (c.isSurrogate && !SystemText.standsForOctet c) = true
      · rw [if_pos hstray, hstray]
        exact ⟨fun h => (nomatch h), fun h => (nomatch h.1)⟩
      · rw [if_neg hstray, ih, Bool.eq_false_iff.mpr hstray]
        exact ⟨fun h => ⟨rfl, h⟩, And.right⟩

theorem ofText_eq_none {t : Text} :
    Cause.ofText? t = none ↔
      (∀ c ∈ t, (c.isSurrogate && !SystemText.standsForOctet c) = false) ∧
        ∀ c ∈ t, c.val ≠ 0 := by
  have hzero : t.any (·.val = 0) = false ↔ ∀ c ∈ t, c.val ≠ 0 := by
    simp [List.any_eq_false]
  rw [← strayFrom_eq_none 0, ← hzero]
  unfold Cause.ofText?
  cases strayFrom 0 t with
  | some fault => exact ⟨fun h => (nomatch h), fun h => (nomatch h.1)⟩
  | none => cases t.any (·.val = 0) <;> simp

theorem ofText_of_front {s t : Text} (h : s <+: t) (ht : Cause.ofText? t = none) :
    Cause.ofText? s = none := by
  rcases ofText_eq_none.mp ht with ⟨hstray, hzero⟩
  exact ofText_eq_none.mpr ⟨fun c hc => hstray c (h.subset hc), fun c hc => hzero c (h.subset hc)⟩

theorem octetCount_append (s t : Text) : octetCount (s ++ t) = octetCount s + octetCount t := by
  have hfold : ∀ (u : Text) (count : Nat),
      u.foldl (fun count c => count + (SystemText.octetsOfCodePoint c).length) count =
        count + octetCount u := by
    intro u
    induction u with
    | nil => exact fun count => rfl
    | cons c rest ih =>
        intro count
        unfold octetCount
        rw [List.foldl_cons, List.foldl_cons, ih, ih, Nat.add_assoc, Nat.zero_add]
  rw [octetCount, List.foldl_append, hfold]
  rfl

theorem ofPath_eq_none {path : Text} :
    Cause.ofPath? path = none ↔ Cause.ofText? path = none ∧ octetCount path ≤ pathLimit := by
  unfold Cause.ofPath?
  cases Cause.ofText? path with
  | some cause => simp
  | none => simp

theorem ofPath_eq_some {path : Text} {cause : Cause} (htext : Cause.ofText? path = none)
    (h : Cause.ofPath? path = some cause) : cause = .tooLong := by
  unfold Cause.ofPath? at h
  rw [htext] at h
  dsimp only at h
  split at h
  · exact (Option.some.inj h).symm
  · cases h

theorem ofPath_of_front {s t : Text} (h : s <+: t) (ht : Cause.ofPath? t = none) :
    Cause.ofPath? s = none := by
  rcases ofPath_eq_none.mp ht with ⟨htext, hcount⟩
  rcases h with ⟨rest, rfl⟩
  rw [octetCount_append] at hcount
  exact ofPath_eq_none.mpr ⟨ofText_of_front (List.prefix_append s rest) htext, by omega⟩

theorem joinWith_concat (separator : Text) {parts : List Text} (h : parts ≠ []) (last : Text) :
    Text.joinWith separator (parts ++ [last]) =
      Text.joinWith separator parts ++ separator ++ last := by
  induction parts with
  | nil => exact absurd rfl h
  | cons part rest ih =>
      cases rest with
      | nil => rfl
      | cons next others =>
          show part ++ separator ++ Text.joinWith separator (next :: others ++ [last]) = _
          rw [ih (List.cons_ne_nil _ _)]
          simp only [Text.joinWith, List.append_assoc]

theorem joinWith_dropLast (separator : Text) (parts : List Text) :
    Text.joinWith separator parts.dropLast <+: Text.joinWith separator parts := by
  rcases parts.eq_nil_or_concat with rfl | ⟨front, last, rfl⟩
  · exact List.prefix_refl _
  · rw [List.concat_eq_append, List.dropLast_concat]
    by_cases hfront : front = []
    · rw [hfront]
      exact List.nil_prefix
    · rw [joinWith_concat separator hfront, List.append_assoc]
      exact List.prefix_append _ _

theorem mem_joined_concat {parts : Place} {name : Text} {c : CodePoint}
    (h : c ∈ joined (parts ++ [name])) : c ∈ joined parts ∨ c = slash ∨ c ∈ name := by
  unfold joined at h ⊢
  by_cases hparts : parts = []
  · rw [hparts] at h
    exact .inr (.inr h)
  · rw [joinWith_concat _ hparts, List.mem_append, List.mem_append] at h
    rcases h with (h | h) | h
    · exact .inl h
    · exact .inr (.inl (List.mem_singleton.mp h))
    · exact .inr (.inr h)

section Names

variable {names : Place} (hnames : ∀ name ∈ names, name ≠ [])
include hnames

theorem pathOf_names (disk : Disk) : disk.pathOf names = joined (disk.root :: names) := by
  match names with
  | [] => rfl
  | [] :: _ => exact absurd rfl (hnames [] List.mem_cons_self)
  | (_ :: _) :: _ => rfl

theorem pathOf_top (disk : Disk) : disk.pathOf ([] :: names) = Text.of "/" ++ joined names := by
  match names with
  | [] => rfl
  | [] :: _ => exact absurd rfl (hnames [] List.mem_cons_self)
  | (_ :: _) :: _ => rfl

end Names

section Entering

variable {disk : Disk} {way : Place.Way} {name : Text}

/-- The path of what is in a folder has no code points but those of the folder's path, of the name
and the slash between them. -/
theorem mem_pathOf_enter (hname : name ≠ []) {c : CodePoint}
    (h : c ∈ disk.pathOf (way.enter name hname).place) :
    c ∈ disk.pathOf way.place ∨ c = slash ∨ c ∈ name := by
  rcases way with ⟨start, names, hstart, hold⟩
  have hnames : ∀ other ∈ names ++ [name], other ≠ [] :=
    List.forall_mem_append.mpr ⟨hold, List.forall_mem_singleton.mpr hname⟩
  have htop (front : Text) (h : c ∈ front ++ joined (names ++ [name])) :
      c ∈ front ++ joined names ∨ c = slash ∨ c ∈ name := by
    rcases List.mem_append.mp h with h | h
    · exact .inl (List.mem_append_left _ h)
    · exact (mem_joined_concat h).imp_left (List.mem_append_right front)
  rcases hstart with rfl | rfl | rfl
  · change c ∈ disk.pathOf (names ++ [name]) at h
    show c ∈ disk.pathOf names ∨ _
    rw [pathOf_names hnames] at h
    rw [pathOf_names hold]
    exact mem_joined_concat h
  · change c ∈ disk.pathOf ([] :: (names ++ [name])) at h
    show c ∈ disk.pathOf ([] :: names) ∨ _
    rw [pathOf_top hnames] at h
    rw [pathOf_top hold]
    exact htop _ h
  · exact htop _ h

theorem ofText_enter (hname : name ≠ [])
    (hplace : Cause.ofText? (disk.pathOf way.place) = none) (htext : Cause.ofText? name = none) :
    Cause.ofText? (disk.pathOf (way.enter name hname).place) = none := by
  rcases ofText_eq_none.mp hplace with ⟨hstray, hzero⟩
  rcases ofText_eq_none.mp htext with ⟨hnameStray, hnameZero⟩
  apply ofText_eq_none.mpr
  constructor
  · intro c hc
    rcases mem_pathOf_enter hname hc with hc | rfl | hc
    · exact hstray c hc
    · decide
    · exact hnameStray c hc
  · intro c hc
    rcases mem_pathOf_enter hname hc with hc | rfl | hc
    · exact hzero c hc
    · decide
    · exact hnameZero c hc

end Entering

section Way

variable {disk : Disk} (way : Place.Way)

theorem pathOf_outer (h : way.names ≠ []) :
    disk.pathOf way.outer.place <+: disk.pathOf way.place := by
  rcases way with ⟨start, names, hstart, hnames⟩
  have houter : ∀ name ∈ names.dropLast, name ≠ [] :=
    fun name hname => hnames name (List.dropLast_subset names hname)
  rcases hstart with rfl | rfl | rfl
  · show disk.pathOf names.dropLast <+: disk.pathOf names
    rw [pathOf_names hnames, pathOf_names houter, ← List.dropLast_cons_of_ne_nil h]
    exact joinWith_dropLast _ _
  · show disk.pathOf ([] :: names.dropLast) <+: disk.pathOf ([] :: names)
    rw [pathOf_top hnames, pathOf_top houter]
    exact (List.prefix_append_right_inj _).mpr (joinWith_dropLast _ _)
  · show Text.of "//" ++ joined names.dropLast <+: Text.of "//" ++ joined names
    exact (List.prefix_append_right_inj _).mpr (joinWith_dropLast _ _)

/-!
# Folders in folders
-/

theorem passes_of_folder {seen : Place} {names : List Text}
    (h : disk.standingFrom seen names = .folder) : Passes disk seen names := by
  induction names generalizing seen with
  | nil => exact .here
  | cons name rest ih =>
      rw [Disk.standingFrom] at h
      by_cases hup : name = Place.up
      · rw [if_pos hup] at h
        exact hup ▸ .up (ih h)
      · rw [if_neg hup] at h
        by_cases hlong : nameLimit < octetCount name
        · rw [if_pos hlong] at h
          cases h
        · rw [if_neg hlong] at h
          dsimp only at h
          cases hnode : disk.node? (seen ++ [SystemText.held name]) with
          | none =>
              rw [hnode] at h
              cases rest <;> cases h
          | some node =>
              rw [hnode] at h
              cases node with
              | file content => cases rest <;> cases h
              | folder => exact .into hup hlong hnode (ih h)

theorem Passes.dropLast {seen : Place} {names : List Text} (h : Passes disk seen names) :
    Passes disk seen names.dropLast := by
  induction h with
  | here => exact .here
  | @up seen rest _ ih =>
      cases rest with
      | nil => exact .here
      | cons next others => exact .up ih
  | @into seen name rest hup hshort hnode _ ih =>
      cases rest with
      | nil => exact .here
      | cons next others => exact .into hup hshort hnode ih

/-- The system takes the path of a folder that is there, and the way to it leads through folders. -/
theorem ofPath_of_folder {way : Place.Way} (h : disk.standing way.place = .folder) :
    Cause.ofPath? (disk.pathOf way.place) = none ∧ Passes disk way.origin way.names := by
  rw [way.standing_eq] at h
  cases hpath : Cause.ofPath? (disk.pathOf way.place) with
  | some cause =>
      rw [hpath] at h
      cases h
  | none =>
      rw [hpath] at h
      exact ⟨rfl, passes_of_folder h⟩

theorem standing_outer_of_folder (h : disk.standing way.place = .folder) :
    disk.standing way.outer.place = .folder := by
  by_cases hnames : way.names = []
  · have houter : way.outer.place = way.place := by
      show way.start ++ way.names.dropLast = way.start ++ way.names
      rw [hnames]
      rfl
    rw [houter, h]
  · rcases ofPath_of_folder h with ⟨hpath, hpasses⟩
    rw [way.outer.standing_eq, ofPath_of_front (pathOf_outer way hnames) hpath]
    exact hpasses.dropLast.standingFrom

theorem standing_dropLast_of_file {content : List Octet}
    (h : disk.standing way.place = .file content) :
    disk.standing way.place.dropLast = .folder := by
  have hopen : (disk.standing way.place).isOpen = true := by
    rw [h]
    rfl
  rcases ofPath_of_isOpen way hopen with ⟨hpath, hstanding⟩
  have hnames : way.names ≠ [] := by
    intro hnil
    rw [hnil] at hstanding
    cases hstanding
  have houter := ofPath_of_front (pathOf_outer way hnames) hpath
  rw [Place.Way.place_outer hnames] at houter
  exact standing_outer way hopen houter

theorem file_eq_none_of_dropLast (h : disk.standing way.place.dropLast ≠ .folder) :
    disk.file? way.place = none := by
  cases hfile : disk.file? way.place with
  | none => rfl
  | some content => exact absurd (standing_dropLast_of_file way (file_eq_some.mp hfile)) h

theorem exists_place_eq_dropLast : ∃ outer : Place.Way, outer.place = way.place.dropLast := by
  by_cases hnames : way.names = []
  · refine ⟨⟨way.start.dropLast, [], ?_, fun _ hname => absurd hname List.not_mem_nil⟩, ?_⟩
    · rcases way.start_cases with hstart | hstart | hstart
      all_goals rw [hstart]
      · exact .inl rfl
      · exact .inl rfl
      · exact .inr (.inl rfl)
    · show way.start.dropLast ++ [] = (way.start ++ way.names).dropLast
      rw [hnames, List.append_nil, List.append_nil]
  · exact ⟨way.outer, Place.Way.place_outer hnames⟩

end Way

/-- A node put at an open place leaves all folders where they are. -/
theorem standing_put_of_folder {disk : Disk} {way other : Place.Way}
    (hopen : (disk.standing way.place).isOpen = true) (node : Node)
    (h : disk.standing other.place = .folder) :
    (disk.put way.place node).standing other.place = .folder := by
  rcases passes_of_isOpen (ofPath_of_isOpen way hopen).2 with ⟨_, _, _, _, _, _, hnode⟩
  rw [← way.plain_eq] at hnode
  rcases ofPath_of_folder h with ⟨hpath, hpasses⟩
  rw [other.standing_eq, pathOf_put, hpath]
  exact (hpasses.agree hnode (agreeOff_put disk way.place node)).standingFrom

theorem standing_write_of_folder {disk after : Disk} {way other : Place.Way}
    {content : List Octet} (hwrite : disk.write way.place content = (.ok (), after))
    (h : disk.standing other.place = .folder) : after.standing other.place = .folder := by
  rcases write_eq_ok hwrite with ⟨hopen, rfl⟩
  exact standing_put_of_folder hopen _ h

/-!
# Refusals by the system
-/

theorem number_of_standingFrom {disk : Disk} {seen : Place} {names : List Text} {cause : Cause}
    (h : disk.standingFrom seen names = .barred cause) : cause.number?.isSome = true := by
  induction names generalizing seen with
  | nil => cases h
  | cons name rest ih =>
      rw [Disk.standingFrom] at h
      split at h
      · exact ih h
      · split at h
        · cases h
          rfl
        · dsimp only at h
          split at h
          · split at h
            · cases h
            · cases h
              rfl
          · split at h
            · cases h
            · cases h
              rfl
          · exact ih h

theorem number_of_barred {disk : Disk} {place : Place}
    (hpath : Cause.ofText? (disk.pathOf place) = none) {cause : Cause}
    (h : disk.standing place = .barred cause) : cause.number?.isSome = true := by
  unfold standing at h
  split at h
  · rename_i other hother
    cases h
    rw [ofPath_eq_some hpath hother]
    rfl
  · split at h
    · exact number_of_standingFrom h
    · exact number_of_standingFrom h

theorem makeFolder_eq_error {disk after : Disk} {place : Place} {refusal : Refusal}
    (hpath : Cause.ofText? (disk.pathOf place) = none)
    (h : disk.makeFolder place = (.error refusal, after)) :
    refusal.isBySystem = true ∧ after = disk ∧ disk.standing place ≠ .folder := by
  unfold makeFolder at h
  split at h
  · exact nomatch (Prod.mk.inj h).1
  · exact nomatch (Prod.mk.inj h).1
  · rename_i hfile
    cases h
    exact ⟨rfl, rfl, by rw [hfile]; exact nofun⟩
  · rename_i cause hbarred
    cases h
    exact ⟨number_of_barred hpath hbarred, rfl, by rw [hbarred]; exact nofun⟩

theorem write_eq_error {disk after : Disk} {place : Place} {content : List Octet}
    {refusal : Refusal} (hpath : Cause.ofText? (disk.pathOf place) = none)
    (h : disk.write place content = (.error refusal, after)) :
    refusal.isBySystem = true ∧ disk.file? place = none := by
  unfold write at h
  unfold file?
  split at h
  · exact nomatch (Prod.mk.inj h).1
  · exact nomatch (Prod.mk.inj h).1
  · rename_i hfolder
    cases h
    exact ⟨rfl, by rw [hfolder]⟩
  · rename_i cause hbarred
    cases h
    exact ⟨number_of_barred hpath hbarred, by rw [hbarred]⟩

/-!
# Making folders
-/

theorem root_makeFolder (disk : Disk) (place : Place) :
    (disk.makeFolder place).2.root = disk.root := by
  unfold makeFolder
  split <;> rfl

theorem root_makeFoldersWithin (disk : Disk) (bound : Nat) (place : Place) :
    (disk.makeFoldersWithin bound place).2.root = disk.root := by
  induction bound generalizing place with
  | zero => rfl
  | succ bound ih =>
      rw [makeFoldersWithin]
      split
      · have houter := ih place.dropLast
        split
        · rename_i made hmade
          rw [hmade] at houter
          rw [root_makeFolder, houter]
        · exact houter
      · exact root_makeFolder disk place

theorem pathOf_congr {disk other : Disk} (h : other.root = disk.root) (place : Place) :
    other.pathOf place = disk.pathOf place := by
  unfold pathOf
  rw [h]

theorem standing_of_makeFolder {disk made : Disk} {way : Place.Way}
    (h : disk.makeFolder way.place = (.ok (), made)) : made.standing way.place = .folder := by
  unfold makeFolder at h
  split at h
  · rename_i hfolder
    rw [← (Prod.mk.inj h).2, hfolder]
  · rename_i hfree
    have hopen : (disk.standing way.place).isOpen = true := by
      rw [hfree]
      rfl
    rw [← (Prod.mk.inj h).2]
    exact standing_put way hopen .folder
  · exact nomatch (Prod.mk.inj h).1
  · exact nomatch (Prod.mk.inj h).1

theorem standing_of_makeFolders {disk made : Disk} {way : Place.Way}
    (h : disk.makeFolders way.place = (.ok (), made)) : made.standing way.place = .folder := by
  unfold makeFolders at h
  generalize folderLimit = bound at h
  cases bound with
  | zero => exact nomatch (Prod.mk.inj h).1
  | succ bound =>
      rw [makeFoldersWithin] at h
      split at h
      · split at h
        · exact standing_of_makeFolder h
        · rename_i hrefused
          exact absurd h (hrefused _)
      · exact standing_of_makeFolder h

theorem names_ne_nil_of_missing {disk : Disk} {way : Place.Way}
    (hpath : Cause.ofText? (disk.pathOf way.place) = none)
    (h : disk.standing way.place = .barred .missing) : way.names ≠ [] := by
  intro hnil
  rw [way.standing_eq, hnil] at h
  split at h
  · rename_i cause hcause
    rw [ofPath_eq_some hpath hcause] at h
    cases h
  · cases h

/-- Where folders within the limit cannot be made, the system says why, and the place is no folder
then. -/
theorem makeFoldersWithin_eq_error {disk after : Disk} {way : Place.Way} {bound : Nat}
    {refusal : Refusal} (hpath : Cause.ofText? (disk.pathOf way.place) = none)
    (hbound : way.place.length ≤ bound) (hpositive : 0 < bound)
    (h : disk.makeFoldersWithin bound way.place = (.error refusal, after)) :
    refusal.isBySystem = true ∧ after.standing way.place ≠ .folder := by
  induction bound generalizing way after refusal with
  | zero => exact absurd hpositive (Nat.lt_irrefl 0)
  | succ bound ih =>
      rw [makeFoldersWithin] at h
      split at h
      · rename_i hmissing
        have hnames := names_ne_nil_of_missing hpath hmissing.1
        have houter : Cause.ofText? (disk.pathOf way.outer.place) = none :=
          ofText_of_front (pathOf_outer way hnames) hpath
        have hplace := Place.Way.place_outer hnames
        rw [← hplace] at h
        rcases hmade : disk.makeFoldersWithin bound way.outer.place with ⟨result, made⟩
        rw [hmade] at h
        cases result with
        | error refused =>
            -- what was refused further out leaves no folder there, so none stands in it
            cases h
            have hlength : way.outer.place.length ≤ bound := by
              rw [hplace, List.length_dropLast]
              omega
            rcases ih houter hlength (by omega) hmade with ⟨hsystem, hfolder⟩
            exact ⟨hsystem, fun hthere => hfolder (standing_outer_of_folder way hthere)⟩
        | ok done =>
            have hroot := root_makeFoldersWithin disk bound way.outer.place
            rw [hmade] at hroot
            rw [← pathOf_congr hroot] at hpath
            rcases makeFolder_eq_error hpath h with ⟨hsystem, rfl, hfolder⟩
            exact ⟨hsystem, hfolder⟩
      · rcases makeFolder_eq_error hpath h with ⟨hsystem, rfl, hfolder⟩
        exact ⟨hsystem, hfolder⟩

end Disk

end ContainerDesk
