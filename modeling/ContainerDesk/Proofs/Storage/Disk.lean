import ContainerDesk.Proofs.Storage.Place

/-!
# What a change of the disk leaves in place

Putting a file or a folder at a free place, or over a file, changes what stands at that
one place.  No way leads through it that was open before, so all folders that could be
reached can be reached still.

A file that was written is there to be read, in a folder that is there, and writing the
same content once more leaves the disk as it is.
-/

namespace ContainerDesk

namespace Disk

/-!
# Nodes
-/

theorem lookup_putNode (place other : Place) (node : Node) (nodes : List (Place × Node)) :
    (putNode place node nodes).lookup other =
      if other = place then some node else nodes.lookup other := by
  induction nodes with
  | nil =>
      by_cases h : other = place
      · simp [putNode, h]
      · have hb : (other == place) = false := by simpa using h
        simp [putNode, List.lookup_cons, h, hb]
  | cons entry rest ih =>
      rcases entry with ⟨first, old⟩
      by_cases hf : first = place
      · by_cases h : other = place
        · simp [putNode, hf, h]
        · have hb : (other == place) = false := by simpa using h
          simp [putNode, List.lookup_cons, hf, h, hb]
      · by_cases h : other = first
        · have hk : ¬other = place := fun hk => hf (h ▸ hk)
          simp [putNode, hf, h]
        · have hb : (other == first) = false := by simpa using h
          simp [putNode, List.lookup_cons, hf, hb, ih]

theorem putNode_putNode (place : Place) (first second : Node) (nodes : List (Place × Node)) :
    putNode place second (putNode place first nodes) = putNode place second nodes := by
  induction nodes with
  | nil => simp [putNode]
  | cons entry rest ih =>
      rcases entry with ⟨other, old⟩
      by_cases h : other = place
      · simp [putNode, h]
      · simp [putNode, h, ih]

theorem node_put (disk : Disk) (place other : Place) (node : Node) :
    (disk.put place node).node? other =
      if other = place.plain then some node else disk.node? other :=
  lookup_putNode _ _ _ _

theorem put_put (disk : Disk) (place : Place) (first second : Node) :
    (disk.put place first).put place second = disk.put place second := by
  unfold put
  dsimp only
  rw [putNode_putNode]

theorem pathOf_put (disk : Disk) (place other : Place) (node : Node) :
    (disk.put place node).pathOf other = disk.pathOf other := by
  unfold pathOf put
  rfl

/-!
# Ways that stay open
-/

def AgreeOff (place : Place) (disk other : Disk) : Prop :=
  ∀ elsewhere, elsewhere ≠ place → other.node? elsewhere = disk.node? elsewhere

theorem agreeOff_put (disk : Disk) (place : Place) (node : Node) :
    AgreeOff place.plain disk (disk.put place node) := by
  intro elsewhere h
  rw [node_put, if_neg h]

/-- Do all names on a way lead into folders, or up? -/
inductive Passes (disk : Disk) : Place → List Text → Prop where
  | here {seen : Place} : Passes disk seen []
  | up {seen : Place} {rest : List Text} (h : Passes disk seen.above rest) :
      Passes disk seen (Place.up :: rest)
  | into {seen : Place} {name : Text} {rest : List Text} (hup : name ≠ Place.up)
      (hshort : ¬nameLimit < octetCount name)
      (hnode : disk.node? (seen ++ [SystemText.held name]) = some .folder)
      (h : Passes disk (seen ++ [SystemText.held name]) rest) : Passes disk seen (name :: rest)

variable {disk : Disk}

theorem Passes.agree {other : Disk} {place : Place} (hplace : disk.node? place ≠ some .folder)
    (hagree : AgreeOff place disk other) {seen : Place} {names : List Text}
    (h : Passes disk seen names) : Passes other seen names := by
  induction h with
  | here => exact .here
  | up _ ih => exact .up ih
  | into hup hshort hnode _ ih =>
      have hne : _ ≠ place := fun heq => hplace (heq ▸ hnode)
      exact .into hup hshort ((hagree _ hne).trans hnode) ih

theorem Passes.standingFrom {seen : Place} {names : List Text} (h : Passes disk seen names) :
    disk.standingFrom seen names = .folder := by
  induction h with
  | here => rw [Disk.standingFrom]
  | up _ ih => rw [Disk.standingFrom, if_pos rfl, ih]
  | into hup hshort hnode _ ih =>
      rw [Disk.standingFrom, if_neg hup, if_neg hshort]
      dsimp only
      rw [hnode]
      exact ih

def Standing.ofNode : Node → Standing
  | .file content => .file content
  | .folder => .folder

theorem Passes.standingFrom_concat {seen : Place} {front : List Text} {last : Text} {node : Node}
    (h : Passes disk seen front) (hup : last ≠ Place.up) (hshort : ¬nameLimit < octetCount last)
    (hnode : disk.node? ((front ++ [last]).foldl Place.follow seen) = some node) :
    disk.standingFrom seen (front ++ [last]) = .ofNode node := by
  induction h with
  | here =>
      rw [List.nil_append, List.foldl_cons, List.foldl_nil, Place.follow, if_neg hup] at hnode
      rw [List.nil_append, Disk.standingFrom, if_neg hup, if_neg hshort]
      dsimp only
      rw [hnode]
      cases node with
      | file content => rfl
      | folder => rw [Standing.ofNode, Disk.standingFrom]
  | up _ ih =>
      rw [List.cons_append, List.foldl_cons, Place.follow, if_pos rfl] at hnode
      rw [List.cons_append, Disk.standingFrom, if_pos rfl]
      exact ih hnode
  | into hfirst hlimit hfolder _ ih =>
      rw [List.cons_append, List.foldl_cons, Place.follow, if_neg hfirst] at hnode
      rw [List.cons_append, Disk.standingFrom, if_neg hfirst, if_neg hlimit]
      dsimp only
      rw [hfolder]
      exact ih hnode

def Standing.isOpen : Standing → Bool
  | .free | .file _ => true
  | _ => false

theorem passes_of_isOpen {seen : Place} {names : List Text}
    (h : (disk.standingFrom seen names).isOpen = true) :
    ∃ front last, names = front ++ [last] ∧ last ≠ Place.up ∧ ¬nameLimit < octetCount last ∧
      Passes disk seen front ∧ disk.node? (names.foldl Place.follow seen) ≠ some .folder := by
  induction names generalizing seen with
  | nil => cases h
  | cons name rest ih =>
      rw [Disk.standingFrom] at h
      rw [List.foldl_cons, Place.follow]
      by_cases hup : name = Place.up
      · rw [if_pos hup] at h ⊢
        rcases ih h with ⟨front, last, rfl, hlast, hshort, hpasses, hnode⟩
        exact ⟨name :: front, last, rfl, hlast, hshort, hup ▸ .up hpasses, hnode⟩
      · rw [if_neg hup] at h ⊢
        by_cases hlong : nameLimit < octetCount name
        · rw [if_pos hlong] at h
          cases h
        · rw [if_neg hlong] at h
          dsimp only at h
          cases hnode : disk.node? (seen ++ [SystemText.held name]) with
          | none =>
              rw [hnode] at h
              cases rest with
              | nil => exact ⟨[], name, rfl, hup, hlong, .here, by simp [hnode]⟩
              | cons next others => cases h
          | some node =>
              rw [hnode] at h
              cases node with
              | file content =>
                  cases rest with
                  | nil => exact ⟨[], name, rfl, hup, hlong, .here, by simp [hnode]⟩
                  | cons next others => cases h
              | folder =>
                  rcases ih h with ⟨front, last, rfl, hlast, hshort, hpasses, hend⟩
                  exact ⟨name :: front, last, rfl, hlast, hshort, .into hup hlong hnode hpasses,
                    hend⟩

/-!
# What was put
-/

section Put

variable (way : Place.Way)

theorem ofPath_of_isOpen (h : (disk.standing way.place).isOpen = true) :
    Cause.ofPath? (disk.pathOf way.place) = none ∧
      (disk.standingFrom way.origin way.names).isOpen = true := by
  rw [way.standing_eq] at h
  cases hcause : Cause.ofPath? (disk.pathOf way.place) with
  | none =>
      rw [hcause] at h
      exact ⟨rfl, h⟩
  | some cause =>
      rw [hcause] at h
      cases h

theorem standing_put (h : (disk.standing way.place).isOpen = true) (node : Node) :
    (disk.put way.place node).standing way.place = .ofNode node := by
  rcases ofPath_of_isOpen way h with ⟨hpath, hopen⟩
  rcases passes_of_isOpen hopen with ⟨front, last, hnames, hup, hshort, hpasses, hnode⟩
  have hagree := agreeOff_put disk way.place node
  have hput := node_put disk way.place way.place.plain node
  rw [if_pos rfl] at hput
  rw [way.plain_eq] at hagree hput
  rw [way.standing_eq, pathOf_put, hpath]
  dsimp only
  rw [hnames] at hput ⊢
  exact (hpasses.agree hnode (hnames ▸ hagree)).standingFrom_concat hup hshort hput

theorem standing_outer (h : (disk.standing way.place).isOpen = true)
    (hpath : Cause.ofPath? (disk.pathOf way.place.dropLast) = none) :
    disk.standing way.place.dropLast = .folder := by
  rcases passes_of_isOpen (ofPath_of_isOpen way h).2 with ⟨front, last, hnames, _, _, hpasses, _⟩
  have hne : way.names ≠ [] := by
    rw [hnames]
    exact List.append_ne_nil_of_right_ne_nil _ (List.cons_ne_nil _ _)
  have houter : way.outer.names = front := by
    show way.names.dropLast = front
    rw [hnames, List.dropLast_concat]
  rw [← Place.Way.place_outer hne] at hpath ⊢
  rw [way.outer.standing_eq, hpath, houter]
  exact hpasses.standingFrom

end Put

/-!
# Folders
-/

theorem ofPath_of_makeFolder {made : Disk} {place : Place}
    (h : disk.makeFolder place = (.ok (), made)) : Cause.ofPath? (made.pathOf place) = none := by
  have hpath : Cause.ofPath? (disk.pathOf place) = none := by
    cases hcause : Cause.ofPath? (disk.pathOf place) with
    | none => rfl
    | some cause =>
        have hbarred : disk.standing place = .barred cause := by
          unfold standing
          rw [hcause]
        rw [makeFolder, hbarred] at h
        exact nomatch (Prod.mk.inj h).1
  unfold makeFolder at h
  split at h
  · rw [← (Prod.mk.inj h).2, hpath]
  · rw [← (Prod.mk.inj h).2, pathOf_put, hpath]
  · exact nomatch (Prod.mk.inj h).1
  · exact nomatch (Prod.mk.inj h).1

theorem ofPath_of_makeFolders {made : Disk} {place : Place}
    (h : disk.makeFolders place = (.ok (), made)) : Cause.ofPath? (made.pathOf place) = none := by
  unfold makeFolders at h
  generalize folderLimit = bound at h
  cases bound with
  | zero => exact nomatch (Prod.mk.inj h).1
  | succ bound =>
      rw [makeFoldersWithin] at h
      split at h
      · split at h
        · exact ofPath_of_makeFolder h
        · rename_i hrefused
          exact absurd h (hrefused _)
      · exact ofPath_of_makeFolder h

theorem makeFolders_of_folder {place : Place} (h : disk.standing place = .folder) :
    disk.makeFolders place = (.ok (), disk) := by
  have hthere : ¬(disk.standing place = .barred .missing ∧ 1 < place.length) := by
    rw [h]
    exact fun hand => nomatch hand.1
  have hlimit : folderLimit = 985 + 1 := rfl
  rw [makeFolders, hlimit, makeFoldersWithin, if_neg hthere, makeFolder, h]

/-!
# Files
-/

theorem file_eq_some {place : Place} {content : List Octet} :
    disk.file? place = some content ↔ disk.standing place = .file content := by
  unfold file?
  cases disk.standing place <;> simp

theorem write_eq_ok {after : Disk} {place : Place} {content : List Octet}
    (h : disk.write place content = (.ok (), after)) :
    (disk.standing place).isOpen = true ∧ after = disk.put place (.file content) := by
  unfold write at h
  split at h
  · rename_i hfile
    exact ⟨by rw [hfile]; rfl, (Prod.mk.inj h).2.symm⟩
  · rename_i hfree
    exact ⟨by rw [hfree]; rfl, (Prod.mk.inj h).2.symm⟩
  · exact nomatch (Prod.mk.inj h).1
  · exact nomatch (Prod.mk.inj h).1

theorem write_of_file {place : Place} {old : List Octet} (h : disk.standing place = .file old)
    (content : List Octet) :
    disk.write place content = (.ok (), disk.put place (.file content)) := by
  rw [write, h]

theorem occupied_of_file {place : Place} {content : List Octet}
    (h : disk.standing place = .file content) : disk.occupied place = .ok true := by
  rw [occupied, look, h]
  rfl

theorem read_of_file {place : Place} {content : List Octet}
    (h : disk.standing place = .file content) : disk.read place = .ok content := by
  rw [read, h]

theorem standing_of_read {place : Place} {content : List Octet}
    (h : disk.read place = .ok content) : disk.standing place = .file content := by
  unfold read at h
  split at h
  · rename_i hfile
    rw [hfile, Except.ok.inj h]
  · cases h
  · cases h
  · cases h

end Disk

end ContainerDesk
