import ContainerDesk.Storage.Refusal

/-!
# The disk

Files and folders.  A place is the list of names that lead to it from a root folder,
which always is a folder; two dots lead back to the folder above, but only out of a
folder that is there.  A place that starts with an empty name does not start at the root
folder but at the top of the whole file tree.  Two empty names are the same top, written
in another way.

An operation ends well or with a refusal, and what it did before a refusal stays done.
-/

namespace ContainerDesk

/-- Where a file or a folder is: the names on the way from the root. -/
abbrev Place := List Text

namespace Place

def up : Text := Text.of ".."

def top : Place := [[]]

def isFromTop (place : Place) : Bool :=
  place.head? = some []

def within (place folder : Place) : Place :=
  if place.isFromTop then place else folder ++ place

/-- The folder above a place without ways back.  Above the top there is nothing. -/
def above (place : Place) : Place :=
  if place.getLast? = some [] then place else place.dropLast

def step (seen : Place) (name : Text) : Place :=
  if name = up then seen.above else seen ++ [name]

/-- The place without ways back that a place leads to. -/
def direct (place : Place) : Place :=
  place.foldl step []

/-- The one way to write a place, with the names as the system holds them. -/
def plain (place : Place) : Place :=
  match place.direct with
  | [] :: rest => top ++ (rest.dropWhile (·.isEmpty)).map SystemText.held
  | place => place.map SystemText.held

end Place

inductive Node where
  | file (content : List Octet)
  | folder
deriving DecidableEq

structure Disk where
  /-- The path of the root folder. -/
  root : Text
  /-- What there is, in the order in which it was made. -/
  nodes : List (Place × Node)

namespace Disk

/-- The folders that stand at the top of a file tree. -/
def usualFolders : List Text :=
  ["bin", "boot", "dev", "etc", "home", "lib", "media", "mnt", "opt", "proc", "root", "run",
    "sbin", "srv", "sys", "tmp", "usr", "var"].map Text.of

/-- The file that stands in every file tree, empty at first. -/
def emptyFile : Place :=
  Place.top ++ [Text.of "dev", Text.of "null"]

/-- A root folder without anything in it, in a file tree with the usual folders. -/
def empty (root : Text) : Disk :=
  ⟨root, usualFolders.map (fun name => (Place.top ++ [name], .folder)) ++ [(emptyFile, .file [])]⟩

def slash : CodePoint := CodePoint.ofChar '/'

/-- The start of the place that a path names: one that starts with slashes starts at the top. -/
def startOf (path : Text) : Place :=
  match (path.takeWhile (· = slash)).length with
  | 0 => []
  | 2 => [[], []]
  | _ => [[]]

/-- The place that a path names.  Empty names behind its start and dots lead nowhere. -/
def placeOf (path : Text) : Place :=
  startOf path ++
    (path.pieces slash).filter fun name => !name.isEmpty && name ≠ Text.of "."

def joined (place : Place) : Text :=
  Text.joinWith (Text.of "/") place

def pathOf (disk : Disk) : Place → Text
  | [] :: [] :: rest => Text.of "//" ++ joined rest
  | [] :: rest => Text.of "/" ++ joined rest
  | place => joined (disk.root :: place)

def node? (disk : Disk) (place : Place) : Option Node :=
  disk.nodes.lookup place

/-- What a place looks like to an operation. -/
inductive Standing where
  /-- Nothing is there, but its folder is. -/
  | free
  | file (content : List Octet)
  | folder
  /-- The place cannot be reached. -/
  | barred (cause : Cause)
deriving DecidableEq

def standingFrom (disk : Disk) (seen : Place) : Place → Standing
  | [] => .folder
  | name :: rest =>
      if name = Place.up then
        standingFrom disk seen.above rest
      else if nameLimit < octetCount name then
        .barred .tooLong
      else
        let next := seen ++ [SystemText.held name]
        match disk.node? next with
        | none => if rest.isEmpty then .free else .barred .missing
        | some (.file content) => if rest.isEmpty then .file content else .barred .notFolder
        | some .folder => standingFrom disk next rest

def standing (disk : Disk) (place : Place) : Standing :=
  match Cause.ofPath? (disk.pathOf place) with
  | some cause => .barred cause
  | none =>
      match place with
      | [] :: rest => disk.standingFrom Place.top (rest.dropWhile (·.isEmpty))
      | place => disk.standingFrom [] place

def putNode (place : Place) (node : Node) : List (Place × Node) → List (Place × Node)
  | [] => [(place, node)]
  | (other, old) :: rest =>
      if other = place then (place, node) :: rest else (other, old) :: putNode place node rest

def put (disk : Disk) (place : Place) (node : Node) : Disk :=
  { disk with nodes := putNode place.plain node disk.nodes }

def remove (disk : Disk) (place : Place) : Disk :=
  { disk with nodes := disk.nodes.filter fun entry => entry.1 ≠ place.plain }

def refuse (disk : Disk) (cause : Cause) (place : Place) : Refusal :=
  ⟨cause, disk.pathOf place⟩

/-!
# Looking
-/

/-- What is at a place, if anything.  Where the way ends early there is nothing, but a way with
too long a name is refused. -/
def look (disk : Disk) (place : Place) : Except Refusal (Option Node) :=
  match disk.standing place with
  | .file content => .ok (some (.file content))
  | .folder => .ok (some .folder)
  | .barred .tooLong => .error (disk.refuse .tooLong place)
  | .free | .barred _ => .ok none

def occupied (disk : Disk) (place : Place) : Except Refusal Bool :=
  (disk.look place).map (·.isSome)

def isFolder (disk : Disk) (place : Place) : Bool :=
  disk.standing place = .folder

def file? (disk : Disk) (place : Place) : Option (List Octet) :=
  match disk.standing place with
  | .file content => some content
  | _ => none

def read (disk : Disk) (place : Place) : Except Refusal (List Octet) :=
  match disk.standing place with
  | .file content => .ok content
  | .folder => .error (disk.refuse .isFolder place)
  | .free => .error (disk.refuse .missing place)
  | .barred cause => .error (disk.refuse cause place)

/-!
# Changing
-/

abbrev Ending := Except Refusal Unit × Disk

def refusing (disk : Disk) (cause : Cause) (place : Place) : Ending :=
  (.error (disk.refuse cause place), disk)

def makeFolder (disk : Disk) (place : Place) : Ending :=
  match disk.standing place with
  | .folder => (.ok (), disk)
  | .free => (.ok (), disk.put place .folder)
  | .file _ => disk.refusing .exists place
  | .barred cause => disk.refusing cause place

/-- How many missing folders can be made at once. -/
def folderLimit : Nat := 986

def makeFoldersWithin (disk : Disk) : (bound : Nat) → Place → Ending
  | 0, place => disk.refusing .missingTooMany place
  | bound + 1, place =>
      if disk.standing place = .barred .missing ∧ 1 < place.length then
        match makeFoldersWithin disk bound place.dropLast with
        | (.ok (), disk) => disk.makeFolder place
        | refused => refused
      else
        disk.makeFolder place

/-- Makes a folder and all folders on the way to it; those that are there are fine. -/
def makeFolders (disk : Disk) (place : Place) : Ending :=
  disk.makeFoldersWithin folderLimit place

/-- Writes a file, over what was in it. -/
def write (disk : Disk) (place : Place) (content : List Octet) : Ending :=
  match disk.standing place with
  | .file _ | .free => (.ok (), disk.put place (.file content))
  | .folder => disk.refusing .isFolder place
  | .barred cause => disk.refusing cause place

def writeWithFolders (disk : Disk) (place : Place) (content : List Octet) : Ending :=
  match disk.makeFolders place.dropLast with
  | (.ok (), disk) => disk.write place content
  | refused => refused

def delete (disk : Disk) (place : Place) : Ending :=
  match disk.standing place with
  | .file _ => (.ok (), disk.remove place)
  | .folder => disk.refusing .isFolder place
  | .free => disk.refusing .missing place
  | .barred cause => disk.refusing cause place

/-- Moves the file at one place to another, over the file that was there.  Where there is no file,
nothing moves. -/
def move (disk : Disk) (source target : Place) : Ending :=
  match disk.file? source with
  | none => (.ok (), disk)
  | some content =>
      match disk.standing target with
      | .file _ | .free =>
          (.ok (), ((disk.remove source).remove target).put target (.file content))
      | .folder => disk.refusing .isFolder target
      | .barred cause => disk.refusing cause target

end Disk

end ContainerDesk
