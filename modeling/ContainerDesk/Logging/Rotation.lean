import ContainerDesk.Storage.Disk
import ContainerDesk.Text.Utf8

/-!
# Log files

A log file takes line after line.  A line that would make it reach its limit first
sends it into the archive: each archived file moves one number up, the oldest one is
dropped, and the log starts again empty.  Without a limit, or without an archive, the
file just grows.  When the disk refuses a move, for one because the name of an archived
file is too long, the line is lost and the log stays as it is.

The limit compares the octets of the file with the code points of the line.  A line
that has no octets of its own is left out.
-/

namespace ContainerDesk

/-- A log file: where it is, from which size on it is archived, and how many archived files are
kept. -/
structure LogFile where
  place : Place
  limit : Int
  archived : Int
deriving DecidableEq

namespace LogFile

def named (folder : Place) (path : Text) (limit archived : Int) : LogFile :=
  ⟨((Disk.placeOf path).within folder).direct, limit, archived⟩

def archivePlace (file : LogFile) (number : Nat) : Place :=
  file.place.dropLast ++ [file.place.getLast?.getD [] ++ Text.of "." ++ numeral number]

/-- The numbers of the archived files that move up, the highest first. -/
def movingNumbers (file : LogFile) : List Nat :=
  ((List.range file.archived.toNat).drop 1).reverse

/-- Moves archived files one number up, one after the other until the disk refuses. -/
def shift (file : LogFile) : List Nat → Disk → Disk.Ending
  | [], disk => (.ok (), disk)
  | number :: rest, disk =>
      match disk.move (file.archivePlace number) (file.archivePlace (number + 1)) with
      | (.ok (), disk) => shift file rest disk
      | refused => refused

/-- Sends the log file into the archive and starts it again. -/
def rotate (file : LogFile) (disk : Disk) : Disk.Ending :=
  if 0 < file.archived then
    match file.shift file.movingNumbers disk with
    | (.ok (), disk) =>
        match disk.move file.place (file.archivePlace 1) with
        | (.ok (), disk) => (.ok (), disk.put file.place (.file []))
        | refused => refused
    | refused => refused
  else
    (.ok (), disk)

/-- Opens the log file: it has nothing in it, unless it is there already. -/
def opened (file : LogFile) (disk : Disk) : Disk.Ending :=
  match disk.file? file.place with
  | some _ => (.ok (), disk)
  | none => disk.write file.place []

def content (file : LogFile) (disk : Disk) : List Octet :=
  (disk.file? file.place).getD []

def isFullFor (file : LogFile) (disk : Disk) (line : Text) : Bool :=
  0 < file.limit && file.limit ≤ (file.content disk).length + line.length

def extend (file : LogFile) (line : Text) (disk : Disk) : Disk :=
  match Utf8.encode line with
  | .ok octets => disk.put file.place (.file (file.content disk ++ octets))
  | .error _ => disk

def append (file : LogFile) (line : Text) (disk : Disk) : Disk :=
  if file.isFullFor disk line then
    match file.rotate disk with
    | (.ok (), disk) => file.extend line disk
    | (.error _, disk) => disk
  else
    file.extend line disk

end LogFile

end ContainerDesk
