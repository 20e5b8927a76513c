import ContainerDesk.Action
import ContainerDesk.Json.Reader
import ContainerDesk.Json.Writer
import ContainerDesk.Settings.Change
import ContainerDesk.Settings.Section
import ContainerDesk.Storage.Disk
import ContainerDesk.Text.LineEnd

/-!
# The store of settings

The store keeps the sections of the settings, the unknown sections of the file, and
those who watch.  A file is loaded as a whole or not at all: what loads makes a new
edition of all sections, and whoever still holds a section of an earlier edition
holds it as it was.

Unknown sections are not looked into and are written back as they came.  A failed
load changes nothing but the journal.
-/

namespace ContainerDesk

/-- The sections that were made together. -/
abbrev Edition := List Section

namespace Edition

def fresh : Edition :=
  Schema.sections.map fun entry => Section.fresh entry.1 entry.2

def part? (edition : Edition) (name : Text) : Option Section :=
  edition.find? fun part => part.name = name

def replace (edition : Edition) (part : Section) : Edition :=
  edition.map fun old => if old.name = part.name then part else old

/-- The edition and the unknown sections after the entries of a file, with what the journal says
about unknown keys.  The version is passed over, and the first refused value ends it. -/
def absorb (edition : Edition) (extra : List (Text × Value)) :
    List (Text × Value) → Except Fault (Edition × List (Text × Value)) × Journal
  | [] => (.ok (edition, extra), [])
  | (name, data) :: rest =>
      if name = Schema.versionKey then
        absorb edition extra rest
      else
        match edition.part? name with
        | none => absorb edition (extra ++ [(name, data)]) rest
        | some part =>
            match data with
            | .table entries =>
                match part.update entries with
                | (.error fault, notes) => (.error fault, notes)
                | (.ok updated, notes) =>
                    let (result, later) := absorb (edition.replace updated) extra rest
                    (result, notes ++ later)
            | other =>
                (.error (.refused name other (Text.of "section must be an object")), [])

/-- What a file with these entries means: defaults where it has no value. -/
def ofEntries (entries : List (Text × Value)) :
    Except Fault (Edition × List (Text × Value)) × Journal :=
  absorb fresh [] entries

end Edition

structure Store where
  /-- Where the settings file belongs. -/
  place : Place
  /-- The sections that count. -/
  live : Edition
  /-- The earlier editions, the oldest first. -/
  retired : List Edition
  /-- The unknown sections of the file, in order. -/
  extra : List (Text × Value)
  /-- Who watches, in the order of registration. -/
  observers : List Observer
  disk : Disk
  journal : Journal

namespace Store

def fresh (place : Place) (disk : Disk) : Store :=
  ⟨place, Edition.fresh, [], [], [], disk, []⟩

def noteAll (store : Store) (entries : Journal) : Store :=
  { store with journal := store.journal ++ entries }

def note (store : Store) (level : Level) (speaker : Speaker) (message : Text) : Store :=
  store.noteAll [⟨level, speaker, message⟩]

def path (store : Store) : Text :=
  store.disk.pathOf store.place

def unusable (store : Store) (reason : Text) : Fault :=
  .unusableFile store.path reason

/-!
# Values
-/

def find (store : Store) (name : Text) : Except Fault Section :=
  match store.live.part? name with
  | some part => .ok part
  | none => .error (.unknownSetting name none)

def get (store : Store) (name key : Text) : Except Fault Value :=
  match store.find name with
  | .error fault => .error fault
  | .ok part => part.get key

def replace (store : Store) (part : Section) : Store :=
  { store with live := store.live.replace part }

/-- Stores a checked value and gives the one that it replaces.  Nobody is told. -/
def assign (store : Store) (name key : Text) (value : Value) : Except Fault (Value × Store) :=
  match store.find name with
  | .error fault => .error fault
  | .ok part =>
      match part.assign key value with
      | .error fault => .error fault
      | .ok (old, part) => .ok (old, store.replace part)

def tables (store : Store) : List (Text × Value) :=
  store.live.map fun part => (part.name, .table part.entries)

/-!
# Sections that are held
-/

/-- A section that somebody holds: its name and the number of its edition. -/
structure Handle where
  edition : Nat
  sectionName : Text

def hold (store : Store) (name : Text) : Except Fault Handle :=
  (store.find name).map fun part => ⟨store.retired.length, part.name⟩

def edition? (store : Store) (number : Nat) : Option Edition :=
  (store.retired ++ [store.live])[number]?

def held (store : Store) (handle : Handle) : Except Fault Section :=
  match (store.edition? handle.edition).bind (·.part? handle.sectionName) with
  | some part => .ok part
  | none => .error (.unknownSetting handle.sectionName none)

def replaceHeld (store : Store) (handle : Handle) (part : Section) : Store :=
  if handle.edition = store.retired.length then
    store.replace part
  else
    { store with retired := store.retired.modify handle.edition (·.replace part) }

def onHeld {α : Type} (handle : Handle) (work : Section → Except Fault (α × Section)) :
    Action Store α :=
  fun store =>
    match store.held handle with
    | .error fault => (.error fault, store)
    | .ok part =>
        match work part with
        | .error fault => (.error fault, store)
        | .ok (result, part) => (.ok result, store.replaceHeld handle part)

def assignHeld (handle : Handle) (key : Text) (value : Value) : Action Store Value :=
  onHeld handle fun part => part.assign key value

def appendHeld (handle : Handle) (key : Text) (item : Value) : Action Store Value :=
  onHeld handle fun part => part.append key item

def resetHeld (handle : Handle) : Action Store Unit :=
  onHeld handle fun part => .ok ((), part.reset)

/-- Stores several values in a held section, or none of them. -/
def updateHeld (handle : Handle) (entries : List (Text × Value)) : Action Store Unit :=
  fun store =>
    match store.held handle with
    | .error fault => (.error fault, store)
    | .ok part =>
        match part.update entries with
        | (.error fault, notes) => (.error fault, store.noteAll notes)
        | (.ok part, notes) => (.ok (), (store.replaceHeld handle part).noteAll notes)

def updateAll (store : Store) (data : List (Text × List (Text × Value))) : Except Fault Store :=
  data.foldlM
    (fun store entry => do
      let handle ← store.hold entry.1
      let (result, after) := updateHeld handle entry.2 store
      result.map fun _ => after)
    store

/-!
# Observers
-/

/-- The store with an observer registered at the end, unless it is registered already. -/
def register (store : Store) (observer : Observer) : Store :=
  if observer ∈ store.observers then
    store
  else
    { store with observers := store.observers ++ [observer] }

def unregister (store : Store) (observer : Observer) : Store :=
  { store with observers := store.observers.erase observer }

/-!
# The settings file
-/

/-- What a settings file holds: the version, the unknown sections, then the known ones. -/
def content (store : Store) : Value :=
  .table ((Schema.versionKey, .text Schema.version) :: store.extra ++ store.tables)

def fileText (store : Store) : Except Fault (Option Text) :=
  match store.disk.look store.place with
  | .error refusal => .error (.refusedFile refusal)
  | .ok (some (.file octets)) =>
      match Utf8.decode octets with
      | .error fault => .error (.undecodable fault)
      | .ok t => .ok (some t)
  | .ok _ => .ok none

def parse (octets : List Octet) : Except Fault Value :=
  match Utf8.decode octets with
  | .error fault => .error (.undecodable fault)
  | .ok t =>
      let document := t.unifyLineEnds
      match Json.read document with
      | .error misreading => .error (misreading.fault document)
      | .ok value => .ok value

def onDisk (work : Disk → Disk.Ending) : Action Store Unit :=
  fun store =>
    match work store.disk with
    | (.ok (), disk) => (.ok (), { store with disk })
    | (.error refusal, disk) => (.error (.refusedFile refusal), { store with disk })

def readEntries (store : Store) : Except Fault (List (Text × Value)) :=
  match store.disk.read store.place with
  | .error refusal => .error (store.unusable refusal.message)
  | .ok octets =>
      match parse octets with
      | .error (.undecodable fault) => .error (store.unusable fault.message)
      | .error (.badValue reason) => .error (store.unusable reason)
      | .error fault => .error fault
      | .ok (.table entries) => .ok entries
      | .ok _ => .error (store.unusable (Text.of "top-level JSON value must be an object"))

/-- The fault of a refusal.  What the system refuses makes the settings file unusable; a path that
is none is a fault of its own. -/
def refused (store : Store) (refusal : Disk.Refusal) : Fault :=
  if refusal.isBySystem then store.unusable refusal.message else .refusedFile refusal

/-- Writes the settings file, and makes its folder where there is none.  The file is emptied
before the new text is encoded. -/
def save : Action Store Unit :=
  fun store =>
    match store.disk.makeFolders store.place.dropLast with
    | (.error refusal, disk) => (.error (store.refused refusal), { store with disk })
    | (.ok (), disk) =>
        let store := { store with disk }
        match Json.write store.content with
        | .error fault => (.error fault, store)
        | .ok t =>
            match disk.write store.place [] with
            | (.error refusal, _) => (.error (store.refused refusal), store)
            | (.ok (), emptied) =>
                match Utf8.encode t with
                | .error fault => (.error (.unencodable fault), { store with disk := emptied })
                | .ok octets =>
                    (.ok (), { store with disk := emptied.put store.place (.file octets) })

/-- The store with a new edition that counts from now on. -/
def adopt (store : Store) (edition : Edition) (extra : List (Text × Value)) : Store :=
  { store with
    live := edition
    retired := store.retired ++ [store.live]
    extra }

/-- Loads the settings file; where there is none, writes one. -/
def load : Action Store Unit :=
  fun store =>
    match store.disk.occupied store.place with
    | .error refusal => (.error (.refusedFile refusal), store)
    | .ok true =>
        match store.readEntries with
        | .error fault => (.error fault, store)
        | .ok entries =>
            match Edition.ofEntries entries with
            | (.error fault, notes) => (.error fault, store.noteAll notes)
            | (.ok (edition, extra), notes) =>
                (.ok (), ((store.adopt edition extra).noteAll notes).note .info .registry
                  (Text.of "Settings loaded from " ++ store.path))
    | .ok false =>
        save (store.note .info .registry
          (Text.of "Config file " ++ store.path ++ Text.of " not found, writing defaults"))

/-- Starts over with default values, no unknown sections and nobody watching. -/
def renew (store : Store) : Store :=
  { store.adopt Edition.fresh [] with observers := [] }

/-- Starts over and loads the settings file.  A file that cannot be used leaves the default
values and an entry in the journal.  From then on every change is noted.  Any other fault leaves
all as it was but for the disk and the journal. -/
def openFile : Action Store Unit :=
  fun store =>
    match load store.renew with
    | (.ok (), after) => (.ok (), after.register .changeJournal)
    | (.error fault, after) =>
        if fault.isAboutSettings then
          (.ok (), (after.note .warning .start
            (Text.of "Using default settings, config could not be loaded: " ++
              fault.message)).register .changeJournal)
        else
          (.error fault, { store with disk := after.disk, journal := after.journal })

end Store

end ContainerDesk
