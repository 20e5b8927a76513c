import ContainerDesk.Journal.Entry
import ContainerDesk.Settings.Schema

/-!
# Sections of the settings

A section holds the current value of each of its fields.  A value is checked before
it is stored, and an update from a file stores all of its values or none.

Keys, fields and their order are fixed when a section is made: no operation on it
changes them.
-/

namespace ContainerDesk

structure Setting where
  key : Text
  field : Field
  value : Value

structure Section where
  name : Text
  settings : List Setting

namespace Section

def fresh (name : Text) (fields : SectionSchema) : Section :=
  ⟨name, fields.map fun entry => ⟨entry.1, entry.2, entry.2.default⟩⟩

def setting? (part : Section) (key : Text) : Option Setting :=
  part.settings.find? fun setting => setting.key = key

def find (part : Section) (key : Text) : Except Fault Setting :=
  match part.setting? key with
  | some setting => .ok setting
  | none => .error (.unknownSetting part.name (some key))

def get (part : Section) (key : Text) : Except Fault Value :=
  (part.find key).map (·.value)

def entries (part : Section) : List (Text × Value) :=
  part.settings.map fun setting => (setting.key, setting.value)

/-- The section with a value under a key, unchecked. -/
def put (part : Section) (key : Text) (value : Value) : Section :=
  { part with
    settings := part.settings.map fun setting =>
      if setting.key = key then { setting with value } else setting }

def putAll (part : Section) (entries : List (Text × Value)) : Section :=
  entries.foldl (fun part entry => part.put entry.1 entry.2) part

def settingName (part : Section) (key : Text) : Text :=
  part.name ++ Text.of "." ++ key

def check (part : Section) (key : Text) (value : Value) : Except Fault Unit :=
  match part.find key with
  | .error fault => .error fault
  | .ok setting =>
      match setting.field.complaint value with
      | .error fault => .error fault
      | .ok none => .ok ()
      | .ok (some reason) => .error (.refused (part.settingName key) value reason)

def assign (part : Section) (key : Text) (value : Value) : Except Fault (Value × Section) :=
  match part.check key value with
  | .error fault => .error fault
  | .ok () =>
      match part.get key with
      | .error fault => .error fault
      | .ok old => .ok (old, part.put key value)

/-- Adds an element to the list under a key.  The list itself grows, so nothing is checked. -/
def append (part : Section) (key : Text) (item : Value) : Except Fault (Value × Section) :=
  match part.get key with
  | .error fault => .error fault
  | .ok (.list items) =>
      let longer := Value.list (items ++ [item])
      .ok (longer, part.put key longer)
  | .ok _ => .error .noOperation

def ignoredEntry (part : Section) (key : Text) : Entry :=
  {
    level := .warning
    speaker := .sections
    message := Text.of "Ignoring unknown setting " ++ part.settingName key
  }

/-- The entries whose keys the section has, all of them accepted, and what the journal says
about the others.  The first refused value ends it. -/
def sift (part : Section) :
    List (Text × Value) → Except Fault (List (Text × Value)) × Journal
  | [] => (.ok [], [])
  | (key, value) :: rest =>
      match part.setting? key with
      | none =>
          let (accepted, notes) := sift part rest
          (accepted, part.ignoredEntry key :: notes)
      | some _ =>
          match part.check key value with
          | .error fault => (.error fault, [])
          | .ok () =>
              let (accepted, notes) := sift part rest
              (accepted.map ((key, value) :: ·), notes)

/-- Stores the values of all entries that the section has a key for, or none of them. -/
def update (part : Section) (entries : List (Text × Value)) : Except Fault Section × Journal :=
  let (accepted, notes) := part.sift entries
  (accepted.map part.putAll, notes)

def reset (part : Section) : Section :=
  { part with
    settings := part.settings.map fun setting => { setting with value := setting.field.default } }

/-!
# Keys and fields stay
-/

def schema (part : Section) : SectionSchema :=
  part.settings.map fun setting => (setting.key, setting.field)

theorem schema_fresh (name : Text) (fields : SectionSchema) :
    (fresh name fields).schema = fields := by
  simp [schema, fresh, Function.comp_def]

theorem schema_put (part : Section) (key : Text) (value : Value) :
    (part.put key value).schema = part.schema := by
  simp only [schema, put, List.map_map]
  apply List.map_congr_left
  intro setting _
  by_cases h : setting.key = key <;> simp [h]

theorem schema_putAll (part : Section) (entries : List (Text × Value)) :
    (part.putAll entries).schema = part.schema := by
  induction entries generalizing part with
  | nil => rfl
  | cons entry rest ih =>
      rw [putAll, List.foldl_cons]
      exact (ih (part.put entry.1 entry.2)).trans (schema_put part entry.1 entry.2)

theorem schema_reset (part : Section) : part.reset.schema = part.schema := by
  simp [schema, reset, Function.comp_def]

end Section

end ContainerDesk
