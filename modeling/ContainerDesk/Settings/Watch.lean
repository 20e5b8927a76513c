import ContainerDesk.Settings.Store

/-!
# Telling those who watch

When a setting gets a value, everyone who watched at that moment is told, in the
order of registration.  An observer may look at everything, change its surroundings,
and then act on the store: register and unregister observers, and set further
values, whose observers are told in turn before the first round goes on.

Whatever fails in an observer ends that observer's acts and is noted in the journal;
the round goes on, and the value stays stored.
-/

namespace ContainerDesk

structure Scene (σ : Type) where
  store : Store
  surroundings : σ

inductive Act where
  | register (observer : Observer)
  | unregister (observer : Observer)
  | assign (sectionName key : Text) (value : Value)

/-- How an observer reacts to a change: what becomes of the surroundings, what it notes, then
its acts, and whether it fails in the end. -/
structure Reaction (σ : Type) where
  surroundings : σ
  notes : Journal
  acts : List Act
  fails : Bool

abbrev Reactions (σ : Type) := Observer → Change → Scene σ → Reaction σ

namespace Scene

variable {σ : Type}

def mapStore (scene : Scene σ) (f : Store → Store) : Scene σ :=
  { scene with store := f scene.store }

def failureEntry (observer : Observer) (change : Change) : Entry :=
  {
    level := .error
    speaker := .registry
    message := Text.of "Settings observer " ++ observer.label ++ Text.of " failed on " ++
      change.settingName
  }

def perform (set : Text → Text → Value → Action (Scene σ) Unit) : Act → Action (Scene σ) Unit
  | .register observer => Action.change (·.mapStore (·.register observer))
  | .unregister observer => Action.change (·.mapStore (·.unregister observer))
  | .assign sectionName key value => set sectionName key value

def performAll (set : Text → Text → Value → Action (Scene σ) Unit) :
    List Act → Action (Scene σ) Unit
  | [] => pure ()
  | act :: rest => do
      perform set act
      performAll set rest

def tell (reactions : Reactions σ) (set : Text → Text → Value → Action (Scene σ) Unit)
    (change : Change) (scene : Scene σ) (observer : Observer) : Scene σ :=
  let reaction := reactions observer change scene
  let noted : Scene σ := ⟨scene.store.noteAll reaction.notes, reaction.surroundings⟩
  match performAll set reaction.acts noted with
  | (.ok (), after) =>
      if reaction.fails then
        after.mapStore (·.noteAll [failureEntry observer change])
      else
        after
  | (.error _, after) => after.mapStore (·.noteAll [failureEntry observer change])

/-- Sets a value and tells those who watch; values that they set are told to a limited depth. -/
def setWithin (reactions : Reactions σ) :
    (depth : Nat) → (sectionName key : Text) → (value : Value) → Action (Scene σ) Unit
  | 0, _, _, _ => Action.fail (.nestingTooDeep [])
  | depth + 1, sectionName, key, value => fun scene =>
      match scene.store.assign sectionName key value with
      | .error fault => (.error fault, scene)
      | .ok (old, store) =>
          (.ok (), store.observers.foldl
            (tell reactions (setWithin reactions depth) ⟨sectionName, key, old, value⟩)
            { scene with store })

/-- How deep values may be set by those who are told about values. -/
def nestingLimit : Nat := 250

def set (reactions : Reactions σ) (sectionName key : Text) (value : Value) :
    Action (Scene σ) Unit :=
  setWithin reactions nestingLimit sectionName key value

end Scene

end ContainerDesk
