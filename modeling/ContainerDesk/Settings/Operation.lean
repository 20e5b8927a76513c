import ContainerDesk.Settings.Watch

/-!
# Operations on the settings

All that callers can do to the store of settings, one operation at a time.  An
operation ends with a value or with a fault, and a run goes on after a fault.
-/

namespace ContainerDesk

/-- A section that an operation works on: the one that counts now, or one that is held. -/
inductive Target where
  | live (sectionName : Text)
  | held (handle : Store.Handle)

inductive Operation where
  | set (sectionName key : Text) (value : Value)
  | append (sectionName key : Text) (item : Value)
  | assign (target : Target) (key : Text) (value : Value)
  | update (target : Target) (entries : List (Text × Value))
  | reset (target : Target)
  | register (observer : Observer)
  | unregister (observer : Observer)
  | load
  | save
  | renew
  | openFile

namespace Scene

variable {σ : Type}

def onStore {α : Type} (action : Action Store α) : Action (Scene σ) α :=
  Action.on (·.store) (fun scene store => { scene with store }) action

def handleOf (target : Target) : Action (Scene σ) Store.Handle :=
  fun scene =>
    match target with
    | .live sectionName => (scene.store.hold sectionName, scene)
    | .held handle => (.ok handle, scene)

def silently (action : Action (Scene σ) Unit) : Action (Scene σ) Value := do
  action
  pure .null

def run (reactions : Reactions σ) : Operation → Action (Scene σ) Value
  | .set sectionName key value => silently (set reactions sectionName key value)
  | .append sectionName key item => do
      let handle ← handleOf (.live sectionName)
      onStore (Store.appendHeld handle key item)
  | .assign target key value => do
      let handle ← handleOf target
      onStore (Store.assignHeld handle key value)
  | .update target entries => do
      let handle ← handleOf target
      silently (onStore (Store.updateHeld handle entries))
  | .reset target => do
      let handle ← handleOf target
      silently (onStore (Store.resetHeld handle))
  | .register observer => silently (onStore (Action.change (·.register observer)))
  | .unregister observer => silently (onStore (Action.change (·.unregister observer)))
  | .load => silently (onStore Store.load)
  | .save => silently (onStore Store.save)
  | .renew => silently (onStore (Action.change (·.renew)))
  | .openFile => silently (onStore Store.openFile)

/-- The scene after several operations, those that ended with a fault included. -/
def after (reactions : Reactions σ) (scene : Scene σ) (operations : List Operation) : Scene σ :=
  operations.foldl (fun scene operation => (run reactions operation scene).2) scene

end Scene

end ContainerDesk
