import ContainerDesk.Engine.Address
import ContainerDesk.Engine.Operation
import ContainerDesk.Grouping.Snapshot
import ContainerDesk.Value.Number

/-!
# Access to the engine

Operations by the settings: where the engine is, and how long a connection may take.
Each operation makes a connection of its own.  A connection that takes too long is
given up without waiting for its end.

What changes containers answers whether it was done; the fault itself goes to the
journal.
-/

namespace ContainerDesk

abbrev SettingsSource := Text → Text → Except Fault Value

structure Client where
  address : Text
  /-- Did the connection come to an end?  Nothing can be asked of one that hangs. -/
  isReady : Bool

namespace Access

def engineSection : Text :=
  Text.of "docker"

/-- The address of the engine; an empty one leaves the choice to the environment. -/
def address (settings : SettingsSource) : Except Fault Text := do
  let value ← settings engineSection (Text.of "socket")
  let raw ← (value.orElse (.text [])).shown
  .ok (normalizeAddress raw)

def addressLabel (address : Text) : Text :=
  if address.isEmpty then Text.of "env" else address

def isTimeout (connection : Connection) : Except Fault Client → Bool
  | .error (.engineFailed failure) => failure.origin = .timeout
  | .error _ => false
  | .ok _ =>
      match connection with
      | .hanging => true
      | _ => false

def dial (address : Text) : Action EngineSession Client := do
  let engine ← EngineSession.call
    (if address.isEmpty then .connectByEnvironment else .connect address)
  match engine.connection with
  | .failed failure =>
      if failure.isRefusal then
        EngineSession.note .error .engineClient
          (Text.of "Docker client init error via " ++ addressLabel address ++ Text.of ": " ++
            failure.message)
        Action.fail (.engineUnavailable failure.message)
      else
        Action.fail (.engineFailed failure)
  | .hanging => pure ⟨address, false⟩
  | .made => pure ⟨address, true⟩

def dialWithin (address : Text) (seconds : Int) : Action EngineSession Client := do
  let result ← Action.attempt (dial address)
  let engine ← EngineSession.call (.wait seconds)
  if isTimeout engine.connection result then
    EngineSession.note .error .provider
      (Text.of "Docker client creation timeout for " ++ addressLabel address ++
        Text.of " after " ++ integerNumeral seconds ++ Text.of " seconds")
    let _ ← EngineSession.call .giveUp
    Action.fail (.engineUnavailable
      (Text.of "Connection timeout after " ++ integerNumeral seconds ++ Text.of " seconds"))
  else
    let _ ← EngineSession.call .giveUp
    Action.settle result

def connect (settings : SettingsSource) : Action EngineSession Client := do
  let address ← Action.settle (address settings)
  let limited ← Action.settle (settings engineSection (Text.of "connection_timeout_enabled"))
  let limit ← Action.settle (settings engineSection (Text.of "connection_timeout_sec"))
  let seconds ← Action.settle (limit.orElse (.int 0)).toInteger
  if limited.isTruthy && 0 < seconds then
    dialWithin address seconds
  else
    dial address

def connected {α : Type} (settings : SettingsSource) (work : Action EngineSession α) :
    Action EngineSession α := do
  let client ← connect settings
  if client.isReady then work else Action.fail .noOperation

def fetchContainers (settings : SettingsSource) : Action EngineSession (List Container) :=
  connected settings EngineSession.listContainers

def fetchGroups (settings : SettingsSource) : Action EngineSession (List Group) := do
  let containers ← fetchContainers settings
  let groups := Grouping.groupContainers containers
  Action.change fun session =>
    { session with journal := session.journal ++ [Grouping.groupingEntry containers groups] }
  pure groups

/-- Gives an answer in the place of the fault that the engine is unavailable, which goes to the
journal. -/
def answering {α : Type} (complaint : Text) (answer : α) (work : Action EngineSession α) :
    Action EngineSession α := do
  match ← Action.attempt work with
  | .error (.engineUnavailable reason) =>
      EngineSession.note .error .provider (complaint ++ Text.of ": " ++ reason)
      pure answer
  | result => Action.settle result

def act (settings : SettingsSource) (verb id : Text) (work : Action EngineSession Unit) :
    Action EngineSession Bool :=
  answering (Text.of "Cannot " ++ verb ++ Text.of " container " ++ id) false do
    connected settings work
    pure true

def start (settings : SettingsSource) (id : Text) : Action EngineSession Bool :=
  act settings (Text.of "start") id (EngineSession.startContainer id)

def stop (settings : SettingsSource) (id : Text) : Action EngineSession Bool :=
  act settings (Text.of "stop") id (EngineSession.stopContainer id)

def restart (settings : SettingsSource) (id : Text) : Action EngineSession Bool :=
  act settings (Text.of "restart") id (EngineSession.restartContainer id)

def remove (settings : SettingsSource) (id : Text) (force : Bool) : Action EngineSession Bool :=
  act settings (Text.of "remove") id (EngineSession.removeContainer id force)

/-- The last lines of a container's log; nothing where the engine is unavailable. -/
def fetchLogs (settings : SettingsSource) (id : Text) (tail : Int) : Action EngineSession Text :=
  answering (Text.of "Cannot fetch logs for " ++ id) []
    (connected settings (EngineSession.fetchLogs id tail))

end Access

end ContainerDesk
