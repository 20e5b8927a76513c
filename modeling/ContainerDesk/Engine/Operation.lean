import ContainerDesk.Engine.Session
import ContainerDesk.Engine.Summary
import ContainerDesk.Text.Casing

/-!
# Operations on containers

What the desk asks a connected engine for.  Expected failures of the engine end an
operation with the one fault that callers know; others are passed on as they are.

A container that cannot be started because it is paused is taken out of its pause
instead.
-/

namespace ContainerDesk

namespace EngineSession

/-- All containers, running or not. -/
def listContainers : Action EngineSession (List Container) := do
  let summaries ← guarded do
    let engine ← call .list
    match engine.listing with
    | .ok summaries => pure summaries
    | .error failure => Action.fail (.engineFailed failure)
  Action.settle (Summary.toContainers summaries)

def speaksOfPause (message : Text) : Bool :=
  (Text.of "paused").occursIn message.lower

def startPlainly (id : Text) : Action EngineSession Unit := do
  get id
  let engine ← call .start
  expectSuccess engine.start

def endPause (id : Text) : Action EngineSession Unit := do
  get id
  let engine ← call .unpause
  expectSuccess engine.unpause

/-- Starts a container, or ends its pause. -/
def startContainer (id : Text) : Action EngineSession Unit :=
  fun session =>
    match guarded (startPlainly id) session with
    | (.error (.engineUnavailable message), after) =>
        if speaksOfPause message then
          guarded (endPause id) after
        else
          (.error (.engineUnavailable message), after)
    | other => other

def stopContainer (id : Text) : Action EngineSession Unit :=
  guarded do
    get id
    let engine ← call .stop
    expectSuccess engine.stop

def restartContainer (id : Text) : Action EngineSession Unit :=
  guarded do
    get id
    let engine ← call .restart
    expectSuccess engine.restart

/-- Removes a container; a running one only if forced. -/
def removeContainer (id : Text) (force : Bool) : Action EngineSession Unit :=
  guarded do
    get id
    let engine ← call (.remove force)
    expectSuccess engine.remove

/-- How many lines of a log the desk asks for. -/
def usualTail : Int := 500

/-- The text of log data: octets are read as UTF-8, and what is no part of a character is left
out. -/
def logText : Value → Except Fault Text
  | .bytes octets => .ok (Utf8.decodeLenient octets)
  | value => value.shown

def fetchLogs (id : Text) (tail : Int) : Action EngineSession Text := do
  let data ← guarded do
    get id
    let engine ← call (.logs tail)
    match engine.logs with
    | .ok data => pure data
    | .error failure => Action.fail (.engineFailed failure)
  Action.settle (logText data)

end EngineSession

end ContainerDesk
