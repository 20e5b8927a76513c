import ContainerDesk.Action
import ContainerDesk.Engine.Failure
import ContainerDesk.Journal.Entry

/-!
# Sessions with the engine

The engine answers calls, and how it will answer them is part of the state of a
session.  So is the list of calls that reached it, with the two calls that watch over
a connection: waiting for it for some seconds, and giving it up without waiting.
-/

namespace ContainerDesk

inductive Connection where
  | made
  | failed (failure : EngineFailure)
  /-- No end within any time that the desk is willing to wait. -/
  | hanging

structure Engine where
  connection : Connection
  /-- The summaries of all containers. -/
  listing : Except EngineFailure (List Value)
  /-- The failures of the lookups to come; later lookups succeed. -/
  lookups : List (Option EngineFailure)
  start : Option EngineFailure
  unpause : Option EngineFailure
  stop : Option EngineFailure
  restart : Option EngineFailure
  remove : Option EngineFailure
  logs : Except EngineFailure Value

namespace Engine

def idle : Engine :=
  {
    connection := .made
    listing := .ok []
    lookups := []
    start := none
    unpause := none
    stop := none
    restart := none
    remove := none
    logs := .ok (.bytes [])
  }

end Engine

/-- A call that reached the engine, or the watch over a connection. -/
inductive EngineCall where
  | connect (address : Text)
  | connectByEnvironment
  | wait (seconds : Int)
  | giveUp
  | list
  | get (id : Text)
  | start
  | unpause
  | stop
  | restart
  | remove (force : Bool)
  | logs (tail : Int)
deriving DecidableEq

structure EngineSession where
  engine : Engine
  calls : List EngineCall
  journal : Journal

namespace EngineSession

def fresh (engine : Engine) : EngineSession :=
  ⟨engine, [], []⟩

def call (call : EngineCall) : Action EngineSession Engine :=
  fun session => (.ok session.engine, { session with calls := session.calls ++ [call] })

def note (level : Level) (speaker : Speaker) (message : Text) : Action EngineSession Unit :=
  Action.change fun session =>
    { session with journal := session.journal ++ [⟨level, speaker, message⟩] }

def expectSuccess : Option EngineFailure → Action EngineSession Unit
  | none => pure ()
  | some failure => Action.fail (.engineFailed failure)

def afterLookup : Action EngineSession Unit :=
  Action.change fun session =>
    { session with engine := { session.engine with lookups := session.engine.lookups.drop 1 } }

def get (id : Text) : Action EngineSession Unit := do
  let engine ← call (.get id)
  afterLookup
  expectSuccess (engine.lookups.head?.getD none)

/-- Turns the expected failures of the engine into the one fault that callers know. -/
def guarded {α : Type} (work : Action EngineSession α) : Action EngineSession α :=
  fun session =>
    match work session with
    | (.error (.engineFailed failure), after) =>
        if failure.isExpected then
          (.error (.engineUnavailable failure.message), after)
        else
          (.error (.engineFailed failure), after)
    | other => other

end EngineSession

end ContainerDesk
