import ContainerDesk.Proofs.Engine.Access

/-!
# The time for connecting

A limit on the time for connecting changes nothing about a connection that ends in time:
it gives the same connection or the same fault, and notes the same.  Only one that hangs,
or ends with a timeout of its own, is given up with a fault that says so.

The watch over a connection ends with it, once and before the engine is asked for anything,
and without a limit there is none.
-/

namespace ContainerDesk

open ContainerDesk.Action

/-- Is a call about the connection, and not one of the requests behind it? -/
def EngineCall.isAboutConnecting : EngineCall → Bool
  | .connect _ | .connectByEnvironment | .wait _ | .giveUp => true
  | _ => false

/-!
# Requests behind a connection
-/

namespace EngineSession

/-- Has a session made the given calls, and after them none that is about the connection? -/
def IsBehind (made : List EngineCall) (session : EngineSession) : Prop :=
  ∃ later, session.calls = made ++ later ∧ ∀ call ∈ later, call.isAboutConnecting = false

variable {α : Type} {made : List EngineCall} {P : EngineSession → Prop}

theorem keeps_note (level : Level) (speaker : Speaker) (message : Text) :
    Keeps (IsBehind made) (note level speaker message) :=
  keeps_change fun _ h => h

end EngineSession

namespace Access

open EngineSession (IsBehind)

variable {α : Type} {made : List EngineCall} {settings : SettingsSource} {session : EngineSession}

variable {address : Text} {isLimited : Bool} {seconds others : Int}

def hanging : EngineSession :=
  .fresh { Engine.idle with connection := .hanging }

end Access

end ContainerDesk
