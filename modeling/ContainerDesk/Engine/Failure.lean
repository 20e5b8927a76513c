import ContainerDesk.Text.Basic

/-!
# Failures of the container engine

How a call to the engine can fail.  The engine's own refusals and failures of the
transport to it are the failures that the desk expects; the others come from
elsewhere and are passed on.
-/

namespace ContainerDesk

inductive EngineFailure.Origin where
  /-- The engine refused. -/
  | engine
  /-- The engine knows no such container. -/
  | notFound
  /-- The request did not get through. -/
  | transport
  /-- The connection broke. -/
  | connection
  /-- A fault inside the client. -/
  | client
  /-- No answer in time. -/
  | timeout
  /-- An argument that the client refuses. -/
  | argument
deriving DecidableEq

structure EngineFailure where
  origin : EngineFailure.Origin
  message : Text
deriving DecidableEq

namespace EngineFailure

def isRefusal (failure : EngineFailure) : Bool :=
  match failure.origin with
  | .engine | .notFound => true
  | _ => false

/-- Is the failure one of the engine or of the transport to it? -/
def isExpected (failure : EngineFailure) : Bool :=
  match failure.origin with
  | .engine | .notFound | .transport | .connection => true
  | _ => false

end EngineFailure

end ContainerDesk
