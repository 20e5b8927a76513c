import ContainerDesk.Fault

/-!
# Actions

An action works on a state and ends with a value or with a fault.  What it did to
the state before a fault stays done.
-/

namespace ContainerDesk

/-- A step that works on a state of type `σ` and ends with a value or a fault. -/
def Action (σ α : Type) : Type :=
  σ → Except Fault α × σ

namespace Action

variable {σ τ α β : Type}

def done (value : α) : Action σ α :=
  fun state => (.ok value, state)

def andThen (first : Action σ α) (next : α → Action σ β) : Action σ β :=
  fun state =>
    match first state with
    | (.ok value, state) => next value state
    | (.error fault, state) => (.error fault, state)

instance : Monad (Action σ) where
  pure := done
  bind := andThen

def fail (fault : Fault) : Action σ α :=
  fun state => (.error fault, state)

def current : Action σ σ :=
  fun state => (.ok state, state)

def change (f : σ → σ) : Action σ Unit :=
  fun state => (.ok (), f state)

def settle (result : Except Fault α) : Action σ α :=
  fun state => (result, state)

/-- Gives what another action ends with, a fault too. -/
def attempt (action : Action σ α) : Action σ (Except Fault α) :=
  fun state =>
    let (result, state) := action state
    (.ok result, state)

def on (part : σ → τ) (withPart : σ → τ → σ) (action : Action τ α) : Action σ α :=
  fun state =>
    let (result, inner) := action (part state)
    (result, withPart state inner)

/-!
# What an action does to a state
-/

theorem pure_apply (value : α) (state : σ) :
    (pure value : Action σ α) state = (.ok value, state) := rfl

theorem bind_apply (first : Action σ α) (next : α → Action σ β) (state : σ) :
    (first >>= next) state =
      match first state with
      | (.ok value, state) => next value state
      | (.error fault, state) => (.error fault, state) := rfl

theorem bind_of_ok {first : Action σ α} {next : α → Action σ β} {state after : σ} {value : α}
    (h : first state = (.ok value, after)) : (first >>= next) state = next value after := by
  rw [bind_apply, h]

theorem bind_of_error {first : Action σ α} {next : α → Action σ β} {state after : σ}
    {fault : Fault} (h : first state = (.error fault, after)) :
    (first >>= next) state = (.error fault, after) := by
  rw [bind_apply, h]

end Action

end ContainerDesk
