import ContainerDesk.Action

/-!
# What actions keep and how they end

An action keeps a property of states when it never leads from a state with the property
to one without it, a fault in the end or not.  From such states it may also end only
with certain values and certain faults, and a chain of actions ends as its parts do.
-/

namespace ContainerDesk

theorem exists_ok_of_map {α β : Type} {result : Except Fault α} {f : α → β} {b : β}
    (h : result.toOption.map f = some b) : ∃ a, result = .ok a ∧ f a = b := by
  cases result with
  | error fault => cases h
  | ok a => exact ⟨a, rfl, Option.some.inj h⟩

theorem exists_of_isOk {ε α σ : Type} {ending : Except ε α × σ} (h : ending.1.isOk = true) :
    ∃ value after, ending = (.ok value, after) := by
  rcases ending with ⟨result, after⟩
  cases result with
  | error fault => cases h
  | ok value => exact ⟨value, after, rfl⟩

namespace Action

theorem bind_pure_eq {σ α : Type} (action : Action σ α) : (action >>= pure) = action := by
  funext state
  rw [bind_apply]
  rcases action state with ⟨result, after⟩
  cases result with
  | ok value => rfl
  | error fault => rfl

theorem bind_bind_eq {σ α β γ : Type} (first : Action σ α) (second : α → Action σ β)
    (third : β → Action σ γ) :
    (first >>= second >>= third) = first >>= fun value => second value >>= third := by
  funext state
  rw [bind_apply, bind_apply, bind_apply]
  rcases first state with ⟨result, after⟩
  cases result with
  | ok value => rfl
  | error fault => rfl

instance {σ : Type} : LawfulMonad (Action σ) :=
  LawfulMonad.mk' (Action σ) bind_pure_eq (fun _ _ => rfl) bind_bind_eq

/-- Does every state with a property still have it after the action? -/
def Keeps {σ α : Type} (P : σ → Prop) (action : Action σ α) : Prop :=
  ∀ state, P state → P (action state).2

variable {σ τ α β : Type} {P : σ → Prop}

theorem keeps_pure (value : α) : Keeps P (pure value : Action σ α) :=
  fun _ h => h

theorem keeps_fail (fault : Fault) : Keeps P (fail fault : Action σ α) :=
  fun _ h => h

theorem keeps_change {f : σ → σ} (hf : ∀ state, P state → P (f state)) : Keeps P (change f) :=
  hf

theorem keeps_settle (result : Except Fault α) : Keeps P (settle result) :=
  fun _ h => h

theorem holds_bind {first : Action σ α} {next : α → Action σ β} {state : σ}
    (hfirst : P (first state).2) (hnext : ∀ value, Keeps P (next value)) :
    P ((first >>= next) state).2 := by
  rw [bind_apply]
  rcases heq : first state with ⟨result, after⟩
  rw [heq] at hfirst
  cases result with
  | error fault => exact hfirst
  | ok value => exact hnext value after hfirst

theorem keeps_bind {first : Action σ α} {next : α → Action σ β} (hfirst : Keeps P first)
    (hnext : ∀ value, Keeps P (next value)) : Keeps P (first >>= next) :=
  fun state h => holds_bind (hfirst state h) hnext

/-!
# How actions end
-/

def Within (values : α → Prop) (faults : Fault → Prop) : Except Fault α → Prop
  | .ok value => values value
  | .error fault => faults fault

theorem Within.mono {values values' : α → Prop} {faults faults' : Fault → Prop}
    {result : Except Fault α} (h : Within values faults result)
    (hvalues : ∀ value, values value → values' value)
    (hfaults : ∀ fault, faults fault → faults' fault) : Within values' faults' result := by
  cases result with
  | ok value => exact hvalues value h
  | error fault => exact hfaults fault h

theorem within_bind {values : α → Prop} {values' : β → Prop} {faults : Fault → Prop}
    {first : Except Fault α} {next : α → Except Fault β} (hfirst : Within values faults first)
    (hnext : ∀ value, values value → Within values' faults (next value)) :
    Within values' faults (first >>= next) := by
  cases first with
  | ok value => exact hnext value hfirst
  | error fault => exact hfirst

/-- From every state with a property, does an action keep the property and end with one of the
given values or one of the given faults? -/
def Ends (P : σ → Prop) (values : α → Prop) (faults : Fault → Prop) (action : Action σ α) : Prop :=
  ∀ state, P state → P (action state).2 ∧ Within values faults (action state).1

variable {values : α → Prop} {faults : Fault → Prop}

theorem Ends.mono {values' : α → Prop} {faults' : Fault → Prop} {action : Action σ α}
    (h : Ends P values faults action) (hvalues : ∀ value, values value → values' value)
    (hfaults : ∀ fault, faults fault → faults' fault) : Ends P values' faults' action :=
  fun state hstate => ⟨(h state hstate).1, (h state hstate).2.mono hvalues hfaults⟩

theorem ends_settle {result : Except Fault α} (h : Within values faults result) :
    Ends P values faults (settle result) :=
  fun _ hstate => ⟨hstate, h⟩

theorem ends_pure {value : α} (h : values value) :
    Ends P values faults (pure value : Action σ α) :=
  fun _ hstate => ⟨hstate, h⟩

theorem ends_fail {fault : Fault} (h : faults fault) :
    Ends P values faults (fail fault : Action σ α) :=
  fun _ hstate => ⟨hstate, h⟩

theorem ends_change {f : σ → σ} (hf : ∀ state, P state → P (f state)) :
    Ends P (fun _ => True) faults (change f) :=
  fun state hstate => ⟨hf state hstate, trivial⟩

theorem ends_bind {first : Action σ α} {next : α → Action σ β} {values' : β → Prop}
    (hfirst : Ends P values faults first)
    (hnext : ∀ value, values value → Ends P values' faults (next value)) :
    Ends P values' faults (first >>= next) := by
  intro state hstate
  rcases hfirst state hstate with ⟨hafter, hresult⟩
  rw [bind_apply]
  rcases heq : first state with ⟨result, after⟩
  rw [heq] at hafter hresult
  cases result with
  | error fault => exact ⟨hafter, hresult⟩
  | ok value => exact hnext value hresult after hafter

end Action

end ContainerDesk
