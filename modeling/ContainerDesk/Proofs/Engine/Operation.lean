import ContainerDesk.Engine.Operation
import ContainerDesk.Proofs.Engine.Summary

/-!
# How operations on containers end

When an engine's calls fail only in ways that the desk expects, each operation on a
connected engine ends well or with the one fault that callers know.  Other faults come
from answers that do not have the documented form.
-/

namespace ContainerDesk

open ContainerDesk.Action

/-!
# What an engine may do
-/

namespace Engine

variable {engine : Engine} {documented limited : Prop}

inductive Fails (engine : Engine) : EngineFailure → Prop where
  | connecting {failure : EngineFailure} (h : engine.connection = .failed failure) :
      Fails engine failure
  | listing {failure : EngineFailure} (h : engine.listing = .error failure) : Fails engine failure
  | lookup {failure : EngineFailure} (h : some failure ∈ engine.lookups) : Fails engine failure
  | start {failure : EngineFailure} (h : engine.start = some failure) : Fails engine failure
  | unpause {failure : EngineFailure} (h : engine.unpause = some failure) : Fails engine failure
  | stop {failure : EngineFailure} (h : engine.stop = some failure) : Fails engine failure
  | restart {failure : EngineFailure} (h : engine.restart = some failure) : Fails engine failure
  | remove {failure : EngineFailure} (h : engine.remove = some failure) : Fails engine failure
  | logs {failure : EngineFailure} (h : engine.logs = .error failure) : Fails engine failure

def FailsAsExpected (engine : Engine) : Prop :=
  ∀ failure, engine.Fails failure → failure.isExpected = true

def ConnectsOrRefuses (engine : Engine) : Prop :=
  ∀ failure, engine.connection = .failed failure → failure.isRefusal = true

/-- Have all answers of an engine the documented form?  Logs are octets. -/
structure IsDocumented (engine : Engine) : Prop where
  listing : ∀ summaries, engine.listing = .ok summaries →
    ∀ summary ∈ summaries, Summary.IsSummary summary
  logs : ∀ data, engine.logs = .ok data → ∃ octets, data = .bytes octets

/-- Does an engine fail only in ways that the desk can deal with?  A connection may hang where the
time is limited, and answers have the documented form where that is granted. -/
structure IsTame (documented limited : Prop) (engine : Engine) : Prop where
  expected : engine.FailsAsExpected
  refused : engine.ConnectsOrRefuses
  hanging : engine.connection = .hanging → limited
  answers : documented → engine.IsDocumented

theorem IsTame.afterLookup (h : engine.IsTame documented limited) :
    { engine with lookups := engine.lookups.drop 1 }.IsTame documented limited where
  expected := by
    intro failure hfails
    apply h.expected failure
    cases hfails with
    | lookup h => exact .lookup (List.mem_of_mem_drop h)
    | connecting h => exact .connecting h
    | listing h => exact .listing h
    | start h => exact .start h
    | unpause h => exact .unpause h
    | stop h => exact .stop h
    | restart h => exact .restart h
    | remove h => exact .remove h
    | logs h => exact .logs h
  refused := h.refused
  hanging := h.hanging
  answers := fun hdocumented =>
    ⟨(h.answers hdocumented).listing, (h.answers hdocumented).logs⟩

end Engine

/-!
# The kinds of faults
-/

namespace Fault

def IsExpected (fault : Fault) : Prop :=
  ∃ failure, fault = .engineFailed failure ∧ failure.isExpected = true

def IsUnavailable (fault : Fault) : Prop :=
  ∃ reason, fault = .engineUnavailable reason

/-- The faults of an operation: the one that callers know, and those of answers in another form than
the documented one. -/
def IsOfOperation (documented : Prop) (fault : Fault) : Prop :=
  fault.IsUnavailable ∨ fault.Without documented

end Fault

namespace EngineSession

variable {α : Type} {documented limited : Prop}

def IsTame (documented limited : Prop) (session : EngineSession) : Prop :=
  session.engine.IsTame documented limited

/-!
# Single calls
-/

theorem ends_call {faults : Fault → Prop} (call : EngineCall) :
    Ends (IsTame documented limited) (Engine.IsTame documented limited) faults
      (EngineSession.call call) :=
  fun _ h => ⟨h, h⟩

theorem ends_expectSuccess {failure : Option EngineFailure}
    (h : ∀ actual, failure = some actual → actual.isExpected = true) :
    Ends (IsTame documented limited) (fun _ => True) Fault.IsExpected (expectSuccess failure) := by
  cases failure with
  | none => exact ends_pure trivial
  | some failure => exact ends_fail ⟨failure, rfl, h failure rfl⟩

theorem ends_get (id : Text) :
    Ends (IsTame documented limited) (fun _ => True) Fault.IsExpected (get id) := by
  apply ends_bind (ends_call _)
  intro engine hengine
  apply ends_bind (ends_change fun _ h => h.afterLookup)
  intro _ _
  apply ends_expectSuccess
  intro failure hfailure
  apply hengine.expected
  apply Engine.Fails.lookup
  cases hlookups : engine.lookups with
  | nil =>
      rw [hlookups] at hfailure
      cases hfailure
  | cons first rest =>
      rw [hlookups] at hfailure
      rw [← hfailure]
      exact List.mem_cons_self

theorem ends_request (id : Text) (request : EngineCall) {part : Engine → Option EngineFailure}
    (hpart : ∀ engine failure, part engine = some failure → engine.Fails failure) :
    Ends (IsTame documented limited) (fun _ => True) Fault.IsExpected (do
      get id
      let engine ← call request
      expectSuccess (part engine)) := by
  apply ends_bind (ends_get id)
  intro _ _
  apply ends_bind (ends_call request)
  intro engine hengine
  exact ends_expectSuccess fun failure h => hengine.expected failure (hpart engine failure h)

/-- What fails as expected ends, when guarded, with the one fault that callers know. -/
theorem ends_guarded {values : α → Prop} {work : Action EngineSession α}
    (h : Ends (IsTame documented limited) values Fault.IsExpected work) :
    Ends (IsTame documented limited) values Fault.IsUnavailable (guarded work) := by
  intro session hsession
  rcases h session hsession with ⟨hafter, hresult⟩
  unfold guarded
  rcases heq : work session with ⟨result, after⟩
  rw [heq] at hafter hresult
  cases result with
  | ok value => exact ⟨hafter, hresult⟩
  | error fault =>
      rcases hresult with ⟨failure, rfl, hexpected⟩
      dsimp only
      rw [if_pos hexpected]
      exact ⟨hafter, _, rfl⟩

/-!
# Operations
-/

theorem ends_listContainers :
    Ends (IsTame documented limited) (fun _ => True) (Fault.IsOfOperation documented)
      listContainers := by
  unfold listContainers
  refine ends_bind ((ends_guarded (?listing : Ends (IsTame documented limited)
    (fun summaries => documented → ∀ summary ∈ summaries, Summary.IsSummary summary)
    Fault.IsExpected _)).mono (fun _ h => h) fun _ => .inl) ?_
  case listing =>
    apply ends_bind (ends_call _)
    intro engine hengine
    split
    · rename_i summaries hlisting
      exact ends_pure fun hdocumented => (hengine.answers hdocumented).listing _ hlisting
    · rename_i failure hlisting
      exact ends_fail ⟨failure, rfl, hengine.expected failure (.listing hlisting)⟩
  intro summaries hsummaries
  exact ends_settle (((Summary.within_toContainers summaries).without hsummaries).mono
    (fun _ h => h) fun _ => .inr)

theorem ends_startContainer (id : Text) :
    Ends (IsTame documented limited) (fun _ => True) Fault.IsUnavailable (startContainer id) := by
  have hstart : Ends (IsTame documented limited) (fun _ => True) Fault.IsUnavailable
      (guarded (startPlainly id)) :=
    ends_guarded (ends_request id .start fun _ _ => .start)
  have hpause : Ends (IsTame documented limited) (fun _ => True) Fault.IsUnavailable
      (guarded (endPause id)) :=
    ends_guarded (ends_request id .unpause fun _ _ => .unpause)
  intro session hsession
  rcases hstart session hsession with ⟨hafter, hresult⟩
  unfold startContainer
  rcases heq : guarded (startPlainly id) session with ⟨result, after⟩
  rw [heq] at hafter hresult
  cases result with
  | ok value => exact ⟨hafter, hresult⟩
  | error fault =>
      rcases hresult with ⟨reason, rfl⟩
      dsimp only
      split
      · exact hpause after hafter
      · exact ⟨hafter, reason, rfl⟩

theorem ends_stopContainer (id : Text) :
    Ends (IsTame documented limited) (fun _ => True) Fault.IsUnavailable (stopContainer id) :=
  ends_guarded (ends_request id .stop fun _ _ => .stop)

theorem ends_restartContainer (id : Text) :
    Ends (IsTame documented limited) (fun _ => True) Fault.IsUnavailable (restartContainer id) :=
  ends_guarded (ends_request id .restart fun _ _ => .restart)

theorem ends_removeContainer (id : Text) (force : Bool) :
    Ends (IsTame documented limited) (fun _ => True) Fault.IsUnavailable
      (removeContainer id force) :=
  ends_guarded (ends_request id (.remove force) fun _ _ => .remove)

theorem within_logText (data : Value) :
    Within (fun _ => True) (Fault.Without (∃ octets, data = .bytes octets)) (logText data) := by
  unfold logText
  split
  · trivial
  · rename_i hoctets
    apply (within_shown data).without
    rintro ⟨octets, rfl⟩
    exact absurd rfl (hoctets octets)

theorem ends_fetchLogs (id : Text) (tail : Int) :
    Ends (IsTame documented limited) (fun _ => True) (Fault.IsOfOperation documented)
      (fetchLogs id tail) := by
  unfold fetchLogs
  refine ends_bind ((ends_guarded (?logs : Ends (IsTame documented limited)
    (fun data => documented → ∃ octets, data = .bytes octets)
    Fault.IsExpected _)).mono (fun _ h => h) fun _ => .inl) ?_
  case logs =>
    apply ends_bind (ends_get id)
    intro _ _
    apply ends_bind (ends_call _)
    intro engine hengine
    split
    · rename_i data hdata
      exact ends_pure fun hdocumented => (hengine.answers hdocumented).logs _ hdata
    · rename_i failure hfailure
      exact ends_fail ⟨failure, rfl, hengine.expected failure (.logs hfailure)⟩
  intro data hdata
  exact ends_settle (((within_logText data).without hdata).mono (fun _ h => h) fun _ => .inr)

end EngineSession

end ContainerDesk
