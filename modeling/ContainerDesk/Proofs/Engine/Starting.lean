import ContainerDesk.Engine.Operation
import ContainerDesk.Proofs.Text.Casing

/-!
# How a container is started

A start has up to two phases, each of them a lookup and a call on what it finds.  Only
where the first phase fails in a way that the desk expects, and the failure speaks of a
pause, does the second one try to end the pause, and then it decides alone how the start
ends.
-/

namespace ContainerDesk

open ContainerDesk.Action

/-!
# Phases
-/

/-- A lookup and a call on what it finds, with the failures that the engine has in store for the
two. -/
structure Phase where
  lookup : Option EngineFailure
  request : EngineCall
  answer : Option EngineFailure

namespace Phase

def failure (phase : Phase) : Option EngineFailure :=
  phase.lookup.or phase.answer

/-- The calls of a phase; nothing is asked for where the lookup fails. -/
def calls (phase : Phase) (id : Text) : List EngineCall :=
  match phase.lookup with
  | some _ => [.get id]
  | none => [.get id, phase.request]

theorem calls_eq_or (phase : Phase) (id : Text) :
    phase.calls id = [.get id] ∨ phase.calls id = [.get id, phase.request] := by
  rcases phase with ⟨lookup, request, answer⟩
  cases lookup with
  | none => exact .inr rfl
  | some failure => exact .inl rfl

end Phase

namespace Engine

def lookupFailure (engine : Engine) (n : Nat) : Option EngineFailure :=
  engine.lookups[n]?.getD none

def starting (engine : Engine) : Phase :=
  ⟨engine.lookupFailure 0, .start, engine.start⟩

def unpausing (engine : Engine) : Phase :=
  ⟨engine.lookupFailure 1, .unpause, engine.unpause⟩

theorem calls_starting (engine : Engine) (id : Text) :
    engine.starting.calls id = [.get id] ∨ engine.starting.calls id = [.get id, .start] :=
  engine.starting.calls_eq_or id

theorem calls_unpausing (engine : Engine) (id : Text) :
    engine.unpausing.calls id = [.get id] ∨ engine.unpausing.calls id = [.get id, .unpause] :=
  engine.unpausing.calls_eq_or id

theorem unpause_not_mem_starting (engine : Engine) (id : Text) :
    .unpause ∉ engine.starting.calls id := by
  rcases engine.calls_starting id with hcalls | hcalls
  · simp [hcalls]
  · simp [hcalls]

theorem count_get_starting (engine : Engine) (id : Text) :
    (engine.starting.calls id).count (.get id) = 1 := by
  rcases engine.calls_starting id with hcalls | hcalls
  · simp [hcalls]
  · simp [hcalls]

/-- Does starting fail in a way that the desk expects, with a message that speaks of a pause in
letters of any case? -/
def FindsPaused (engine : Engine) : Prop :=
  ∃ failure, engine.starting.failure = some failure ∧ failure.isExpected = true ∧
    failure.message.Mentions (Text.of "paused")

end Engine

namespace EngineSession

def afterGet (session : EngineSession) (id : Text) : EngineSession :=
  {
    session with
    engine := { session.engine with lookups := session.engine.lookups.drop 1 }
    calls := session.calls ++ [.get id]
  }

def afterPhase (session : EngineSession) (id : Text) (phase : Phase) : EngineSession :=
  {
    session with
    engine := { session.engine with lookups := session.engine.lookups.drop 1 }
    calls := session.calls ++ phase.calls id
  }

def ended : Option EngineFailure → Except Fault Unit
  | none => .ok ()
  | some failure =>
      .error (if failure.isExpected then .engineUnavailable failure.message
        else .engineFailed failure)

variable {id : Text} {session : EngineSession} {failure : EngineFailure}

theorem ended_eq_ok {end? : Option EngineFailure} : ended end? = .ok () ↔ end? = none := by
  cases end? with
  | none => exact iff_of_true rfl rfl
  | some failure => exact iff_of_false nofun nofun

theorem ended_of_expected (h : failure.isExpected = true) :
    ended (some failure) = .error (.engineUnavailable failure.message) := by
  rw [ended, if_pos h]

theorem ended_of_unexpected (h : failure.isExpected = false) :
    ended (some failure) = .error (.engineFailed failure) := by
  rw [ended, h]
  rfl

/-!
# The two phases
-/

theorem get_apply (id : Text) (session : EngineSession) :
    get id session =
      expectSuccess (session.engine.lookupFailure 0) (session.afterGet id) := by
  rw [Engine.lookupFailure, ← List.head?_eq_getElem?]
  rfl

/-- A guarded lookup with a call behind it is a phase. -/
theorem guarded_phase (request : EngineCall) {answer : Engine → Option EngineFailure}
    (hanswer : ∀ engine lookups, answer { engine with lookups } = answer engine) :
    guarded (do
        get id
        let engine ← call request
        expectSuccess (answer engine)) session =
      (ended (Phase.failure ⟨session.engine.lookupFailure 0, request, answer session.engine⟩),
        session.afterPhase id
          ⟨session.engine.lookupFailure 0, request, answer session.engine⟩) := by
  unfold guarded
  rw [bind_apply, get_apply]
  cases session.engine.lookupFailure 0 with
  | some failure =>
      simp only [expectSuccess, fail, Phase.failure, Option.some_or, ended]
      split
      · rfl
      · rfl
  | none =>
      have hafter : session.afterPhase id ⟨none, request, answer session.engine⟩ =
          { session.afterGet id with calls := (session.afterGet id).calls ++ [request] } := by
        simp [afterPhase, afterGet, Phase.calls]
      rw [hafter, expectSuccess, pure_apply]
      dsimp only
      rw [bind_apply, call]
      dsimp only
      rw [afterGet, hanswer]
      cases answer session.engine with
      | none => rfl
      | some failure =>
          simp only [expectSuccess, fail, Phase.failure, Option.none_or, ended]
          split
          · rfl
          · rfl

theorem guarded_startPlainly (id : Text) (session : EngineSession) :
    guarded (startPlainly id) session =
      (ended session.engine.starting.failure, session.afterPhase id session.engine.starting) :=
  guarded_phase .start fun _ _ => rfl

theorem guarded_endPause (id : Text) (session : EngineSession) (phase : Phase) :
    guarded (endPause id) (session.afterPhase id phase) =
      (ended session.engine.unpausing.failure,
        (session.afterPhase id phase).afterPhase id session.engine.unpausing) := by
  have hlookup : (session.afterPhase id phase).engine.lookupFailure 0 =
      session.engine.lookupFailure 1 := by
    simp [Engine.lookupFailure, afterPhase]
  unfold endPause
  rw [guarded_phase .unpause fun _ _ => rfl, hlookup]
  rfl

theorem speaksOfPause_iff (message : Text) :
    speaksOfPause message = true ↔ message.Mentions (Text.of "paused") :=
  Text.occursIn_lower (List.all_eq_true.mp rfl) message

/-!
# Starting
-/

theorem startContainer_of_findsPaused (h : session.engine.FindsPaused) :
    startContainer id session =
      (ended session.engine.unpausing.failure,
        (session.afterPhase id session.engine.starting).afterPhase id
          session.engine.unpausing) := by
  rcases h with ⟨failure, hfailure, hexpected, hpause⟩
  rw [startContainer, guarded_startPlainly, hfailure, ended_of_expected hexpected]
  dsimp only
  rw [if_pos ((speaksOfPause_iff _).mpr hpause), guarded_endPause]

theorem startContainer_of_not_findsPaused (h : ¬ session.engine.FindsPaused) :
    startContainer id session =
      (ended session.engine.starting.failure, session.afterPhase id session.engine.starting) := by
  rw [startContainer, guarded_startPlainly]
  cases hfailure : session.engine.starting.failure with
  | none => rfl
  | some failure =>
      cases hexpected : failure.isExpected with
      | false => rw [ended_of_unexpected hexpected]
      | true =>
          have hsilent : ¬ speaksOfPause failure.message = true := fun hpause =>
            h ⟨failure, hfailure, hexpected, (speaksOfPause_iff _).mp hpause⟩
          rw [ended_of_expected hexpected]
          dsimp only
          rw [if_neg hsilent]

/-- Does a start call for two lookups and one start at most, and for the end of a pause only as the
last call and after both lookups? -/
structure IsSparing (id : Text) (made : List EngineCall) : Prop where
  known : ∀ call ∈ made, call = .get id ∨ call = .start ∨ call = .unpause
  lookups : made.count (.get id) ≤ 2
  startedOnce : made.count .start ≤ 1
  unpause : .unpause ∈ made →
    ∃ before, made = before ++ [.unpause] ∧ .unpause ∉ before ∧ before.count (.get id) = 2

theorem isSparing_starting (engine : Engine) (id : Text) :
    IsSparing id (engine.starting.calls id) := by
  rcases engine.calls_starting id with hcalls | hcalls
  · rw [hcalls]
    exact ⟨by simp, by simp, by simp, by simp⟩
  · rw [hcalls]
    exact ⟨by simp, by simp, by simp, by simp⟩

theorem isSparing_unpausing (engine : Engine) (id : Text) :
    IsSparing id (engine.starting.calls id ++ engine.unpausing.calls id) := by
  have hstarting := isSparing_starting engine id
  have hnot := engine.unpause_not_mem_starting id
  have hlookup := engine.count_get_starting id
  rcases engine.calls_unpausing id with hcalls | hcalls
  · rw [hcalls]
    constructor
    case known => simpa [or_imp, forall_and] using hstarting.known
    case lookups => simp [hlookup]
    case startedOnce => simpa using hstarting.startedOnce
    case unpause => simp [hnot]
  · rw [hcalls]
    constructor
    case known => simpa [or_imp, forall_and] using hstarting.known
    case lookups => simp [hlookup]
    case startedOnce => simpa using hstarting.startedOnce
    case unpause =>
      intro _
      refine ⟨engine.starting.calls id ++ [.get id], by simp, by simp [hnot], ?_⟩
      simp [hlookup]

/-- How a start ends and which calls it makes, by the failures that the engine has in store. -/
structure StartsBy (engine : Engine) (id : Text) (made : List EngineCall)
    (result : Except Fault Unit) : Prop where
  /-- The calls of the first phase, and those of the second one only where a pause is found. -/
  calls : (engine.FindsPaused → made = engine.starting.calls id ++ engine.unpausing.calls id) ∧
    (¬ engine.FindsPaused → made = engine.starting.calls id)
  succeeds : result = .ok () ↔
    engine.starting.failure = none ∨ (engine.FindsPaused ∧ engine.unpausing.failure = none)
  refused : ∀ failure, engine.starting.failure = some failure → failure.isExpected = true →
    ¬ failure.message.Mentions (Text.of "paused") →
      result = .error (.engineUnavailable failure.message) ∧ .unpause ∉ made
  staysPaused : engine.FindsPaused → ∀ failure, engine.unpausing.failure = some failure →
    failure.isExpected = true → result = .error (.engineUnavailable failure.message)
  /-- Any other failure is passed on as it is, and nothing is called after it. -/
  passedOn : ∀ failure, failure.isExpected = false →
    (engine.starting.failure = some failure →
      result = .error (.engineFailed failure) ∧ made = engine.starting.calls id) ∧
    (engine.FindsPaused → engine.unpausing.failure = some failure →
      result = .error (.engineFailed failure) ∧
        made = engine.starting.calls id ++ engine.unpausing.calls id)
  sparing : IsSparing id made

theorem startsBy_of_findsPaused (h : session.engine.FindsPaused) :
    StartsBy session.engine id
      (session.engine.starting.calls id ++ session.engine.unpausing.calls id)
      (ended session.engine.unpausing.failure) := by
  have hstarting := h
  rcases hstarting with ⟨first, hfirst, hexpected, hpause⟩
  constructor
  case calls => exact ⟨fun _ => rfl, fun hnot => absurd h hnot⟩
  case succeeds =>
    rw [ended_eq_ok, hfirst]
    exact ⟨fun hlast => .inr ⟨h, hlast⟩, fun hends => hends.elim nofun And.right⟩
  case refused =>
    intro failure hfailure _ hsilent
    rw [Option.some.inj (hfirst.symm.trans hfailure)] at hpause
    exact absurd hpause hsilent
  case staysPaused =>
    intro _ failure hfailure hexpected
    rw [hfailure, ended_of_expected hexpected]
  case passedOn =>
    intro failure hunexpected
    refine ⟨fun hfailure => ?_, fun _ hfailure => ?_⟩
    · rw [Option.some.inj (hfirst.symm.trans hfailure), hunexpected] at hexpected
      cases hexpected
    · rw [hfailure, ended_of_unexpected hunexpected]
      exact ⟨rfl, rfl⟩
  case sparing => exact isSparing_unpausing session.engine id

theorem startsBy_of_not_findsPaused (h : ¬ session.engine.FindsPaused) :
    StartsBy session.engine id (session.engine.starting.calls id)
      (ended session.engine.starting.failure) := by
  constructor
  case calls => exact ⟨fun hpaused => absurd hpaused h, fun _ => rfl⟩
  case succeeds =>
    rw [ended_eq_ok]
    exact ⟨.inl, fun hends => hends.elim (fun hnone => hnone) fun hpaused => absurd hpaused.1 h⟩
  case refused =>
    intro failure hfailure hexpected _
    rw [hfailure, ended_of_expected hexpected]
    exact ⟨rfl, session.engine.unpause_not_mem_starting id⟩
  case staysPaused => exact fun hpaused => absurd hpaused h
  case passedOn =>
    intro failure hunexpected
    refine ⟨fun hfailure => ?_, fun hpaused => absurd hpaused h⟩
    rw [hfailure, ended_of_unexpected hunexpected]
    exact ⟨rfl, rfl⟩
  case sparing => exact isSparing_starting session.engine id

/-- A start ends as its two phases do, and leaves the journal as it was. -/
theorem startContainer_startsBy (id : Text) (session : EngineSession) :
    ∃ made, (startContainer id session).2.calls = session.calls ++ made ∧
      (startContainer id session).2.journal = session.journal ∧
      StartsBy session.engine id made (startContainer id session).1 := by
  by_cases hpaused : session.engine.FindsPaused
  · rw [startContainer_of_findsPaused hpaused]
    exact ⟨_, List.append_assoc _ _ _, rfl, startsBy_of_findsPaused hpaused⟩
  · rw [startContainer_of_not_findsPaused hpaused]
    exact ⟨_, rfl, rfl, startsBy_of_not_findsPaused hpaused⟩

end EngineSession

end ContainerDesk
