import ContainerDesk.Engine.Access
import ContainerDesk.Proofs.Engine.Address
import ContainerDesk.Proofs.Engine.Operation
import ContainerDesk.Proofs.Settings.Store

/-!
# How requests to the engine end

A request is made with a connection of its own, as the settings say.  What connecting
ends with depends on the engine alone: a refusal becomes the fault that callers know,
and so does a connection that takes longer than the settings allow, but a failure of
the transport leaves every request as it is.  Behind the connection such failures are
turned into the fault that callers know too.
-/

namespace ContainerDesk

open ContainerDesk.Action

namespace Access

def FitsSchema (settings : SettingsSource) : Prop :=
  ∀ key field, Schema.field? engineSection key = some field →
    ∃ value, settings engineSection key = .ok value ∧ field.Accepts value

def IsLimited (settings : SettingsSource) : Prop :=
  settings engineSection (Text.of "connection_timeout_enabled") = .ok (.bool true)

variable {settings : SettingsSource} {documented limited : Prop}

theorem fitsSchema_get {store : Store} (h : store.IsSound) : FitsSchema store.get :=
  fun _ _ hfield => h.get_of_field hfield

theorem FitsSchema.values (h : FitsSchema settings) :
    ∃ socket isLimited seconds,
      settings engineSection (Text.of "socket") = .ok (.text socket) ∧
      settings engineSection (Text.of "connection_timeout_enabled") = .ok (.bool isLimited) ∧
      settings engineSection (Text.of "connection_timeout_sec") = .ok (.int seconds) ∧
      0 < seconds := by
  rcases h (Text.of "socket") ⟨.text [], [.address]⟩ rfl with ⟨value, hsocket, haccepts⟩
  rcases Field.accepts_address.mp haccepts with ⟨socket, rfl, _⟩
  rcases h (Text.of "connection_timeout_enabled") (Schema.flagField true) rfl with
    ⟨value, henabled, haccepts⟩
  rcases Field.accepts_flag.mp haccepts with ⟨isLimited, rfl⟩
  rcases h (Text.of "connection_timeout_sec") (Schema.rangeField 5 1 120) rfl with
    ⟨value, hlimit, haccepts⟩
  rcases Field.accepts_range.mp haccepts with ⟨seconds, rfl, hlow, _⟩
  exact ⟨socket, isLimited, seconds, hsocket, henabled, hlimit, hlow⟩

/-!
# Connecting
-/

/-- What an attempt to connect ends with, however long it takes. -/
def dialed (address : Text) : Connection → Except Fault Client
  | .made => .ok ⟨address, true⟩
  | .hanging => .ok ⟨address, false⟩
  | .failed failure =>
      .error (if failure.isRefusal then .engineUnavailable failure.message
        else .engineFailed failure)

def dialing (address : Text) : EngineCall :=
  if address.isEmpty then .connectByEnvironment else .connect address

def dialNotes (address : Text) : Connection → Journal
  | .failed failure =>
      if failure.isRefusal then
        [⟨.error, .engineClient, Text.of "Docker client init error via " ++ addressLabel address ++
          Text.of ": " ++ failure.message⟩]
      else
        []
  | _ => []

def timeoutNote (address : Text) (seconds : Int) : Entry :=
  ⟨.error, .provider, Text.of "Docker client creation timeout for " ++ addressLabel address ++
    Text.of " after " ++ integerNumeral seconds ++ Text.of " seconds"⟩

def timeoutFault (seconds : Int) : Fault :=
  .engineUnavailable
    (Text.of "Connection timeout after " ++ integerNumeral seconds ++ Text.of " seconds")

def afterDial (address : Text) (session : EngineSession) : EngineSession :=
  {
    session with
    calls := session.calls ++ [dialing address]
    journal := session.journal ++ dialNotes address session.engine.connection
  }

theorem dial_eq (address : Text) (session : EngineSession) :
    dial address session =
      (dialed address session.engine.connection, afterDial address session) := by
  rcases session with ⟨engine, calls, journal⟩
  unfold dial afterDial dialing
  rw [bind_apply, EngineSession.call]
  dsimp only
  cases engine.connection with
  | made => simp only [dialed, dialNotes, List.append_nil]; rfl
  | hanging => simp only [dialed, dialNotes, List.append_nil]; rfl
  | failed failure =>
      dsimp only [dialed, dialNotes]
      split
      · rfl
      · simp only [List.append_nil]
        rfl

theorem dialWithin_eq (address : Text) (seconds : Int) (session : EngineSession) :
    dialWithin address seconds session =
      let after := afterDial address session
      let calls := after.calls ++ [.wait seconds, .giveUp]
      if isTimeout session.engine.connection (dialed address session.engine.connection) then
        (.error (timeoutFault seconds),
          { after with calls, journal := after.journal ++ [timeoutNote address seconds] })
      else
        (dialed address session.engine.connection, { after with calls }) := by
  unfold dialWithin
  rw [bind_apply, attempt, dial_eq]
  dsimp only
  rw [bind_apply, EngineSession.call]
  dsimp only
  have hengine : (afterDial address session).engine = session.engine := rfl
  rw [hengine]
  split
  · simp [bind_apply, EngineSession.note, EngineSession.call, change, fail, timeoutFault,
      timeoutNote]
  · simp [bind_apply, EngineSession.call, settle]

theorem dial_apply (address : Text) (session : EngineSession) :
    (dial address session).1 = dialed address session.engine.connection ∧
      (dial address session).2.engine = session.engine := by
  rw [dial_eq]
  exact ⟨rfl, rfl⟩

theorem dialWithin_apply (address : Text) (seconds : Int) (session : EngineSession) :
    (dialWithin address seconds session).1 =
        (if isTimeout session.engine.connection (dialed address session.engine.connection) then
          .error (timeoutFault seconds)
        else dialed address session.engine.connection) ∧
      (dialWithin address seconds session).2.engine = session.engine := by
  rw [dialWithin_eq]
  dsimp only
  split
  · exact ⟨rfl, rfl⟩
  · exact ⟨rfl, rfl⟩

theorem connect_eq (h : FitsSchema settings) :
    (IsLimited settings ∧ ∃ address seconds, connect settings = dialWithin address seconds) ∨
      (¬ IsLimited settings ∧ ∃ address, connect settings = dial address) := by
  rcases h.values with ⟨socket, isLimited, seconds, hsocket, henabled, hlimit, hseconds⟩
  have haddress := address_of_text hsocket
  have hinteger : ((Value.int seconds).orElse (.int 0)).toInteger = .ok seconds := by
    unfold Value.orElse
    rw [if_pos (by simp [Value.isTruthy]; omega), Value.toInteger]
  have hconnect : connect settings =
      if isLimited then dialWithin (normalizeAddress socket) seconds
      else dial (normalizeAddress socket) := by
    funext session
    unfold connect
    rw [haddress, henabled, hlimit]
    simp only [bind_apply, settle, hinteger]
    cases isLimited with
    | true =>
        have htimed : ((Value.bool true).isTruthy && decide (0 < seconds)) = true :=
          decide_eq_true hseconds
        rw [if_pos htimed]
        rfl
    | false => rfl
  cases isLimited with
  | true => exact .inl ⟨henabled, _, seconds, hconnect⟩
  | false =>
      refine .inr ⟨fun hlimited => ?_, _, hconnect⟩
      cases henabled.symm.trans hlimited

/-- An engine that the desk can deal with gives a connection, or the fault that callers know. -/
theorem ends_connect (h : FitsSchema settings) (hlimited : limited → IsLimited settings) :
    Ends (EngineSession.IsTame documented limited) (fun client => client.isReady = true)
      Fault.IsUnavailable (connect settings) := by
  have hdialed : ∀ {engine : Engine} (address : Text), engine.IsTame documented limited →
      engine.connection ≠ .hanging →
      Within (fun client => client.isReady = true) Fault.IsUnavailable
        (dialed address engine.connection) := by
    intro engine address htame hends
    cases hconnection : engine.connection with
    | made => exact rfl
    | hanging => exact absurd hconnection hends
    | failed failure =>
        rw [dialed, if_pos (htame.refused failure hconnection)]
        exact ⟨_, rfl⟩
  intro session htame
  rcases connect_eq h with ⟨_, address, seconds, heq⟩ | ⟨hunlimited, address, heq⟩
  · rcases dialWithin_apply address seconds session with ⟨hresult, hengine⟩
    rw [heq, hresult, EngineSession.IsTame, hengine]
    refine ⟨htame, ?_⟩
    split
    · exact ⟨_, rfl⟩
    · rename_i hintime
      apply hdialed address htame
      intro hhanging
      rw [hhanging] at hintime
      exact hintime rfl
  · rcases dial_apply address session with ⟨hresult, hengine⟩
    rw [heq, hresult, EngineSession.IsTame, hengine]
    refine ⟨htame, hdialed address htame ?_⟩
    exact fun hhanging => hunlimited (hlimited (htame.hanging hhanging))

theorem connect_of_failed (h : FitsSchema settings) {session : EngineSession}
    {failure : EngineFailure} (hconnection : session.engine.connection = .failed failure)
    (hexpected : failure.isExpected = true) (hrefusal : failure.isRefusal = false) :
    (connect settings session).1 = .error (.engineFailed failure) := by
  have hdialed : ∀ address,
      dialed address session.engine.connection = .error (.engineFailed failure) := by
    intro address
    rw [hconnection, dialed, hrefusal]
    rfl
  have hintime : ∀ address,
      isTimeout session.engine.connection (dialed address session.engine.connection) = false := by
    intro address
    rw [hdialed, isTimeout, decide_eq_false_iff_not]
    intro htimeout
    rw [EngineFailure.isExpected, htimeout] at hexpected
    cases hexpected
  rcases connect_eq h with ⟨_, address, seconds, heq⟩ | ⟨_, address, heq⟩
  · rw [heq, (dialWithin_apply address seconds session).1, hintime, hdialed]
    rfl
  · rw [heq, (dial_apply address session).1, hdialed]

/-!
# Work behind a connection
-/

theorem ends_connected {α : Type} {values : α → Prop} {faults : Fault → Prop}
    {work : Action EngineSession α} (h : FitsSchema settings)
    (hlimited : limited → IsLimited settings)
    (hunavailable : ∀ fault, fault.IsUnavailable → faults fault)
    (hwork : Ends (EngineSession.IsTame documented limited) values faults work) :
    Ends (EngineSession.IsTame documented limited) values faults (connected settings work) := by
  apply ends_bind ((ends_connect h hlimited).mono (fun _ h => h) hunavailable)
  intro client hready
  rw [if_pos hready]
  exact hwork

theorem connected_of_failed {α : Type} (work : Action EngineSession α)
    {session : EngineSession} {fault : Fault} (h : (connect settings session).1 = .error fault) :
    (connected settings work session).1 = .error fault :=
  congrArg Prod.fst (bind_of_error (Prod.ext h rfl))

theorem ends_answering {α : Type} (complaint : Text) (answer : α)
    {work : Action EngineSession α}
    (h : Ends (EngineSession.IsTame documented limited) (fun _ => True)
      (Fault.IsOfOperation documented) work) :
    Ends (EngineSession.IsTame documented limited) (fun _ => True) (Fault.Without documented)
      (answering complaint answer work) := by
  intro session htame
  rcases h session htame with ⟨hafter, hresult⟩
  unfold answering
  rw [bind_apply, attempt]
  rcases heq : work session with ⟨result, after⟩
  rw [heq] at hafter hresult
  dsimp only
  split
  · exact ⟨hafter, trivial⟩
  · rename_i hknown
    refine ⟨hafter, ?_⟩
    cases result with
    | ok value => trivial
    | error fault =>
        rcases hresult with ⟨reason, rfl⟩ | hwithout
        · exact absurd rfl (hknown reason)
        · exact hwithout

theorem answering_ne_unavailable {α : Type} (complaint : Text) (answer : α)
    (work : Action EngineSession α) (session : EngineSession) (reason : Text) :
    (answering complaint answer work session).1 ≠ .error (.engineUnavailable reason) := by
  unfold answering
  rw [bind_apply, attempt]
  rcases work session with ⟨result, after⟩
  dsimp only
  split
  · exact fun h => by cases h
  · rename_i hknown
    exact hknown reason

theorem answering_of_failed {α : Type} (complaint : Text) (answer : α)
    {work : Action EngineSession α} {session : EngineSession} {failure : EngineFailure}
    (h : (work session).1 = .error (.engineFailed failure)) :
    (answering complaint answer work session).1 = .error (.engineFailed failure) := by
  unfold answering
  rw [bind_apply, attempt]
  rcases heq : work session with ⟨result, after⟩
  rw [heq] at h
  cases h
  rfl

theorem ends_act {work : Action EngineSession Unit} (verb id : Text) (h : FitsSchema settings)
    (hlimited : limited → IsLimited settings)
    (hwork : Ends (EngineSession.IsTame documented limited) (fun _ => True)
      Fault.IsUnavailable work) :
    Ends (EngineSession.IsTame documented limited) (fun _ => True) (Fault.Without documented)
      (act settings verb id work) := by
  apply ends_answering
  apply ends_bind ((ends_connected h hlimited (fun _ h => h) hwork).mono (fun _ h => h)
    fun _ => .inl)
  exact fun _ _ => ends_pure trivial

theorem act_ne_unavailable (settings : SettingsSource) (verb id : Text)
    (work : Action EngineSession Unit) (session : EngineSession) (reason : Text) :
    (act settings verb id work session).1 ≠ .error (.engineUnavailable reason) :=
  answering_ne_unavailable _ _ _ _ _

theorem act_of_failed (verb id : Text) (work : Action EngineSession Unit)
    {session : EngineSession} {failure : EngineFailure}
    (h : (connect settings session).1 = .error (.engineFailed failure)) :
    (act settings verb id work session).1 = .error (.engineFailed failure) :=
  answering_of_failed _ _
    (congrArg Prod.fst (bind_of_error (Prod.ext (connected_of_failed work h) rfl)))

/-!
# Requests
-/

inductive Request where
  | list
  | groups
  | start (id : Text)
  | stop (id : Text)
  | restart (id : Text)
  | remove (id : Text) (force : Bool)
  | logs (id : Text) (tail : Int)

namespace Request

def Answer : Request → Type
  | .list => List Container
  | .groups => List Group
  | .start _ | .stop _ | .restart _ | .remove .. => Bool
  | .logs .. => Text

def run (settings : SettingsSource) : (request : Request) → Action EngineSession request.Answer
  | .list => fetchContainers settings
  | .groups => fetchGroups settings
  | .start id => Access.start settings id
  | .stop id => Access.stop settings id
  | .restart id => Access.restart settings id
  | .remove id force => Access.remove settings id force
  | .logs id tail => Access.fetchLogs settings id tail

/-- Is a snapshot asked for?  Such a request may end with the one fault that callers know. -/
def isFetch : Request → Bool
  | .list | .groups => true
  | _ => false

/-- Does a request end as its callers expect: with an answer, or with the fault that they know if it
asks for a snapshot? -/
def EndsWell (request : Request) : Except Fault request.Answer → Prop :=
  Within (fun _ => True) fun fault => request.isFetch = true ∧ fault.IsUnavailable

/-- With an engine that the desk can deal with, a request ends as its callers expect, or with a
fault about an answer in another form than the documented one. -/
theorem ends_run (h : FitsSchema settings) (hlimited : limited → IsLimited settings)
    (request : Request) :
    Ends (EngineSession.IsTame documented limited) (fun _ => True)
      (fun fault => (request.isFetch = true ∧ fault.IsUnavailable) ∨ fault.Without documented)
      (request.run settings) := by
  have hlist : Ends (EngineSession.IsTame documented limited) (fun _ => True)
      (Fault.IsOfOperation documented) (fetchContainers settings) :=
    ends_connected h hlimited (fun _ => .inl) EngineSession.ends_listContainers
  cases request with
  | list =>
      apply hlist.mono (fun _ _ => trivial)
      exact fun fault hfault => hfault.imp_left fun hunavailable => ⟨rfl, hunavailable⟩
  | groups =>
      have hgroups : Ends (EngineSession.IsTame documented limited) (fun _ => True)
          (Fault.IsOfOperation documented) (fetchGroups settings) := by
        apply ends_bind hlist
        intro containers _
        refine ends_bind (ends_change ?_) fun _ _ => ends_pure trivial
        exact fun _ htame => htame
      apply hgroups.mono (fun _ _ => trivial)
      exact fun fault hfault => hfault.imp_left fun hunavailable => ⟨rfl, hunavailable⟩
  | start id =>
      exact (ends_act _ id h hlimited (EngineSession.ends_startContainer id)).mono
        (fun _ _ => trivial) fun _ => .inr
  | stop id =>
      exact (ends_act _ id h hlimited (EngineSession.ends_stopContainer id)).mono
        (fun _ _ => trivial) fun _ => .inr
  | restart id =>
      exact (ends_act _ id h hlimited (EngineSession.ends_restartContainer id)).mono
        (fun _ _ => trivial) fun _ => .inr
  | remove id force =>
      exact (ends_act _ id h hlimited (EngineSession.ends_removeContainer id force)).mono
        (fun _ _ => trivial) fun _ => .inr
  | logs id tail =>
      have hlogs : Ends (EngineSession.IsTame documented limited) (fun _ => True)
          (Fault.IsOfOperation documented) (connected settings (EngineSession.fetchLogs id tail)) :=
        ends_connected h hlimited (fun _ => .inl) (EngineSession.ends_fetchLogs id tail)
      exact (ends_answering _ [] hlogs).mono (fun _ _ => trivial) fun _ => .inr

theorem run_of_failed {session : EngineSession} {failure : EngineFailure}
    (h : (connect settings session).1 = .error (.engineFailed failure)) (request : Request) :
    (request.run settings session).1 = .error (.engineFailed failure) := by
  have hlist : (fetchContainers settings session).1 = .error (.engineFailed failure) :=
    connected_of_failed _ h
  cases request with
  | list => exact hlist
  | groups => exact congrArg Prod.fst (bind_of_error (Prod.ext hlist rfl))
  | start id => exact act_of_failed _ id _ h
  | stop id => exact act_of_failed _ id _ h
  | restart id => exact act_of_failed _ id _ h
  | remove id force => exact act_of_failed _ id _ h
  | logs id tail => exact answering_of_failed _ _ (connected_of_failed _ h)

/-- Whatever the engine's expected failures, and with the time limited where the connection hangs:
no failed call leaves a request as it is, and with answers in the documented form every request
ends well, exactly if the connection fails in no other way than by a refusal. -/
theorem run_endsWell_iff (h : FitsSchema settings) {session : EngineSession}
    (hexpected : session.engine.FailsAsExpected)
    (hhanging : session.engine.connection = .hanging → IsLimited settings) (request : Request) :
    ((∀ failure, (request.run settings session).1 ≠ .error (.engineFailed failure)) ↔
        session.engine.ConnectsOrRefuses) ∧
      (session.engine.IsDocumented →
        (request.EndsWell (request.run settings session).1 ↔
          session.engine.ConnectsOrRefuses)) := by
  have hfailed : ∀ failure, session.engine.connection = .failed failure →
      failure.isRefusal = false →
      (request.run settings session).1 = .error (.engineFailed failure) := by
    intro failure hconnection hrefusal
    have hactual := hexpected failure (.connecting hconnection)
    exact run_of_failed (connect_of_failed h hconnection hactual hrefusal) request
  have hends (hrefused : session.engine.ConnectsOrRefuses) : Within (fun _ => True)
      (fun fault => (request.isFetch = true ∧ fault.IsUnavailable) ∨
        fault.Without session.engine.IsDocumented) (request.run settings session).1 :=
    (ends_run h (fun hlimited => hlimited) request session
      ⟨hexpected, hrefused, hhanging, fun hdocumented => hdocumented⟩).2
  have hleaves : (∀ failure, (request.run settings session).1 ≠ .error (.engineFailed failure)) ↔
      session.engine.ConnectsOrRefuses := by
    constructor
    · intro hnone failure hconnection
      cases hrefusal : failure.isRefusal with
      | true => rfl
      | false => exact absurd (hfailed failure hconnection hrefusal) (hnone failure)
    · intro hrefused failure hrun
      have hwithin := hends hrefused
      rw [hrun] at hwithin
      rcases hwithin with ⟨_, reason, hreason⟩ | hwithout
      · cases hreason
      · cases hwithout.1
  refine ⟨hleaves, fun hdocumented => ⟨fun hwell => hleaves.mp ?_, fun hrefused => ?_⟩⟩
  · intro failure hrun
    rw [hrun] at hwell
    rcases hwell with ⟨_, reason, hreason⟩
    cases hreason
  · apply (hends hrefused).mono (fun _ _ => trivial)
    rintro fault (hwell | hwithout)
    · exact hwell
    · exact absurd hdocumented hwithout.2

def usual : SettingsSource :=
  (Store.fresh (Disk.placeOf (Text.of "desk/config.json")) (Disk.empty (Text.of "/home"))).get

theorem fitsSchema_usual : FitsSchema usual := by
  apply fitsSchema_get
  rw [← Place.Way.place_ofPath]
  exact Store.isSound_fresh (Place.Way.ofPath _) _

def breakingOff : EngineSession :=
  .fresh { Engine.idle with stop := some ⟨.connection, Text.of "Connection aborted."⟩ }

/-- A stop that breaks off is answered. -/
theorem run_endsWell_breakingOff :
    FitsSchema usual ∧
    breakingOff.engine.FailsAsExpected ∧
    breakingOff.engine.connection ≠ .hanging ∧ breakingOff.engine.IsDocumented ∧
    (Request.stop (Text.of "abc")).EndsWell
      ((Request.stop (Text.of "abc")).run usual breakingOff).1 := by
  have hexpected : breakingOff.engine.FailsAsExpected := by
    intro failure hfails
    cases hfails with
    | stop h =>
        cases h
        rfl
    | lookup h => exact absurd h List.not_mem_nil
    | _ h => exact nomatch h
  have hdocumented : breakingOff.engine.IsDocumented := by
    constructor
    · intro summaries hlisting
      cases hlisting
      exact fun summary hsummary => absurd hsummary List.not_mem_nil
    · intro data hdata
      cases hdata
      exact ⟨[], rfl⟩
  have hends := run_endsWell_iff fitsSchema_usual hexpected nofun (.stop (Text.of "abc"))
  exact ⟨fitsSchema_usual, hexpected, nofun, hdocumented, (hends.2 hdocumented).mpr nofun⟩

def unreached : EngineSession :=
  .fresh { Engine.idle with connection := .failed ⟨.transport, Text.of "boom"⟩ }

/-- A connection that breaks in the transport is an expected failure, and yet starting a container
does not answer but ends with that failure. -/
theorem run_unreached :
    FitsSchema usual ∧
    unreached.engine.FailsAsExpected ∧
    unreached.engine.connection ≠ .hanging ∧ unreached.engine.IsDocumented ∧
    ((Request.start (Text.of "abc")).run usual unreached).1 =
      .error (.engineFailed ⟨.transport, Text.of "boom"⟩) ∧
    ¬ (Request.start (Text.of "abc")).EndsWell
      ((Request.start (Text.of "abc")).run usual unreached).1 := by
  refine ⟨fitsSchema_usual, ?_, nofun, ?_, rfl, ?_⟩
  · intro failure hfails
    cases hfails with
    | connecting h =>
        cases h
        rfl
    | lookup h => exact absurd h List.not_mem_nil
    | _ h => exact nomatch h
  · constructor
    · intro summaries hlisting
      cases hlisting
      exact fun summary hsummary => absurd hsummary List.not_mem_nil
    · intro data hdata
      cases hdata
      exact ⟨[], rfl⟩
  · rintro ⟨hfetch, _⟩
    cases hfetch

end Request

end Access

end ContainerDesk
