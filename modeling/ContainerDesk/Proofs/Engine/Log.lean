import ContainerDesk.Proofs.Engine.Access
import ContainerDesk.Proofs.Engine.Starting
import ContainerDesk.Proofs.Text.Cut

/-!
# Logs that are cut

The engine gives the end of a log, or a piece of it, without regard to where a code point
starts or ends in it.  Whatever piece that is, the desk shows the code points that are
whole in it, and showing it never fails.
-/

namespace ContainerDesk

open ContainerDesk.Action

namespace EngineSession

theorem fetchLogs_of_data {session : EngineSession} {data : Value}
    (hlookup : session.engine.lookupFailure 0 = none) (hlogs : session.engine.logs = .ok data)
    (id : Text) (tail : Int) : (fetchLogs id tail session).1 = logText data := by
  have hget : get id session = (.ok (), session.afterGet id) := by
    rw [get_apply, hlookup]
    rfl
  have hengine : (session.afterGet id).engine.logs = .ok data := hlogs
  unfold fetchLogs
  rw [bind_apply, guarded, bind_of_ok hget, bind_apply, call]
  dsimp only
  rw [hengine]
  rfl

end EngineSession

namespace Access

variable {settings : SettingsSource} {session : EngineSession}

theorem connect_of_made (h : FitsSchema settings) (hmade : session.engine.connection = .made) :
    ∃ address after, connect settings session = (.ok ⟨address, true⟩, after) ∧
      after.engine = session.engine := by
  rcases connect_eq h with ⟨_, address, seconds, heq⟩ | ⟨_, address, heq⟩
  · rcases dialWithin_apply address seconds session with ⟨hresult, hengine⟩
    refine ⟨address, (connect settings session).2, Prod.ext ?_ rfl, ?_⟩
    · rw [heq, hresult, hmade]
      rfl
    · rw [heq, hengine]
  · rcases dial_apply address session with ⟨hresult, hengine⟩
    refine ⟨address, (connect settings session).2, Prod.ext ?_ rfl, ?_⟩
    · rw [heq, hresult, hmade]
      rfl
    · rw [heq, hengine]

theorem fetchLogs_of_made (h : FitsSchema settings) (hmade : session.engine.connection = .made)
    {id : Text} {tail : Int} {shown : Text}
    (hshown : ∀ after, after.engine = session.engine →
      (EngineSession.fetchLogs id tail after).1 = .ok shown) :
    (fetchLogs settings id tail session).1 = .ok shown := by
  rcases connect_of_made h hmade with ⟨address, after, hconnect, hengine⟩
  have hlogs : EngineSession.fetchLogs id tail after =
      (.ok shown, (EngineSession.fetchLogs id tail after).2) := Prod.ext (hshown after hengine) rfl
  unfold fetchLogs answering connected
  rw [bind_apply, attempt, bind_of_ok hconnect]
  dsimp only
  rw [if_pos rfl, hlogs]
  rfl

/-- From any piece of the octets of a text the desk shows the code points that are whole in it, with
a connection at hand and also where it makes one first. -/
theorem fetchLogs_cut {t : Text} (ht : ∀ c ∈ t, c.isSurrogate = false)
    {front cut back : List Octet} (hcut : Utf8.encodeAll t = front ++ cut ++ back)
    (hlookup : session.engine.lookupFailure 0 = none)
    (hlogs : session.engine.logs = .ok (.bytes cut)) (id : Text) (tail : Int) :
    (EngineSession.fetchLogs id tail session).1 =
        .ok (Utf8.wholeWithin t front.length (front.length + cut.length)) ∧
      (FitsSchema settings → session.engine.connection = .made →
        (fetchLogs settings id tail session).1 =
          .ok (Utf8.wholeWithin t front.length (front.length + cut.length))) := by
  have hshown : ∀ after : EngineSession, after.engine = session.engine →
      (EngineSession.fetchLogs id tail after).1 =
        .ok (Utf8.wholeWithin t front.length (front.length + cut.length)) := by
    intro after hengine
    rw [← hengine] at hlookup hlogs
    rw [EngineSession.fetchLogs_of_data hlookup hlogs, EngineSession.logText,
      Utf8.decodeLenient_cut ht hcut]
  exact ⟨hshown session rfl, fun h hmade => fetchLogs_of_made h hmade hshown⟩

def cuttingOff : EngineSession :=
  .fresh { Engine.idle with logs := .ok (.bytes [0xA9, 0xE2, 0x82, 0xAC, 0xF0, 0x9F]) }

/-- Between a letter and a picture that are cut the euro sign is shown. -/
theorem fetchLogs_cut_within :
    (∀ c ∈ Text.of "é€😀", c.isSurrogate = false) ∧
    Utf8.encodeAll (Text.of "é€😀") =
      [0xC3] ++ [0xA9, 0xE2, 0x82, 0xAC, 0xF0, 0x9F] ++ [0x98, 0x80] ∧
    cuttingOff.engine.lookupFailure 0 = none ∧
    cuttingOff.engine.logs = .ok (.bytes [0xA9, 0xE2, 0x82, 0xAC, 0xF0, 0x9F]) ∧
    FitsSchema Request.usual ∧ cuttingOff.engine.connection = .made ∧
    (fetchLogs Request.usual (Text.of "abc") 500 cuttingOff).1 = .ok (Text.of "€") := by
  have hscalar : ∀ c ∈ Text.of "é€😀", c.isSurrogate = false :=
    (Utf8.firstSurrogates_eq_none 0).mp rfl
  have hoctets : Utf8.encodeAll (Text.of "é€😀") =
      [0xC3] ++ [0xA9, 0xE2, 0x82, 0xAC, 0xF0, 0x9F] ++ [0x98, 0x80] := by decide
  have hlookup : cuttingOff.engine.lookupFailure 0 = none := rfl
  have hwhole : Utf8.wholeWithin (Text.of "é€😀") 1 7 = Text.of "€" := by decide
  have hshown := (fetchLogs_cut hscalar hoctets hlookup rfl (Text.of "abc") 500).2
    Request.fitsSchema_usual rfl
  exact ⟨hscalar, hoctets, hlookup, rfl, Request.fitsSchema_usual, rfl,
    hshown.trans (congrArg Except.ok hwhole)⟩

end Access

end ContainerDesk
