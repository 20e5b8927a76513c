import ContainerDesk.Proofs.Engine.Access
import ContainerDesk.Proofs.Window.Run
import Mathlib.Data.List.Range

/-!
# Requests and their ends

The open requests of a window are those that were issued and have not ended, each of them
once.  They are numbered from one without a gap, so a result that the gate is given always
has a number that was given out.

Which events issue a request is said here (`issues`), and which request an event ends
(`ended?`).  A request may end with a result, with a failure or with nothing, and in any
order.
-/

namespace ContainerDesk

open Window (Delivery Outcome)

theorem Gate.requested_accept {gate after : Gate} {generation : Int} {isNew : Bool}
    {notes : Journal} (h : gate.accept generation = .ok (isNew, after, notes)) :
    after.requested = gate.requested := by
  unfold accept at h
  split at h
  · cases h
  · split at h
    · cases h
      rfl
    · cases h
      rfl

namespace Window

/-- How many requests a window has made, and the numbers of the open ones. -/
structure Progress.Polls (count : Nat) (pending : List Nat) (progress : Progress) : Prop where
  requested : progress.gate.requested = count
  pending : progress.pending = pending

namespace Progress.Polls

variable {progress : Progress} {count : Nat} {pending : List Nat}

theorem request (h : progress.Polls count pending) :
    progress.request.Polls (count + 1) (pending ++ [count + 1]) where
  requested := congrArg (· + 1) h.requested
  pending := by
    show progress.pending ++ [progress.gate.requested + 1] = _
    rw [h.pending, h.requested]

theorem forget (h : progress.Polls count pending) (generation : Nat) :
    (progress.forget generation).Polls count (pending.filter (· ≠ generation)) where
  requested := h.requested
  pending := congrArg _ h.pending

end Progress.Polls

theorem polls_deliver {window after : Window} {generation count : Nat} {pending : List Nat}
    {outcome : Outcome} {clock : Text} {notes : Journal} (h : window.progress.Polls count pending)
    (hdeliver : window.deliver generation outcome clock = .ok (after, notes)) :
    after.progress.Polls count pending := by
  have hsame : after.gate.requested = window.gate.requested ∧ after.fetches = window.fetches := by
    unfold deliver at hdeliver
    split at hdeliver
    · cases hdeliver
    · cases hdeliver
      exact ⟨rfl, rfl⟩
    · rename_i gate gateNotes haccept
      have hgate := Gate.requested_accept haccept
      cases outcome with
      | groups groups =>
          cases hdeliver
          exact ⟨hgate, rfl⟩
      | failure message =>
          cases hdeliver
          exact ⟨hgate, rfl⟩
  exact ⟨hsame.1.trans h.requested, (congrArg _ hsame.2).trans h.pending⟩

end Window

namespace Desk

open ContainerDesk.Action (Keeps)

/-!
# What issues a request
-/

def attempt (word : String) (container : Container) (work : Action EngineSession Bool) :
    Action Desk Bool := do
  note [⟨.info, .window, Text.of "Container action " ++ Text.of word ++
    Text.of " requested: container_id=" ++ container.id ++ Text.of ", name=" ++
    container.label⟩]
  withEngine work

def conclude (isDone : Bool) : Action Desk Unit := do
  if isDone then
    refresh
  else
    let window ← window
    complain (window.language.say .actionFailed)

/-- The access to the engine answers in the place of the fault that the engine is unavailable, so
nobody who asks for something to be done sees a complaint about that fault. -/
theorem perform_act (word : String) (container : Container) (settings : SettingsSource)
    (verb id : Text) (work : Action EngineSession Unit) :
    perform word container (Access.act settings verb id work) =
      attempt word container (Access.act settings verb id work) >>= conclude := by
  funext desk
  unfold perform attempt
  have hnote (entries : Journal) :
      note entries desk = (.ok (), desk.mapStore (·.noteAll entries)) := rfl
  rw [bind_assoc, Action.bind_of_ok (hnote _), Action.bind_of_ok (hnote _)]
  generalize desk.mapStore _ = noted
  rcases hacted : withEngine (Access.act settings verb id work) noted with ⟨result, after⟩
  have hattempt : Action.attempt (withEngine (Access.act settings verb id work)) noted =
      (.ok result, after) := by
    rw [Action.attempt, hacted]
  rw [Action.bind_of_ok hattempt]
  cases result with
  | ok isDone =>
      rw [Action.bind_of_ok hacted]
      cases isDone with
      | true => rfl
      | false => rfl
  | error fault =>
      rw [Action.bind_of_error hacted]
      cases fault with
      | engineUnavailable reason =>
          have hfault : (withEngine (Access.act settings verb id work) noted).1 =
            .error (.engineUnavailable reason) := congrArg Prod.fst hacted
          exact absurd hfault (Access.act_ne_unavailable settings verb id work _ reason)
      | _ => rfl

def succeeds (word : String) (container : Container) (work : Action EngineSession Bool)
    (desk : Desk) : Bool :=
  match (attempt word container work desk).1 with
  | .ok isDone => isDone
  | .error _ => false

/-- Does a command do something to a container that succeeds?  What is deleted is so only if the
user confirms it. -/
def acts (asked : RowCommand) (container : Container) (replies : Replies) (desk : Desk) : Bool :=
  let settings := desk.store.get
  match asked with
  | .start => succeeds "start" container (Access.start settings container.id) desk
  | .stop => succeeds "stop" container (Access.stop settings container.id) desk
  | .restart => succeeds "restart" container (Access.restart settings container.id) desk
  | .delete =>
      replies.confirms &&
        succeeds "delete" container (Access.remove settings container.id true) desk
  | .logs | .login => false

def presses (id : Text) (button : Nat) (replies : Replies) (desk : Desk) : Bool :=
  match desk.surroundings.window.tree.press? id button, RowCommand.all[button]? with
  | some (_, container), some asked => acts asked container replies desk
  | _, _ => false

/-- Does an event issue a request?  A refresh always does, and so does a button whose command
succeeds; the timer does unless a request is still open. -/
def issues (desk : Desk) : Event → Bool
  | .refresh => true
  | .tick .refresh _ =>
      desk.surroundings.window.refreshTimer.isSome && desk.surroundings.window.fetches.isEmpty
  | .press id button replies engine => presses id button replies (setEngine engine desk).2
  | _ => false

def ended? (desk : Desk) : Event → Option Nat
  | .finish index _ _ _ => desk.surroundings.window.fetches[index]?.map (·.generation)
  | _ => none

theorem issues_of_quiet {desk : Desk} {event : Event} (h : event.IsQuiet) :
    issues desk event = false := by
  cases event with
  | tick timer host =>
      cases timer with
      | refresh => exact h.elim
      | load => rfl
  | refresh | press => exact h.elim
  | _ => rfl

theorem ended_of_quiet {desk : Desk} {event : Event} (h : event.IsQuiet) :
    ended? desk event = none := by
  cases event with
  | finish => exact h.elim
  | _ => rfl

def issued (others : Reactions Desktop) : Desk → List Event → Nat
  | _, [] => 0
  | desk, event :: rest =>
      (issues desk event).toNat + issued others (apply others event desk).2 rest

def endings (others : Reactions Desktop) : Desk → List Event → List Nat
  | _, [] => []
  | desk, event :: rest =>
      (ended? desk event).toList ++ endings others (apply others event desk).2 rest

/-!
# What a request changes

`R` says how a desk stands as long as no request is issued, and how it stands after one.
-/

section Issuing

variable {R : Bool → Window.Progress → Prop}
  (hrequest : ∀ progress, R false progress → R true progress.request)

include hrequest

theorem has_refresh {desk : Desk} (h : Has (R false) desk) :
    Has (R true) (desk.mapWindow (·.request)) := by
  change R true desk.surroundings.window.request.progress
  rw [Window.progress_request]
  exact hrequest _ h

theorem has_onTimer {desk : Desk} (h : Has (R false) desk) :
    Has (R (desk.surroundings.window.refreshTimer.isSome &&
      desk.surroundings.window.fetches.isEmpty)) (onTimer .refresh desk).2 := by
  have hwindow : window desk = (.ok desk.surroundings.window, desk) := rfl
  unfold onTimer
  dsimp only
  rw [Action.bind_of_ok hwindow]
  cases desk.surroundings.window.refreshTimer with
  | none => exact h
  | some interval =>
      rw [Option.isSome_some, if_pos rfl, snd_doing, Bool.true_and]
      change R _ (if desk.surroundings.window.fetches.isEmpty then
        desk.surroundings.window.request else desk.surroundings.window).progress
      cases desk.surroundings.window.fetches.isEmpty with
      | true =>
          rw [if_pos rfl]
          exact has_refresh hrequest h
      | false =>
          rw [if_neg Bool.false_ne_true]
          exact h

theorem has_perform (word : String) (container : Container) (settings : SettingsSource)
    (verb id : Text) (work : Action EngineSession Unit) {desk : Desk} (h : Has (R false) desk) :
    Has (R (succeeds word container (Access.act settings verb id work) desk))
      (perform word container (Access.act settings verb id work) desk).2 := by
  have hattempt : Has (R false)
    (attempt word container (Access.act settings verb id work) desk).2 := h
  unfold succeeds
  rw [perform_act, Action.bind_apply]
  rcases hattempted : attempt word container (Access.act settings verb id work) desk with
    ⟨result, after⟩
  rw [hattempted] at hattempt
  cases result with
  | error fault => exact hattempt
  | ok isDone =>
      cases isDone with
      | false =>
          exact Action.keeps_bind keeps_window (fun _ => keeps_complain isAboutWindow_has _) after
            hattempt
      | true => exact has_refresh hrequest hattempt

theorem has_command (asked : RowCommand) (container : Container) (replies : Replies) {desk : Desk}
    (h : Has (R false) desk) :
    Has (R (acts asked container replies desk)) (command asked container replies desk).2 := by
  have hcurrent : (Action.current : Action Desk Desk) desk = (.ok desk, desk) := rfl
  unfold command
  rw [Action.bind_of_ok hcurrent]
  cases asked with
  | start => exact has_perform hrequest _ container _ _ _ _ h
  | stop => exact has_perform hrequest _ container _ _ _ _ h
  | restart => exact has_perform hrequest _ container _ _ _ _ h
  | logs =>
      exact Action.keeps_bind (keeps_withEngine isAboutWindow_has _)
        (fun _ => keeps_showDialog isAboutWindow_has _ _) desk h
  | login => exact keeps_showDialog isAboutWindow_has _ _ desk h
  | delete =>
      unfold acts
      cases replies.confirms with
      | false => exact keeps_prompt isAboutWindow_has _ desk h
      | true =>
          -- The question that was put in front of the user leaves the engine as it was.
          have hasked := keeps_prompt isAboutWindow_has (.question
            (desk.surroundings.window.language.say .delete)
            (phraseFor desk.surroundings.window.language .confirmDelete container)) desk h
          exact has_perform hrequest "delete" container desk.store.get _ _ _ hasked

theorem has_press (id : Text) (button : Nat) (replies : Replies) {desk : Desk}
    (h : Has (R false) desk) :
    Has (R (presses id button replies desk)) (press id button replies desk).2 := by
  have hwindow : window desk = (.ok desk.surroundings.window, desk) := rfl
  unfold press presses
  rw [Action.bind_of_ok hwindow]
  cases desk.surroundings.window.tree.press? id button with
  | none => exact h
  | some pressed =>
      cases RowCommand.all[button]? with
      | none => exact h
      | some asked =>
          have hcommand := has_command hrequest asked pressed.2 replies h
          change Has _ ((command asked pressed.2 replies >>= fun _ => pure true) desk).2
          rw [Action.bind_apply]
          rcases hcommanded : command asked pressed.2 replies desk with ⟨result, after⟩
          rw [hcommanded] at hcommand
          cases result with
          | error fault => exact hcommand
          | ok done => exact hcommand

end Issuing

/-!
# Steps
-/

def Polls (count : Nat) (pending : List Nat) (desk : Desk) : Prop :=
  Has (fun progress => progress.Polls count pending) desk

/-- The open requests after an event: without the one that it ends, and with the one that it
issues. -/
def nextPending (count : Nat) (pending : List Nat) (isIssued : Bool) (ended : Option Nat) :
    List Nat :=
  (pending.filter fun generation => ended ≠ some generation) ++
    if isIssued then [count + 1] else []

theorem nextPending_none (count : Nat) (pending : List Nat) (isIssued : Bool) :
    nextPending count pending isIssued none =
      pending ++ if isIssued then [count + 1] else [] := by
  unfold nextPending
  rw [List.filter_eq_self.mpr (by simp)]

theorem nextPending_some (count : Nat) (pending : List Nat) (generation : Nat) :
    nextPending count pending false (some generation) = pending.filter (· ≠ generation) := by
  unfold nextPending
  rw [if_neg Bool.false_ne_true, List.append_nil]
  apply List.filter_congr
  intro other _
  simp [eq_comm]

section Polling

variable {others : Reactions Desktop} {count : Nat} {pending : List Nat} {desk : Desk}

theorem keeps_deliver (generation : Nat) (outcome : Outcome) (clock : Text) :
    Keeps (Polls count pending) (deliver generation outcome clock) := by
  intro desk h
  unfold deliver
  split
  · exact h
  · rename_i window notes hdeliver
    exact Window.polls_deliver h hdeliver

/-- What the requests are once one was issued, under the next number, or none was. -/
def PollsNext (count : Nat) (pending : List Nat) (isIssued : Bool)
    (progress : Window.Progress) : Prop :=
  progress.Polls (count + isIssued.toNat) (nextPending count pending isIssued none)

theorem pollsNext_false {progress : Window.Progress} :
    PollsNext count pending false progress ↔ progress.Polls count pending := by
  unfold PollsNext
  rw [nextPending_none, if_neg Bool.false_ne_true, List.append_nil]
  exact Iff.rfl

theorem pollsNext_request (progress : Window.Progress)
    (h : PollsNext count pending false progress) :
    PollsNext count pending true progress.request := by
  unfold PollsNext
  rw [nextPending_none, if_pos rfl]
  exact (pollsNext_false.mp h).request

theorem polls_finish (h : Polls count pending desk) (index : Nat) (engine : Engine)
    (interruption : Interruption) (clock : Text) :
    Polls count (nextPending count pending false
        (ended? desk (.finish index engine interruption clock)))
      (apply others (.finish index engine interruption clock) desk).2 := by
  have hengine : Polls count pending (setEngine engine desk).2 := h
  have hwindow : (setEngine engine desk).2.surroundings.window = desk.surroundings.window := rfl
  rw [apply_finish_snd, finish_snd, hwindow]
  unfold ended?
  dsimp only
  cases desk.surroundings.window.fetches[index]? with
  | none => exact pollsNext_false.mpr hengine
  | some fetch =>
      have hrun : Polls count pending
          (runFetch fetch interruption clock (setEngine engine desk).2).2 :=
        keeps_runFetch isAboutWindow_has keeps_deliver fetch interruption clock _ hengine
      have hforget := hrun.forget fetch.generation
      rw [← Window.progress_forget] at hforget
      rw [Option.map_some, nextPending_some]
      exact hforget

variable (hothers : LeaveWindow others)

include hothers

/-- One step issues what it is said to issue, under the next number, and ends what it is said to
end. -/
theorem polls_apply (h : Polls count pending desk) (event : Event) :
    Polls (count + (issues desk event).toNat)
      (nextPending count pending (issues desk event) (ended? desk event))
      (apply others event desk).2 := by
  have hnone : Has (PollsNext count pending false) desk := pollsNext_false.mpr h
  have hquiet : event.IsQuiet → Polls (count + (issues desk event).toNat)
      (nextPending count pending (issues desk event) (ended? desk event))
      (apply others event desk).2 := by
    intro hquiet
    rw [issues_of_quiet hquiet, ended_of_quiet hquiet]
    exact keeps_apply_of_quiet hothers hquiet desk hnone
  cases event with
  | refresh =>
      rw [apply, snd_doing]
      exact has_refresh pollsNext_request hnone
  | tick timer host =>
      cases timer with
      | load => exact hquiet trivial
      | refresh =>
          have hhost : setHost host desk = (.ok (), (setHost host desk).2) := rfl
          have hhosted : Has (PollsNext count pending false) (setHost host desk).2 := hnone
          rw [apply, Action.bind_of_ok hhost]
          exact has_onTimer pollsNext_request hhosted
  | finish index engine interruption clock => exact polls_finish h index engine interruption clock
  | press id button replies engine =>
      have hengine : setEngine engine desk = (.ok (), (setEngine engine desk).2) := rfl
      have hasking : Has (PollsNext count pending false) (setEngine engine desk).2 := hnone
      rw [apply, Action.bind_of_ok hengine, snd_trying]
      exact has_press pollsNext_request id button replies hasking
  | _ => exact hquiet trivial

end Polling

/-!
# Runs
-/

/-- Are the open requests those of so many that have not ended, and did each of the others end
once? -/
structure Tally (count : Nat) (ended pending : List Nat) : Prop where
  pending : pending = (List.range' 1 count).filter (· ∉ ended)
  nodup : ended.Nodup
  bounds : ∀ generation ∈ ended, 0 < generation ∧ generation ≤ count

namespace Tally

variable {count : Nat} {ended pending : List Nat}

theorem mem_pending (h : Tally count ended pending) {generation : Nat} :
    generation ∈ pending ↔ (0 < generation ∧ generation ≤ count) ∧ generation ∉ ended := by
  rw [h.pending, List.mem_filter, List.mem_range'_1, decide_eq_true_eq]
  constructor
  · intro hmem
    exact ⟨⟨hmem.1.1, by omega⟩, hmem.2⟩
  · intro hmem
    exact ⟨⟨hmem.1.1, by omega⟩, hmem.2⟩

theorem issue (h : Tally count ended pending) :
    Tally (count + 1) ended (pending ++ [count + 1]) where
  pending := by
    have hnew : count + 1 ∉ ended :=
      fun hmem => absurd (h.bounds _ hmem).2 (Nat.not_succ_le_self _)
    rw [h.pending, List.range'_1_concat, List.filter_append, Nat.add_comm 1 count,
      List.filter_cons_of_pos (by simpa using hnew), List.filter_nil]
  nodup := h.nodup
  bounds := fun generation hmem =>
    ⟨(h.bounds generation hmem).1, Nat.le_succ_of_le (h.bounds generation hmem).2⟩

theorem finish (h : Tally count ended pending) {generation : Nat} (hopen : generation ∈ pending) :
    Tally count (ended ++ [generation]) (pending.filter (· ≠ generation)) where
  pending := by
    rw [h.pending, List.filter_filter]
    apply List.filter_congr
    intro other _
    simp [and_comm]
  nodup := by
    apply List.nodup_append.mpr
    refine ⟨h.nodup, List.pairwise_singleton _ _, ?_⟩
    intro earlier hearlier last hlast heq
    rw [List.mem_singleton.mp hlast] at heq
    exact (h.mem_pending.mp hopen).2 (heq ▸ hearlier)
  bounds := by
    intro other hother
    rcases List.mem_append.mp hother with hother | hother
    · exact h.bounds other hother
    · rw [List.mem_singleton.mp hother]
      exact (h.mem_pending.mp hopen).1

end Tally

theorem issues_of_ended {desk : Desk} {event : Event} {generation : Nat}
    (h : ended? desk event = some generation) : issues desk event = false := by
  cases event with
  | finish => rfl
  | _ => cases h

theorem mem_pending_of_ended {desk : Desk} {event : Event} {generation : Nat}
    (h : ended? desk event = some generation) :
    generation ∈ desk.surroundings.window.progress.pending := by
  cases event with
  | finish index engine interruption clock =>
      rcases Option.map_eq_some_iff.mp h with ⟨fetch, hfetch, rfl⟩
      exact List.mem_map.mpr ⟨fetch, List.mem_of_getElem? hfetch, rfl⟩
  | _ => cases h

theorem Tally.next {desk : Desk} {count : Nat} {ended : List Nat}
    (h : Tally count ended desk.surroundings.window.progress.pending) (event : Event) :
    Tally (count + (issues desk event).toNat) (ended ++ (ended? desk event).toList)
      (nextPending count desk.surroundings.window.progress.pending (issues desk event)
        (ended? desk event)) := by
  cases hended : ended? desk event with
  | none =>
      rw [nextPending_none, Option.toList_none, List.append_nil]
      cases issues desk event with
      | true => exact h.issue
      | false =>
          rw [if_neg Bool.false_ne_true, List.append_nil]
          exact h
  | some generation =>
      rw [issues_of_ended hended, nextPending_some]
      exact h.finish (mem_pending_of_ended hended)

structure Tallies (count : Nat) (ended : List Nat) (desk : Desk) : Prop where
  requested : desk.surroundings.window.gate.requested = count
  tally : Tally count ended desk.surroundings.window.progress.pending

section Tallying

variable {others : Reactions Desktop} (hothers : LeaveWindow others) {count : Nat}
  {ended : List Nat} {desk : Desk}

include hothers

theorem Tallies.apply (h : Tallies count ended desk) (event : Event) :
    Tallies (count + (issues desk event).toNat) (ended ++ (ended? desk event).toList)
      (apply others event desk).2 := by
  have hpolls := polls_apply hothers ⟨h.requested, rfl⟩ event
  refine ⟨hpolls.requested, ?_⟩
  rw [hpolls.pending]
  exact h.tally.next event

theorem Tallies.after (h : Tallies count ended desk) (events : List Event) :
    Tallies (count + issued others desk events) (ended ++ endings others desk events)
      (after others desk events) := by
  induction events generalizing desk count ended with
  | nil =>
      rw [endings, List.append_nil]
      exact h
  | cons event rest ih =>
      rw [issued, endings, ← Nat.add_assoc, ← List.append_assoc]
      exact ih (h.apply hothers event)

end Tallying

theorem tallies_opened (language : Language) (usualWidth : Int) (host : HostLoad) (store : Store) :
    Gives (Tallies 1 []) (opened language usualWidth host store) := by
  have hfirst : (Window.Progress.unasked language).request.Polls 1 [1] := ⟨rfl, rfl⟩
  intro desk hopened
  have hpolls := has_opened hfirst usualWidth host store desk hopened
  refine ⟨hpolls.requested, ⟨hpolls.pending, List.nodup_nil, ?_⟩⟩
  exact fun generation hmem => absurd hmem List.not_mem_nil

/-- On an opened desk the open requests are those issued so far that have not ended, each of them
once, under the numbers from one on, and no request ends twice.  Each event takes out what it ends
and puts in what it issues, and what it delivers has a number that was given out, so the gate has
an answer. -/
theorem open_of_issued {others : Reactions Desktop} (hothers : LeaveWindow others)
    {language : Language} {usualWidth : Int} {host : HostLoad} {store : Store} {desk : Desk}
    (hopened : opened language usualWidth host store = .ok desk) (events : List Event) :
    let count := 1 + issued others desk events
    let ended := endings others desk events
    let current := after others desk events
    let pending := current.surroundings.window.fetches.map (·.generation)
    current.surroundings.window.gate.requested = count ∧
    pending = (List.range' 1 count).filter (· ∉ ended) ∧
    ended.Nodup ∧ (∀ generation ∈ ended, 0 < generation ∧ generation ≤ count) ∧
    (∀ event, (apply others event current).2.surroundings.window.fetches.map (·.generation) =
      (pending.filter fun generation => ended? current event ≠ some generation) ++
        if issues current event then [count + 1] else []) ∧
    ∀ event delivery, delivery? current event = some delivery →
      (0 < delivery.generation ∧ delivery.generation ≤ count) ∧
        ∃ isNew gate notes, current.surroundings.window.gate.accept delivery.generation =
          .ok (isNew, gate, notes) := by
  intro count ended current pending
  have htallies : Tallies count ended current :=
    (tallies_opened language usualWidth host store desk hopened).after hothers events
  refine ⟨htallies.requested, htallies.tally.pending, htallies.tally.nodup, htallies.tally.bounds,
    ?_, ?_⟩
  · intro event
    exact (polls_apply hothers ⟨htallies.requested, rfl⟩ event).pending
  · intro event delivery hdelivery
    have hissued := (htallies.tally.mem_pending.mp (mem_pending_of_delivery hdelivery)).1
    have hrequested : delivery.generation ≤ current.surroundings.window.gate.requested := by
      rw [htallies.requested]
      exact hissued.2
    refine ⟨hissued, ?_⟩
    rcases Nat.lt_or_ge current.surroundings.window.gate.applied delivery.generation with
      hnewer | hstale
    · exact ⟨_, _, _, Gate.accept_newer hrequested hnewer⟩
    · exact ⟨_, _, _, Gate.accept_stale hrequested hstale⟩

def pausing : List Event :=
  let load : HostLoad := ⟨.int 40, .int 4096, .int 8192, .int 7⟩
  [.refresh, .tick .refresh load, .finish 1 .idle .never (Text.of "12:00:01"),
    .tick .refresh load, .finish 0 refusing .during (Text.of "12:00:02"), .tick .refresh load]

/-- Three requests were issued, and the last one is open. -/
theorem open_of_issued_pausing :
    LeaveWindow passive ∧ ∃ desk, crossedDesk = .ok desk ∧
      (after passive desk pausing).surroundings.window.gate.requested = 3 ∧
      (after passive desk pausing).surroundings.window.fetches.map (·.generation) = [3] := by
  have htold : (crossedDesk.toOption.map fun desk =>
      (issued passive desk pausing, endings passive desk pausing)) = some (2, [2, 1]) := by
    decide +kernel
  refine ⟨leaveWindow_passive, ?_⟩
  cases hopened : crossedDesk with
  | error fault =>
      rw [hopened] at htold
      cases htold
  | ok desk =>
      rw [hopened] at htold
      rcases Prod.mk.inj (Option.some.inj htold) with ⟨hissued, hended⟩
      rcases open_of_issued leaveWindow_passive hopened pausing with ⟨hrequested, hopen, _⟩
      rw [hissued] at hrequested hopen
      rw [hended] at hopen
      exact ⟨desk, rfl, hrequested, hopen⟩

end Desk

end ContainerDesk
