import ContainerDesk.Proofs.Window.Frame

/-!
# The newest result

Requests and their results run freely across each other, and across all else that
happens on a desk.  After any events the window shows the newest result that was
delivered, and a result that comes behind a newer one is dropped.

What a step delivers is read off the step itself (`delivery?`); every step keeps the
window with what it has to show after the results so far, and the induction is on the
events.
-/

namespace ContainerDesk

namespace Desk

open Window (Delivery Outcome Progress Screen)

/-!
# Deliveries
-/

/-- What a request delivers when it ends, if anything.  Only the faults that the engine is expected
to have are delivered as failures. -/
def outcome? (fetch : Fetch) (interruption : Interruption) (desk : Desk) : Option Outcome :=
  if fetch.isInterrupted || interruption = .before then
    none
  else
    match (withEngine (Access.fetchGroups desk.store.get) desk).1 with
    | .ok groups => if interruption = .during then none else some (.groups groups)
    | .error (.engineUnavailable message) => some (.failure message)
    | .error _ => none

def delivery? (desk : Desk) : Event → Option Delivery
  | .finish index engine interruption clock => do
      let fetch ← desk.surroundings.window.fetches[index]?
      let outcome ← outcome? fetch interruption (setEngine engine desk).2
      some ⟨fetch.generation, outcome, clock⟩
  | _ => none

def deliveries (others : Reactions Desktop) : Desk → List Event → List Delivery
  | _, [] => []
  | desk, event :: rest =>
      (delivery? desk event).toList ++ deliveries others (apply others event desk).2 rest

theorem runFetch_snd (fetch : Fetch) (interruption : Interruption) (clock : Text) (desk : Desk) :
    (runFetch fetch interruption clock desk).2 =
      match outcome? fetch interruption desk with
      | some outcome =>
          (deliver fetch.generation outcome clock
            (withEngine (Access.fetchGroups desk.store.get) desk).2).2
      | none =>
          if fetch.isInterrupted || interruption = .before then desk
          else (withEngine (Access.fetchGroups desk.store.get) desk).2 := by
  unfold runFetch outcome?
  by_cases hstopped : (fetch.isInterrupted || interruption = .before) = true
  · rw [if_pos hstopped, if_pos hstopped, if_pos hstopped]
  · rw [if_neg hstopped, if_neg hstopped, if_neg hstopped]
    rcases withEngine (Access.fetchGroups desk.store.get) desk with ⟨result, after⟩
    cases result with
    | ok groups =>
        by_cases hduring : interruption = .during
        · simp only [if_pos hduring]
        · simp only [if_neg hduring]
    | error fault =>
        cases fault with
        | engineUnavailable message => rfl
        | _ => rfl

section RunningFetch

variable {fetch : Fetch} {interruption : Interruption} {desk : Desk} {clock : Text}

theorem surroundings_runFetch_of_none (h : outcome? fetch interruption desk = none) :
    ∃ engine calls, (runFetch fetch interruption clock desk).2.surroundings =
      { desk.surroundings with engine, calls } := by
  rw [runFetch_snd, h]
  dsimp only
  split
  · exact ⟨_, _, rfl⟩
  · exact ⟨_, _, rfl⟩

theorem surroundings_runFetch_of_some {outcome : Outcome}
    (h : outcome? fetch interruption desk = some outcome) {after : Window} {notes : Journal}
    (hdeliver : desk.surroundings.window.deliver fetch.generation outcome clock =
      .ok (after, notes)) :
    ∃ engine calls, (runFetch fetch interruption clock desk).2.surroundings =
      { desk.surroundings with engine, calls, window := after } := by
  have hasked : (withEngine (Access.fetchGroups desk.store.get) desk).2.surroundings.window =
      desk.surroundings.window := rfl
  rw [runFetch_snd, h]
  dsimp only
  unfold deliver
  rw [hasked, hdeliver]
  exact ⟨_, _, rfl⟩

end RunningFetch

/-!
# The end of a request
-/

theorem finish_snd (index : Nat) (interruption : Interruption) (clock : Text) (desk : Desk) :
    (finish index interruption clock desk).2 =
      match desk.surroundings.window.fetches[index]? with
      | none => desk
      | some fetch =>
          (runFetch fetch interruption clock desk).2.mapWindow (·.forget fetch.generation) := by
  unfold finish
  cases desk.surroundings.window.fetches[index]? with
  | none => rfl
  | some fetch => rfl

theorem apply_finish_snd (others : Reactions Desktop) (index : Nat) (engine : Engine)
    (interruption : Interruption) (clock : Text) (desk : Desk) :
    (apply others (.finish index engine interruption clock) desk).2 =
      (finish index interruption clock (setEngine engine desk).2).2 := by
  have hengine : setEngine engine desk = (.ok (), (setEngine engine desk).2) := rfl
  rw [apply, Action.bind_of_ok hengine, Action.bind_apply]
  rcases finish index interruption clock (setEngine engine desk).2 with ⟨result, after⟩
  cases result with
  | error fault => rfl
  | ok fetch => rfl

section Finishing

variable (others : Reactions Desktop) {desk : Desk} {event : Event}

theorem window_finish_of_none {index : Nat} {engine : Engine} {interruption : Interruption}
    {clock : Text} (h : delivery? desk (.finish index engine interruption clock) = none) :
    (apply others (.finish index engine interruption clock) desk).2.surroundings.window =
        desk.surroundings.window ∨
      ∃ generation,
        (apply others (.finish index engine interruption clock) desk).2.surroundings.window =
          desk.surroundings.window.forget generation := by
  have hwindow : (setEngine engine desk).2.surroundings.window = desk.surroundings.window := rfl
  rw [apply_finish_snd, finish_snd, hwindow]
  cases hfetch : desk.surroundings.window.fetches[index]? with
  | none => exact .inl rfl
  | some fetch =>
      have houtcome : outcome? fetch interruption (setEngine engine desk).2 = none := by
        cases houtcome : outcome? fetch interruption (setEngine engine desk).2 with
        | none => rfl
        | some outcome =>
            rw [delivery?, hfetch, Option.bind_eq_bind, Option.bind_some, houtcome] at h
            cases h
      rcases surroundings_runFetch_of_none houtcome with ⟨asked, calls, hrun⟩
      right
      refine ⟨fetch.generation, ?_⟩
      change (Desktop.window _).forget _ = _
      rw [hrun]
      rfl

/-- Only the end of an open request delivers a result, under the number of the request. -/
theorem exists_fetch_of_delivery {delivery : Delivery} (h : delivery? desk event = some delivery) :
    ∃ index engine interruption fetch,
      event = .finish index engine interruption delivery.clock ∧
      desk.surroundings.window.fetches[index]? = some fetch ∧
      fetch.generation = delivery.generation ∧
      outcome? fetch interruption (setEngine engine desk).2 = some delivery.outcome := by
  cases event with
  | finish index engine interruption clock =>
      rcases Option.bind_eq_some_iff.mp h with ⟨fetch, hfetch, hfound⟩
      rcases Option.bind_eq_some_iff.mp hfound with ⟨outcome, houtcome, hdelivery⟩
      cases hdelivery
      exact ⟨index, engine, interruption, fetch, rfl, hfetch, rfl, houtcome⟩
  | _ => cases h

theorem mem_pending_of_delivery {delivery : Delivery} (h : delivery? desk event = some delivery) :
    delivery.generation ∈ desk.surroundings.window.progress.pending := by
  rcases exists_fetch_of_delivery h with ⟨index, _, _, fetch, _, hfetch, hgeneration, _⟩
  exact List.mem_map.mpr ⟨fetch, List.mem_of_getElem? hfetch, hgeneration⟩

theorem surroundings_apply_of_some {delivery : Delivery} (h : delivery? desk event = some delivery)
    {after : Window} {notes : Journal}
    (hdeliver : desk.surroundings.window.deliver delivery.generation delivery.outcome
      delivery.clock = .ok (after, notes)) :
    ∃ engine calls, (apply others event desk).2.surroundings =
      { desk.surroundings with engine, calls, window := after.forget delivery.generation } := by
  rcases exists_fetch_of_delivery h with
    ⟨index, engine, interruption, fetch, rfl, hfetch, hgeneration, houtcome⟩
  rw [← hgeneration] at hdeliver
  rcases surroundings_runFetch_of_some houtcome hdeliver with ⟨asked, calls, hrun⟩
  have hwindow : (setEngine engine desk).2.surroundings.window = desk.surroundings.window := rfl
  rw [apply_finish_snd, finish_snd, hwindow, hfetch, ← hgeneration]
  refine ⟨asked, calls, ?_⟩
  unfold mapWindow
  dsimp only
  rw [hrun]
  rfl

end Finishing

/-!
# Steps and runs
-/

/-- Does the window of a desk show what it has to after several results? -/
def Follows (language : Language) (delivered : List Delivery) (desk : Desk) : Prop :=
  Has (fun progress => progress.Follows language delivered) desk

section Following

variable {others : Reactions Desktop} (hothers : LeaveWindow others) {language : Language}
  {delivered : List Delivery} {desk : Desk}

include hothers

theorem follows_apply (h : Follows language delivered desk) (event : Event) :
    Follows language (delivered ++ (delivery? desk event).toList)
      (apply others event desk).2 := by
  cases hdelivery : delivery? desk event with
  | none =>
      rw [Option.toList_none, List.append_nil]
      cases event with
      | finish index engine interruption clock =>
          unfold Follows Has
          rcases window_finish_of_none others hdelivery with hwindow | ⟨generation, hwindow⟩
          · rw [hwindow]
            exact h
          · rw [hwindow, Window.progress_forget]
            exact Progress.Follows.forget h generation
      | _ =>
          apply keeps_apply hothers (fun _ h => h.request) _ desk h
          intro index engine interruption clock heq
          cases heq
  | some delivery =>
      rcases Window.follows_deliver h (mem_pending_of_delivery hdelivery) with
        ⟨after, notes, hdeliver, hafter⟩
      rcases surroundings_apply_of_some others hdelivery hdeliver with
        ⟨engine, calls, hsurroundings⟩
      unfold Follows Has
      rw [hsurroundings]
      exact hafter

theorem follows_after (h : Follows language delivered desk) (events : List Event) :
    Follows language (delivered ++ deliveries others desk events) (after others desk events) := by
  induction events generalizing desk delivered with
  | nil =>
      rw [deliveries, List.append_nil]
      exact h
  | cons event rest ih =>
      rw [deliveries, ← List.append_assoc]
      exact ih (follows_apply hothers h event)

end Following

/-!
# The opened desk
-/

def Gives {α : Type} (P : α → Prop) (result : Except Fault α) : Prop :=
  ∀ value, result = .ok value → P value

theorem gives_bind {α β : Type} {P : α → Prop} {R : β → Prop} {first : Except Fault α}
    {next : α → Except Fault β} (hfirst : Gives P first)
    (hnext : ∀ value, P value → Gives R (next value)) : Gives R (first >>= next) := by
  intro value hvalue
  cases first with
  | error fault => cases hvalue
  | ok found => exact hnext found (hfirst found rfl) value hvalue

theorem gives_ofSettings (language : Language) (usualWidth : Int) (store : Store) :
    Gives (fun window => window.progress = .unasked language)
      (Window.ofSettings language usualWidth store) := by
  have hany {α : Type} (result : Except Fault α) : Gives (fun _ => True) result :=
    fun _ _ => trivial
  unfold Window.ofSettings
  iterate 11 refine gives_bind (hany _) fun _ _ => ?_
  intro window hwindow
  cases hwindow
  rfl

theorem gives_unopened (language : Language) (usualWidth : Int) (host : HostLoad) (store : Store) :
    Gives (Has (· = .unasked language)) (unopened language usualWidth host store) := by
  refine gives_bind (gives_ofSettings language usualWidth store) fun window hwindow => ?_
  intro desk hdesk
  cases hdesk
  exact hwindow

section Starting

variable {Q : Progress → Prop} {language : Language} (hfirst : Q (.request (.unasked language)))

include hfirst

theorem has_start {desk : Desk} (h : Has (· = .unasked language) desk) : Has Q (start desk).2 := by
  have hrequested : refresh desk = (.ok (), desk.mapWindow (·.request)) := rfl
  have hasked : Has Q (desk.mapWindow (·.request)) := by
    change Q desk.surroundings.window.request.progress
    rw [Window.progress_request, h]
    exact hfirst
  unfold start
  rw [Action.bind_of_ok hrequested]
  refine Action.keeps_bind (keeps_restartRefreshTimer fun _ => keeps_changeWindow fun _ => rfl)
    (fun _ => ?_) _ hasked
  exact keeps_restartLoadTimer (fun _ => keeps_changeWindow fun _ => rfl) has_showLoad

theorem has_opened (usualWidth : Int) (host : HostLoad) (store : Store) :
    Gives (Has Q) (opened language usualWidth host store) := by
  refine gives_bind (gives_unopened language usualWidth host store) fun desk hdesk => ?_
  have hstart := has_start hfirst hdesk
  intro after hafter
  split at hafter
  · rename_i started hstarted
    rw [hstarted] at hstart
    cases hafter
    exact hstart
  · cases hafter

end Starting

theorem gives_opened (language : Language) (usualWidth : Int) (host : HostLoad) (store : Store) :
    Gives (Follows language []) (opened language usualWidth host store) :=
  has_opened (Progress.follows_first language) usualWidth host store

theorem apply_stale {others : Reactions Desktop} {language : Language}
    {delivered : List Delivery} {desk : Desk} (h : Follows language delivered desk) {event : Event}
    {late newer : Delivery} (hlate : delivery? desk event = some late) (hmem : newer ∈ delivered)
    (hstale : late.generation ≤ newer.generation) :
    ∃ engine calls, (apply others event desk).2.surroundings =
      { desk.surroundings with
        engine, calls, window := desk.surroundings.window.forget late.generation } := by
  have hpending := mem_pending_of_delivery hlate
  have hissued := (Progress.Follows.issued_of_pending h hpending).2
  have happlied := Progress.Follows.le_applied h hmem
  exact surroundings_apply_of_some others hlate
    (Window.deliver_stale hissued (Nat.le_trans hstale happlied))

/-- After any events on an opened desk, no request has delivered twice, and the window waits or
shows the newest of all results, with the counts of the last snapshot let through.  A result that
comes behind a newer one changes nothing but that its request is over. -/
theorem shows_newest {others : Reactions Desktop} (hothers : LeaveWindow others)
    {language : Language} {usualWidth : Int} {host : HostLoad} {store : Store} {desk : Desk}
    (hopened : opened language usualWidth host store = .ok desk) (events : List Event) :
    let delivered := deliveries others desk events
    let current := after others desk events
    let window := current.surroundings.window
    (delivered.map (·.generation)).Nodup ∧
    (delivered = [] → window.screen = .waiting language) ∧
    (∀ newest ∈ delivered, (∀ other ∈ delivered, other.generation ≤ newest.generation) →
      window.screen = newest.screen language) ∧
    window.footer.counts = Window.lastCounts (Window.accepted delivered) ∧
    ∀ event late newer, delivery? current event = some late → newer ∈ delivered →
      late.generation < newer.generation →
        ∃ engine calls, (apply others event current).2.surroundings =
          { current.surroundings with
            engine, calls, window := window.forget late.generation } := by
  intro delivered current window
  have hfollows : Follows language delivered current :=
    follows_after hothers (gives_opened language usualWidth host store desk hopened) events
  refine ⟨?_, ?_, ?_, ?_, ?_⟩
  · exact (List.nodup_append.mp hfollows.nodup).2.1
  · exact Progress.Follows.screen_waiting hfollows
  · exact fun _ => Progress.Follows.screen_newest hfollows
  · exact hfollows.counts
  · intro event late newer hlate hmem hstale
    exact apply_stale hfollows hlate hmem (Nat.le_of_lt hstale)

def refusing : Engine :=
  { Engine.idle with connection := .failed ⟨.engine, Text.of "refused"⟩ }

def crossing : List Event :=
  [.refresh, .finish 1 .idle .never (Text.of "12:00:01"),
    .finish 0 refusing .never (Text.of "12:00:02")]

def crossedDesk : Except Fault Desk :=
  opened .english 100 ⟨.int 40, .int 4096, .int 8192, .int 7⟩
    (Store.fresh (Disk.placeOf (Text.of "desk/config.json")) (Disk.empty (Text.of "/home")))

theorem leaveWindow_passive : LeaveWindow passive :=
  fun _ _ _ => rfl

/-- The late failure is delivered, but the window still shows the answer to the second request. -/
theorem shows_newest_crossing :
    LeaveWindow passive ∧ ∃ desk, crossedDesk = .ok desk ∧
      ∃ answer failure, deliveries passive desk crossing = [answer, failure] ∧
        answer.generation = 2 ∧ failure.generation = 1 ∧
        (after passive desk crossing).surroundings.window.screen = answer.screen .english := by
  have hdelivered : (crossedDesk.toOption.map fun desk =>
      (deliveries passive desk crossing).map (·.generation)) = some [2, 1] := by decide +kernel
  refine ⟨leaveWindow_passive, ?_⟩
  cases hopened : crossedDesk with
  | error fault =>
      rw [hopened] at hdelivered
      cases hdelivered
  | ok desk =>
      rw [hopened] at hdelivered
      rcases List.map_eq_cons_iff.mp (Option.some.inj hdelivered) with
        ⟨answer, rest, hlist, hanswer, hrest⟩
      rcases List.map_eq_cons_iff.mp hrest with ⟨failure, others, rfl, hfailure, hothers⟩
      rw [List.map_eq_nil_iff.mp hothers] at hlist
      refine ⟨desk, rfl, answer, failure, hlist, hanswer, hfailure, ?_⟩
      apply (shows_newest leaveWindow_passive hopened crossing).2.2.1 answer
      · rw [hlist]
        exact List.mem_cons_self
      · rw [hlist]
        intro other hother
        rcases List.mem_cons.mp hother with rfl | hother
        · exact Nat.le_refl _
        · rw [List.mem_singleton.mp hother, hanswer, hfailure]
          exact Nat.le_succ 1

end Desk

end ContainerDesk
