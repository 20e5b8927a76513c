import ContainerDesk.Proofs.Settings.Observers
import ContainerDesk.Proofs.Window.Pace

/-!
# Timers in step

While a window is open, each of its timers is in step with the settings whenever a value
has been set, whatever those who watch do about it in turn.  Who follows the settings for
the timers may be told late and of values that are out of date by then; but it is told
after the value was stored, and it reads the values that count.

Once closing has begun nobody follows the settings for the timers, and they stay stopped,
however closing ends.
-/

namespace ContainerDesk

namespace Desk

open ContainerDesk.Action (Keeps)

/-- Does an act of an outside observer leave the one who follows the settings for the timers
alone? -/
def SparesFollower : Act → Prop
  | .register observer | .unregister observer => observer ≠ .refreshTimers
  | .assign .. => True

/-- Do outside observers leave the timers alone, and the one who follows the settings for them? -/
structure SpareTimers (others : Reactions Desktop) : Prop where
  interval : ∀ name label change desk (timer : Timer),
    timer.interval (others (.outside name label) change desk).surroundings.window =
      timer.interval desk.surroundings.window
  acts : ∀ name label change desk,
    ∀ act ∈ (others (.outside name label) change desk).acts, SparesFollower act

/-- Is the store sound, and does exactly one follow the settings for the timers? -/
structure Followed (desk : Desk) : Prop where
  sound : desk.IsSound
  once : desk.store.observers.count .refreshTimers = 1

/-- Is the timer in step, with somebody to keep it so? -/
structure Paced (timer : Timer) (desk : Desk) : Prop where
  followed : Followed desk
  inStep : InStep timer desk

structure Stopped (desk : Desk) : Prop where
  interval : ∀ timer : Timer, timer.interval desk.surroundings.window = none
  unfollowed : desk.store.observers.count .refreshTimers = 0

variable {timer : Timer} {desk : Desk}

/-!
# Reactions
-/

theorem Followed.mem_observers (h : Followed desk) : .refreshTimers ∈ desk.store.observers := by
  apply List.count_pos_iff.mp
  rw [h.once]
  exact Nat.one_pos

theorem Followed.restart (h : Followed desk) (timer : Timer) :
    Followed (timer.restart desk).2 := by
  constructor
  · show (timer.restart desk).2.store.IsSound
    rw [store_restart]
    exact h.sound
  · rw [store_restart]
    exact h.once

theorem paced_restart (h : Followed desk) (timer : Timer) : Paced timer (timer.restart desk).2 :=
  ⟨h.restart timer, inStep_restart h.sound timer⟩

theorem Paced.restart (h : Paced timer desk) (other : Timer) :
    Paced timer (other.restart desk).2 :=
  ⟨h.followed.restart other, h.inStep.restart h.followed.sound other⟩

theorem paced_followSetting (key : Text) : Keeps (Paced timer) (followSetting key) := by
  intro desk h
  rw [followSetting_eq]
  exact h.restart _

section Reacting

variable {others : Reactions Desktop} (hothers : SpareTimers others)

include hothers

theorem keptWithin_followed :
    Scene.KeptWithin Followed (fun _ => True) SparesFollower (reactions others) where
  watching := fun _ _ _ _ => trivial
  acts := fun desk observer change _ => acts_reactions hothers.acts observer change desk
  register := fun desk observer hobserver h =>
    ⟨Store.IsSound.register h.sound observer,
      (desk.store.count_register_of_ne hobserver).trans h.once⟩
  unregister := fun desk observer hobserver h =>
    ⟨Store.IsSound.unregister h.sound observer,
      (desk.store.count_unregister_of_ne hobserver).trans h.once⟩
  noteAll := fun _ entries h => ⟨Store.IsSound.noteAll h.sound entries, h.once⟩
  react := fun _ _ _ _ h => ⟨h.sound, h.once⟩

theorem keptWithin_paced (timer : Timer) :
    Scene.KeptWithin (Paced timer) (fun _ => True) SparesFollower (reactions others) where
  watching := fun _ _ _ _ => trivial
  acts := (keptWithin_followed hothers).acts
  register := by
    intro desk observer hobserver h
    refine ⟨(keptWithin_followed hothers).register desk observer hobserver h.followed, ?_⟩
    exact h.inStep.congr (fun _ hget => (Store.get_register _ _ _ _).trans hget)
      (fun _ hget => (Store.get_register _ _ _ _).trans hget) rfl
  unregister := fun desk observer hobserver h =>
    ⟨(keptWithin_followed hothers).unregister desk observer hobserver h.followed, h.inStep⟩
  noteAll := fun desk entries h =>
    ⟨(keptWithin_followed hothers).noteAll desk entries h.followed, h.inStep⟩
  react := by
    intro desk observer change _ h
    refine kept_reactions paced_followSetting ?_ observer change desk h
    intro name label change desk h
    refine ⟨⟨h.followed.sound, h.followed.once⟩, ?_⟩
    exact h.inStep.congr (fun _ hget => hget) (fun _ hget => hget)
      (hothers.interval name label change desk timer)

theorem keptWithin_stopped :
    Scene.KeptWithin Stopped (· ≠ .refreshTimers) SparesFollower (reactions others) where
  watching := by
    rintro desk h observer hobserver rfl
    exact List.count_eq_zero.mp h.unfollowed hobserver
  acts := fun desk observer change _ => acts_reactions hothers.acts observer change desk
  register := fun desk observer hobserver h =>
    ⟨h.interval, (desk.store.count_register_of_ne hobserver).trans h.unfollowed⟩
  unregister := fun desk observer hobserver h =>
    ⟨h.interval, (desk.store.count_unregister_of_ne hobserver).trans h.unfollowed⟩
  noteAll := fun _ _ h => ⟨h.interval, h.unfollowed⟩
  react := by
    intro desk observer change htold h
    cases observer with
    | changeJournal => exact h
    | refreshTimers => exact absurd rfl htold
    | outside name label =>
        refine ⟨fun timer => ?_, h.unfollowed⟩
        exact (hothers.interval name label change desk timer).trans (h.interval timer)

/-!
# Values that are set
-/

omit hothers in
theorem followed_assign {name key : Text} {value old : Value} {store : Store}
    (h : Followed desk) (hassign : desk.store.assign name key value = .ok (old, store)) :
    Followed { desk with store } where
  sound := Store.IsSound.assign h.sound hassign
  once := by
    show store.observers.count .refreshTimers = 1
    rw [Store.observers_assign hassign]
    exact h.once

omit hothers in
theorem eq_of_same {key : Text} {value old : Value} {store : Store} (h : Followed desk)
    (hassign : desk.store.assign refreshSection key value = .ok (old, store))
    (hkey : key = timer.switch ∨ key = timer.pace) (hsame : old.same value = true) :
    value = old := by
  have hget := Store.get_old_of_assign hassign
  rcases hkey with rfl | rfl
  · rcases timer.exists_switchField with ⟨_, hfield⟩
    rcases Store.IsSound.exists_bool h.sound ⟨_, hfield⟩ with ⟨a, hold⟩
    rw [hget] at hold
    cases hold
    rcases Field.accepts_flag.mp (Store.IsSound.accepts_of_assign h.sound hfield hassign) with
      ⟨b, rfl⟩
    simpa [Value.same, Value.sameAtom, eq_comm] using hsame
  · rcases timer.exists_paceField with ⟨_, _, _, hfield⟩
    rcases Store.IsSound.exists_int h.sound ⟨_, _, _, hfield⟩ with ⟨m, hold⟩
    rw [hget] at hold
    cases hold
    rcases Field.accepts_range.mp (Store.IsSound.accepts_of_assign h.sound hfield hassign) with
      ⟨n, rfl, _⟩
    simpa [Value.same, Value.sameAtom, eq_comm] using hsame

omit hothers in
/-- A value that is stored leaves a timer in step, unless it is another one for the switch or the
pace of the timer. -/
theorem Paced.assign {name key : Text} {value old : Value} {store : Store} (h : Paced timer desk)
    (hassign : desk.store.assign name key value = .ok (old, store))
    (hsame : name = refreshSection → key = timer.switch ∨ key = timer.pace →
      old.same value = true) : Paced timer { desk with store } := by
  refine ⟨followed_assign h.followed hassign, h.inStep.congr ?_ ?_ rfl⟩
  · intro found
    apply Store.get_of_assign_of_eq hassign
    intro heq
    cases heq
    exact eq_of_same h.followed hassign (.inl rfl) (hsame rfl (.inl rfl))
  · intro found
    apply Store.get_of_assign_of_eq hassign
    intro heq
    cases heq
    exact eq_of_same h.followed hassign (.inr rfl) (hsame rfl (.inr rfl))

/-- A timer may be out of step after a value was stored, until the one who follows is told. -/
theorem paced_set (name key : Text) (value : Value) :
    Keeps (Paced timer) (set others name key value) := by
  refine Scene.keeps_setWithin_of_restored (keptWithin_followed hothers)
    (keptWithin_paced hothers timer) (fun _ h => h.followed) (fun _ h => h.mem_observers)
    (fun _ _ _ _ _ _ _ h hassign => followed_assign h hassign) ?_ Scene.nestingLimit trivial
  intro desk name key value old store _ h hassign
  by_cases hneeded : name = refreshSection ∧ (key = timer.switch ∨ key = timer.pace) ∧
    old.same value = false
  · rcases hneeded with ⟨rfl, hkey, hother⟩
    right
    intro later hlater
    have hconcerns : (Change.mk refreshSection key old value).concerns refreshSection = true := by
      simp [Change.concerns, Change.isReal, hother]
    have hfollowing : Timer.following key = timer := by
      rcases hkey with rfl | rfl
      · exact timer.following_switch
      · exact timer.following_pace
    dsimp only [reactions]
    rw [scene_followChange, if_pos hconcerns, followSetting_eq, hfollowing]
    exact paced_restart hlater timer
  · left
    apply h.assign hassign
    intro hname hkey
    rw [← Bool.not_eq_false]
    exact fun hother => hneeded ⟨hname, hkey, hother⟩

theorem stopped_set (name key : Text) (value : Value) :
    Keeps Stopped (set others name key value) := by
  refine Scene.keeps_setWithin_of_permitted (keptWithin_stopped hothers) ?_ Scene.nestingLimit
    trivial
  intro desk name key value old store _ h hassign
  refine ⟨h.interval, ?_⟩
  show store.observers.count .refreshTimers = 0
  rw [Store.observers_assign hassign]
  exact h.unfollowed

/-!
# Events
-/

omit hothers in
theorem Paced.congr {other : Desk} (h : Paced timer desk) (hsame : SameSetup other desk) :
    Paced timer other := by
  rcases hsame with ⟨hsetup, journal, hstore⟩
  refine ⟨⟨?_, ?_⟩, h.inStep.congr ?_ ?_ ?_⟩
  · show other.store.IsSound
    rw [hstore]
    exact Store.IsSound.congr h.followed.sound _ journal _
  · rw [hstore]
    exact h.followed.once
  · rw [hstore]
    exact fun _ hget => hget
  · rw [hstore]
    exact fun _ hget => hget
  · exact timer.interval_eq hsetup.refreshTimer hsetup.loadTimer

omit hothers in
theorem Stopped.congr {other : Desk} (h : Stopped desk) (hsame : SameSetup other desk) :
    Stopped other := by
  rcases hsame with ⟨hsetup, journal, hstore⟩
  constructor
  · intro timer
    rw [← h.interval timer]
    exact timer.interval_eq hsetup.refreshTimer hsetup.loadTimer
  · rw [hstore]
    exact h.unfollowed

omit hothers in
theorem paced_changeWindow {f : Window → Window}
    (hrefresh : ∀ window, (f window).refreshTimer = window.refreshTimer)
    (hload : ∀ window, (f window).loadTimer = window.loadTimer) :
    Keeps (Paced timer) (changeWindow f) :=
  fun _ h => ⟨⟨h.followed.sound, h.followed.once⟩,
    h.inStep.congr (fun _ hget => hget) (fun _ hget => hget)
      (timer.interval_eq (hrefresh _) (hload _))⟩

omit hothers in
theorem stopped_changeWindow {f : Window → Window}
    (hrefresh : ∀ window, (f window).refreshTimer = window.refreshTimer)
    (hload : ∀ window, (f window).loadTimer = window.loadTimer) :
    Keeps Stopped (changeWindow f) :=
  fun _ h => ⟨fun timer => (timer.interval_eq (hrefresh _) (hload _)).trans (h.interval timer),
    h.unfollowed⟩

theorem paced_apply {event : Event} (hevent : event ≠ .close) :
    Keeps (Paced timer) (apply others event) := by
  apply keeps_apply_of_setup
  · exact fun _ _ hsame h => h.congr hsame
  · exact fun _ hf => paced_changeWindow hf.refreshTimer hf.loadTimer
  · exact fun _ _ => keeps_setOnlyRunning (paced_changeWindow (fun _ => rfl) fun _ => rfl)
      (paced_set hothers _ _ _)
  · exact fun _ _ _ _ => paced_set hothers _ _ _
  · exact fun hclose => absurd hclose hevent

/-- Timers are stopped before anything in closing can fail. -/
theorem stopped_close (h : desk.store.observers.count .refreshTimers ≤ 1) :
    Stopped (close others desk).2 := by
  have hstopped :
      Stopped (mapWindow (desk.mapStore (·.unregister .refreshTimers)) (·.stopTimers)) := by
    constructor
    · intro timer
      cases timer with
      | refresh => rfl
      | load => rfl
    · show (desk.store.observers.erase .refreshTimers).count .refreshTimers = 0
      rw [List.count_erase_self]
      exact Nat.sub_eq_zero_of_le h
  rw [close_apply]
  refine keeps_leave (fun _ _ _ => stopped_set hothers _ _ _)
    (stopped_changeWindow (fun _ => rfl) fun _ => rfl) ?_
    (stopped_changeWindow (fun _ => rfl) fun _ => rfl) _ hstopped
  intro desk h
  refine ⟨h.interval, ?_⟩
  show (Store.save desk.store).2.observers.count .refreshTimers = 0
  rw [Store.observers_save]
  exact h.unfollowed

theorem stopped_apply (event : Event) : Keeps Stopped (apply others event) := by
  apply keeps_apply_of_setup
  · exact fun _ _ hsame h => h.congr hsame
  · exact fun _ hf => stopped_changeWindow hf.refreshTimer hf.loadTimer
  · exact fun _ _ => keeps_setOnlyRunning (stopped_changeWindow (fun _ => rfl) fun _ => rfl)
      (stopped_set hothers _ _ _)
  · exact fun _ _ _ _ => stopped_set hothers _ _ _
  · exact fun _ _ h => stopped_close hothers (h.unfollowed ▸ Nat.zero_le 1)

end Reacting

/-!
# Runs
-/

theorem paced_opened {σ : Type} {scene : Scene σ} (hscene : scene.Reachable) {language : Language}
    {usualWidth : Int} {host : HostLoad}
    (hopened : opened language usualWidth host scene.store = .ok desk) (timer : Timer) :
    Paced timer desk := by
  rcases opened_eq_ok.mp hopened with ⟨window, _, hstart⟩
  have hsound : Scene.IsSound (untouched window host scene.store) :=
    Store.IsSound.register hscene.isSound .refreshTimers
  have honce : (scene.store.register .refreshTimers).observers.count .refreshTimers = 1 := by
    rw [(Store.nodup_register hscene.isDistinct .refreshTimers).count,
      if_pos (scene.store.mem_register .refreshTimers)]
  have hfollowed : Followed ((untouched window host scene.store).mapWindow (·.request)) :=
    ⟨hsound, honce⟩
  have hdesk : desk = (start (untouched window host scene.store)).2 := by rw [hstart]
  rw [hdesk, start_apply hsound]
  cases timer with
  | refresh => exact (paced_restart hfollowed .refresh).restart .load
  | load => exact paced_restart (hfollowed.restart .refresh) .load

/-- After any events before closing, whatever was set and whatever observers did about it, each
timer runs exactly if it is switched on, at its pace.  From closing on, also if closing fails, both
timers are stopped. -/
theorem timers_inStep {σ : Type} {scene : Scene σ} (hscene : scene.Reachable)
    {others : Reactions Desktop} (hothers : SpareTimers others) {language : Language}
    {usualWidth : Int} {host : HostLoad}
    (hopened : opened language usualWidth host scene.store = .ok desk) :
    (∀ events, .close ∉ events → ∀ timer, InStep timer (after others desk events)) ∧
    ∀ events, .close ∈ events → ∀ timer : Timer,
      timer.interval (after others desk events).surroundings.window = none := by
  have hpaced (events : List Event) (hopen : .close ∉ events) (timer : Timer) :
      Paced timer (after others desk events) := by
    apply kept_after _ (paced_opened hscene hopened timer)
    intro event hevent
    apply paced_apply hothers
    rintro rfl
    exact hopen hevent
  constructor
  · exact fun events hopen timer => (hpaced events hopen timer).inStep
  · intro events hclosed
    rcases List.eq_append_cons_of_mem hclosed with ⟨before, later, rfl, hopen⟩
    have hstopped := stopped_close hothers (Nat.le_of_eq (hpaced before hopen .load).followed.once)
    rw [← snd_doing] at hstopped
    have hlater := kept_after (fun event (_ : event ∈ later) => stopped_apply hothers event)
      hstopped
    unfold after at hlater ⊢
    rw [List.foldl_append, List.foldl_cons]
    exact hlater.interval

/-- Whoever hears of a new pace switches the timer off, then asks for a pace that is refused, and
fails. -/
def meddling : Reactions Desktop :=
  fun observer change desk =>
    if change.key = Timer.refresh.pace then
      ⟨desk.surroundings, [], [.assign refreshSection Timer.refresh.switch (.bool false),
        .unregister observer, .assign refreshSection Timer.load.pace (.int 7)], true⟩
    else
      ⟨desk.surroundings, [], [], true⟩

theorem spareTimers_meddling : SpareTimers meddling where
  interval := by
    intro name label change desk timer
    unfold meddling
    split
    · rfl
    · rfl
  acts := by
    intro name label change desk act hact
    unfold meddling at hact
    split at hact
    · rcases List.mem_cons.mp hact with rfl | hact
      · trivial
      · rcases List.mem_cons.mp hact with rfl | hact
        · exact fun h => nomatch h
        · rw [List.mem_singleton.mp hact]
          trivial
    · exact absurd hact List.not_mem_nil

def watched : Scene Unit :=
  (Scene.run (fun _ _ _ => ⟨(), [], [], false⟩) (.register (.outside (Text.of "a") (Text.of "b")))
    ⟨Store.fresh (Disk.placeOf (Text.of "desk/config.json")) (Disk.empty (Text.of "/home")), ()⟩).2

theorem reachable_watched : watched.Reachable :=
  (Scene.Reachable.fresh (Text.of "desk/config.json") _ ()).operate _ trivial

/-- The timer hears of a pace when it is switched off already, and a pace after closing starts
nothing. -/
theorem timers_inStep_meddled :
    watched.Reachable ∧ SpareTimers meddling ∧
    ∃ desk, opened .english 100 ⟨.int 40, .int 4096, .int 8192, .int 7⟩ watched.store = .ok desk ∧
      let paced : Event := .set refreshSection Timer.refresh.pace (.int 5000)
      (∀ timer, InStep timer (after meddling desk [paced])) ∧
      (after meddling desk [paced]).surroundings.window.refreshTimer = none ∧
      ∀ timer : Timer,
        timer.interval (after meddling desk [.close, paced]).surroundings.window = none := by
  have hseen : ((opened .english 100 ⟨.int 40, .int 4096, .int 8192, .int 7⟩
      watched.store).toOption.map fun desk =>
        (after meddling desk [.set refreshSection Timer.refresh.pace
          (.int 5000)]).surroundings.window.refreshTimer) = some none := by decide +kernel
  rcases exists_ok_of_map hseen with ⟨desk, hopened, hrefresh⟩
  have htimers := timers_inStep reachable_watched spareTimers_meddling hopened
  refine ⟨reachable_watched, spareTimers_meddling, desk, hopened, htimers.1 _ ?_, hrefresh,
    htimers.2 _ List.mem_cons_self⟩
  exact fun hmem => nomatch List.mem_singleton.mp hmem

end Desk

end ContainerDesk
