import ContainerDesk.Proofs.Settings.Run
import ContainerDesk.Proofs.Window.Setup

/-!
# The pace of the timers

Each timer has a switch and a pace among the settings.  To start a timer over is to read
both and to bring the timer in step with them; nothing else comes of it, except that the
load is shown when its timer starts.  A desk is opened by doing so for both timers.
-/

namespace ContainerDesk

namespace Desk

namespace Timer

def switch : Timer → Text
  | .refresh => Text.of "auto_refresh_enabled"
  | .load => Text.of "system_metrics_enabled"

def pace : Timer → Text
  | .refresh => Text.of "refresh_rate_ms"
  | .load => Text.of "system_metrics_refresh_ms"

def interval : Timer → Window → Option Int
  | .refresh, window => window.refreshTimer
  | .load, window => window.loadTimer

def restart : Timer → Action Desk Unit
  | .refresh => restartRefreshTimer
  | .load => restartLoadTimer

/-- The timer that starts over when a setting of the refresh section changes. -/
def following (key : Text) : Timer :=
  if (Text.of "system_metrics").isPrefixOf key then .load else .refresh

theorem following_switch (timer : Timer) : following timer.switch = timer := by
  cases timer with
  | refresh => rfl
  | load => rfl

theorem following_pace (timer : Timer) : following timer.pace = timer := by
  cases timer with
  | refresh => rfl
  | load => rfl

theorem exists_switchField (timer : Timer) :
    ∃ default, Schema.field? refreshSection timer.switch = some (Schema.flagField default) := by
  cases timer with
  | refresh => exact ⟨_, rfl⟩
  | load => exact ⟨_, rfl⟩

theorem exists_paceField (timer : Timer) :
    ∃ default low high,
      Schema.field? refreshSection timer.pace = some (Schema.rangeField default low high) := by
  cases timer with
  | refresh => exact ⟨_, _, _, rfl⟩
  | load => exact ⟨_, _, _, rfl⟩

theorem interval_eq {window other : Window} (hrefresh : window.refreshTimer = other.refreshTimer)
    (hload : window.loadTimer = other.loadTimer) (timer : Timer) :
    timer.interval window = timer.interval other := by
  cases timer with
  | refresh => exact hrefresh
  | load => exact hload

end Timer

theorem followSetting_eq (key : Text) : followSetting key = (Timer.following key).restart := by
  unfold followSetting Timer.following
  split
  · rfl
  · rfl

/-- Does a timer run exactly if it is switched on, and then at the pace that is set? -/
def InStep (timer : Timer) (desk : Desk) : Prop :=
  ∃ isOn rate,
    desk.store.get refreshSection timer.switch = .ok (.bool isOn) ∧
    desk.store.get refreshSection timer.pace = .ok (.int rate) ∧
    timer.interval desk.surroundings.window = if isOn then some rate else none

theorem InStep.congr {timer : Timer} {desk other : Desk} (h : InStep timer desk)
    (hswitch : ∀ value, desk.store.get refreshSection timer.switch = .ok value →
      other.store.get refreshSection timer.switch = .ok value)
    (hpace : ∀ value, desk.store.get refreshSection timer.pace = .ok value →
      other.store.get refreshSection timer.pace = .ok value)
    (hinterval : timer.interval other.surroundings.window =
      timer.interval desk.surroundings.window) : InStep timer other := by
  rcases h with ⟨isOn, rate, hisOn, hrate, hruns⟩
  exact ⟨isOn, rate, hswitch _ hisOn, hpace _ hrate, hinterval.trans hruns⟩

theorem exists_pace {desk : Desk} (h : desk.IsSound) (timer : Timer) :
    ∃ isOn rate,
      desk.store.get refreshSection timer.switch = .ok (.bool isOn) ∧
      desk.store.get refreshSection timer.pace = .ok (.int rate) := by
  rcases Store.IsSound.exists_bool h timer.exists_switchField with ⟨isOn, hswitch⟩
  rcases Store.IsSound.exists_int h timer.exists_paceField with ⟨rate, hpace⟩
  exact ⟨isOn, rate, hswitch, hpace⟩

/-!
# Starting a timer over
-/

section Restarting

variable {desk : Desk} {isOn : Bool} {rate : Int}

theorem restartRefreshTimer_apply
    (hswitch : desk.store.get refreshSection Timer.refresh.switch = .ok (.bool isOn))
    (hpace : desk.store.get refreshSection Timer.refresh.pace = .ok (.int rate)) :
    restartRefreshTimer desk =
      (.ok (), desk.mapWindow fun window =>
        { window with refreshTimer := if isOn then some rate else none }) := by
  let stopped := desk.mapWindow fun window => { window with refreshTimer := none }
  have hstop : changeWindow (fun window => { window with refreshTimer := none }) desk =
      (.ok (), stopped) := rfl
  have hisOn : setting refreshSection (Text.of "auto_refresh_enabled") stopped =
      (.ok (.bool isOn), stopped) := Prod.ext hswitch rfl
  have hrate : setting refreshSection (Text.of "refresh_rate_ms") stopped =
      (.ok (.int rate), stopped) := Prod.ext hpace rfl
  unfold restartRefreshTimer
  rw [Action.bind_of_ok hstop, Action.bind_of_ok hisOn]
  cases isOn with
  | true =>
      show (setting _ _ >>= _) stopped = _
      rw [Action.bind_of_ok hrate]
      rfl
  | false => rfl

theorem restartLoadTimer_apply
    (hswitch : desk.store.get refreshSection Timer.load.switch = .ok (.bool isOn))
    (hpace : desk.store.get refreshSection Timer.load.pace = .ok (.int rate)) :
    restartLoadTimer desk =
      if isOn then
        showLoad (desk.mapWindow fun window => { window with loadTimer := some rate })
      else
        (.ok (), desk.mapWindow fun window => { window with loadTimer := none }) := by
  let stopped := desk.mapWindow fun window => { window with loadTimer := none }
  have hstop : changeWindow (fun window => { window with loadTimer := none }) desk =
      (.ok (), stopped) := rfl
  have hisOn : setting refreshSection (Text.of "system_metrics_enabled") stopped =
      (.ok (.bool isOn), stopped) := Prod.ext hswitch rfl
  have hrate : setting refreshSection (Text.of "system_metrics_refresh_ms") stopped =
      (.ok (.int rate), stopped) := Prod.ext hpace rfl
  unfold restartLoadTimer
  rw [Action.bind_of_ok hstop, Action.bind_of_ok hisOn]
  cases isOn with
  | true =>
      show (setting _ _ >>= _) stopped = _
      rw [Action.bind_of_ok hrate]
      rfl
  | false => rfl

theorem store_restart (timer : Timer) (desk : Desk) :
    (timer.restart desk).2.store = desk.store := by
  have h := store_followSetting timer.switch desk
  rwa [followSetting_eq, Timer.following_switch] at h

/-- The load may fail to be read, but then its timer runs already. -/
theorem inStep_restart (h : desk.IsSound) (timer : Timer) :
    InStep timer (timer.restart desk).2 := by
  rcases exists_pace h timer with ⟨isOn, rate, hswitch, hpace⟩
  refine ⟨isOn, rate, ?_, ?_, ?_⟩
  · rw [store_restart]
    exact hswitch
  · rw [store_restart]
    exact hpace
  · cases timer with
    | refresh =>
        show Timer.refresh.interval (restartRefreshTimer desk).2.surroundings.window = _
        rw [restartRefreshTimer_apply hswitch hpace]
        rfl
    | load =>
        show Timer.load.interval (restartLoadTimer desk).2.surroundings.window = _
        rw [restartLoadTimer_apply hswitch hpace]
        cases isOn with
        | true =>
            exact keeps_showLoad (P := fun desk => desk.surroundings.window.loadTimer = some rate)
              (fun _ _ h => h) _ rfl
        | false => rfl

theorem interval_restart_of_ne {timer other : Timer} (h : other ≠ timer) (desk : Desk) :
    other.interval (timer.restart desk).2.surroundings.window =
      other.interval desk.surroundings.window := by
  cases timer with
  | refresh =>
      cases other with
      | refresh => exact absurd rfl h
      | load =>
          exact keeps_restartRefreshTimer
            (P := fun after => after.surroundings.window.loadTimer =
              desk.surroundings.window.loadTimer) (fun _ _ h => h) desk rfl
  | load =>
      cases other with
      | refresh =>
          exact keeps_restartLoadTimer
            (P := fun after => after.surroundings.window.refreshTimer =
              desk.surroundings.window.refreshTimer) (fun _ _ h => h)
            (keeps_showLoad fun _ _ h => h) desk rfl
      | load => exact absurd rfl h

theorem InStep.restart {timer : Timer} (h : InStep timer desk) (hsound : desk.IsSound)
    (other : Timer) : InStep timer (other.restart desk).2 := by
  by_cases hother : timer = other
  · rw [hother]
    exact inStep_restart hsound other
  · refine h.congr ?_ ?_ (interval_restart_of_ne hother desk)
    · rw [store_restart]
      exact fun _ hget => hget
    · rw [store_restart]
      exact fun _ hget => hget

end Restarting

/-!
# Opening
-/

def untouched (window : Window) (host : HostLoad) (store : Store) : Desk :=
  {
    store := store.register .refreshTimers
    surroundings := { window, host, clipboard := [], engine := .idle, calls := [], prompts := [] }
  }

theorem opened_eq_ok {language : Language} {usualWidth : Int} {host : HostLoad} {store : Store}
    {desk : Desk} :
    opened language usualWidth host store = .ok desk ↔
      ∃ window, Window.ofSettings language usualWidth store = .ok window ∧
        start (untouched window host store) = (.ok (), desk) := by
  unfold opened unopened
  cases Window.ofSettings language usualWidth store with
  | error fault =>
      constructor
      · intro h
        cases h
      · rintro ⟨window, hwindow, _⟩
        cases hwindow
  | ok window =>
      simp only [bind, Except.bind]
      constructor
      · intro h
        refine ⟨window, rfl, ?_⟩
        split at h
        · rename_i after hstart
          cases h
          exact hstart
        · cases h
      · rintro ⟨_, hwindow, hstart⟩
        cases hwindow
        unfold untouched at hstart
        rw [hstart]

theorem start_apply {desk : Desk} (h : desk.IsSound) :
    start desk =
      restartLoadTimer (restartRefreshTimer (desk.mapWindow (·.request))).2 := by
  have hrequested : refresh desk = (.ok (), desk.mapWindow (·.request)) := rfl
  have hsound : Scene.IsSound (desk.mapWindow (·.request)) := h
  rcases exists_pace hsound .refresh with ⟨isOn, rate, hswitch, hpace⟩
  have hrestarted := restartRefreshTimer_apply hswitch hpace
  unfold start
  rw [Action.bind_of_ok hrequested, Action.bind_of_ok hrestarted, hrestarted]

theorem store_start {desk : Desk} (h : desk.IsSound) : (start desk).2.store = desk.store := by
  rw [start_apply h]
  exact (store_restart .load _).trans (store_restart .refresh _)

theorem store_opened {language : Language} {usualWidth : Int} {host : HostLoad} {store : Store}
    (h : store.IsSound) {desk : Desk}
    (hopened : opened language usualWidth host store = .ok desk) :
    desk.store = store.register .refreshTimers := by
  rcases opened_eq_ok.mp hopened with ⟨window, _, hstart⟩
  have hsound : Scene.IsSound (untouched window host store) := h.register .refreshTimers
  have hstore := store_start hsound
  rw [hstart] at hstore
  exact hstore

theorem isSound_opened {language : Language} {usualWidth : Int} {host : HostLoad} {store : Store}
    (h : store.IsSound) {desk : Desk}
    (hopened : opened language usualWidth host store = .ok desk) : desk.IsSound := by
  show desk.store.IsSound
  rw [store_opened h hopened]
  exact h.register .refreshTimers

end Desk

end ContainerDesk
