import ContainerDesk.Proofs.Settings.Watch
import ContainerDesk.Window.Event

/-!
# The steps between settings and window

Much of what happens on a desk goes on beside the settings and the window: the engine is
asked, texts are shown, the journal grows.  A property of settings and window alone is not
touched by any of that, so a command keeps it if one more request does, and the observer of
the timers keeps it if each of the two timers does.
-/

namespace ContainerDesk

namespace Desk

open ContainerDesk.Action (Keeps)

/-- Does a property depend on the window and on the settings only, and not on their journal? -/
def IsAboutWindow (P : Desk → Prop) : Prop :=
  ∀ desk other : Desk, other.surroundings.window = desk.surroundings.window →
    (∃ journal, other.store = { desk.store with journal }) → P desk → P other

variable {P : Desk → Prop}

theorem keeps_window : Keeps P window :=
  fun _ h => h

theorem keeps_setting (sectionName key : Text) : Keeps P (setting sectionName key) :=
  fun _ h => h

theorem keeps_doing {action : Action Desk Unit} (h : Keeps P action) : Keeps P (doing action) :=
  Action.keeps_bind h fun _ => Action.keeps_pure _

theorem snd_doing (action : Action Desk Unit) (desk : Desk) :
    (doing action desk).2 = (action desk).2 := by
  unfold doing
  rw [Action.bind_apply]
  rcases action desk with ⟨result, after⟩
  cases result with
  | error fault => rfl
  | ok done => rfl

theorem keeps_trying {action : Action Desk Bool} (h : Keeps P action) : Keeps P (trying action) :=
  Action.keeps_bind h fun _ => Action.keeps_pure _

theorem snd_trying (action : Action Desk Bool) (desk : Desk) :
    (trying action desk).2 = (action desk).2 := by
  unfold trying
  rw [Action.bind_apply]
  rcases action desk with ⟨result, after⟩
  cases result with
  | error fault => rfl
  | ok isThere => rfl

theorem keeps_changeTree {f : Tree → Option Tree}
    (hf : ∀ desk tree, f desk.surroundings.window.tree = some tree → P desk →
      P (desk.mapWindow fun window => { window with tree })) :
    Keeps P (changeTree f) := by
  intro desk h
  have hwindow : window desk = (.ok desk.surroundings.window, desk) := rfl
  unfold changeTree
  rw [Action.bind_of_ok hwindow]
  cases htree : f desk.surroundings.window.tree with
  | none => exact h
  | some tree => exact hf desk tree htree h

/-!
# Timers
-/

section Pacing

variable (hrefreshTimer : ∀ interval,
    Keeps P (changeWindow fun window => { window with refreshTimer := interval }))
  (hloadTimer : ∀ interval,
    Keeps P (changeWindow fun window => { window with loadTimer := interval }))
  (hshow : Keeps P showLoad)

include hrefreshTimer in
theorem keeps_restartRefreshTimer : Keeps P restartRefreshTimer := by
  refine Action.keeps_bind (hrefreshTimer none) fun _ => ?_
  refine Action.keeps_bind (keeps_setting _ _) fun enabled => ?_
  split
  · refine Action.keeps_bind (keeps_setting _ _) fun rate => ?_
    exact Action.keeps_bind (Action.keeps_settle _) fun interval => hrefreshTimer (some interval)
  · exact Action.keeps_pure ()

include hloadTimer hshow in
theorem keeps_restartLoadTimer : Keeps P restartLoadTimer := by
  refine Action.keeps_bind (hloadTimer none) fun _ => ?_
  refine Action.keeps_bind (keeps_setting _ _) fun enabled => ?_
  split
  · refine Action.keeps_bind (keeps_setting _ _) fun rate => ?_
    refine Action.keeps_bind (Action.keeps_settle _) fun interval => ?_
    exact Action.keeps_bind (hloadTimer (some interval)) fun _ => hshow
  · exact Action.keeps_pure ()

include hrefreshTimer hloadTimer hshow in
theorem keeps_followSetting (key : Text) : Keeps P (followSetting key) := by
  unfold followSetting
  split
  · exact keeps_restartLoadTimer hloadTimer hshow
  · exact keeps_restartRefreshTimer hrefreshTimer

end Pacing

theorem keeps_showLoad
    (hload : ∀ texts, Keeps P (changeWindow fun window =>
      { window with footer := window.footer.setLoad window.language texts })) :
    Keeps P showLoad := by
  intro desk h
  unfold showLoad
  split
  · exact h
  · exact hload _ desk h

theorem store_followSetting (key : Text) (desk : Desk) :
    (followSetting key desk).2.store = desk.store :=
  keeps_followSetting (P := fun other => other.store = desk.store) (fun _ _ h => h)
    (fun _ _ h => h) (keeps_showLoad fun _ _ h => h) key desk rfl

theorem scene_followChange (change : Change) (desk : Desk) :
    ({ desk with surroundings := (followChange change desk).surroundings } : Desk) =
      if change.concerns refreshSection then (followSetting change.key desk).2 else desk := by
  have hstore := store_followSetting change.key desk
  unfold followChange
  split
  · rcases hfollow : followSetting change.key desk with ⟨result, after⟩
    rw [hfollow] at hstore
    dsimp only at hstore
    rw [← hstore]
    cases result with
    | ok done => rfl
    | error fault => rfl
  · rfl

/-- Those who watch keep a property if following the settings for the timers does, and if those from
outside do. -/
theorem kept_reactions {others : Reactions Desktop} (hfollow : ∀ key, Keeps P (followSetting key))
    (hothers : ∀ name label change desk, P desk →
      P { desk with surroundings := (others (.outside name label) change desk).surroundings })
    (observer : Observer) (change : Change) (desk : Desk) (h : P desk) :
    P { desk with surroundings := (reactions others observer change desk).surroundings } := by
  cases observer with
  | changeJournal => exact h
  | refreshTimers =>
      dsimp only [reactions]
      rw [scene_followChange]
      split
      · exact hfollow change.key desk h
      · exact h
  | outside name label => exact hothers name label change desk h

theorem acts_reactions {others : Reactions Desktop} {permitted : Act → Prop}
    (hothers : ∀ name label change desk,
      ∀ act ∈ (others (.outside name label) change desk).acts, permitted act)
    (observer : Observer) (change : Change) (desk : Desk) :
    ∀ act ∈ (reactions others observer change desk).acts, permitted act := by
  cases observer with
  | changeJournal => exact fun _ hact => absurd hact List.not_mem_nil
  | refreshTimers =>
      have hnone : (followChange change desk).acts = [] := by
        unfold followChange
        split
        · split
          · rfl
          · rfl
        · rfl
      intro act hact
      change act ∈ (followChange change desk).acts at hact
      rw [hnone] at hact
      exact absurd hact List.not_mem_nil
  | outside name label => exact hothers name label change desk

/-!
# Beside settings and window
-/

section Beside

variable (h : IsAboutWindow P)

include h

theorem keeps_note (entries : Journal) : Keeps P (note entries) :=
  fun desk => h desk _ rfl ⟨_, rfl⟩

theorem keeps_prompt (shown : Prompt) : Keeps P (prompt shown) :=
  fun desk => h desk _ rfl ⟨_, rfl⟩

theorem keeps_showDialog (dialog : TextDialog) (presses : List Nat) :
    Keeps P (showDialog dialog presses) :=
  fun desk => h desk _ rfl ⟨_, rfl⟩

theorem keeps_withEngine {α : Type} (work : Action EngineSession α) :
    Keeps P (withEngine work) :=
  fun desk => h desk _ rfl ⟨_, rfl⟩

theorem keeps_setEngine (engine : Engine) : Keeps P (setEngine engine) :=
  fun desk => h desk _ rfl ⟨_, rfl⟩

theorem keeps_setHost (host : HostLoad) : Keeps P (setHost host) :=
  fun desk => h desk _ rfl ⟨_, rfl⟩

theorem keeps_complain (message : Text) : Keeps P (complain message) := by
  refine Action.keeps_bind (keeps_note h _) fun _ => ?_
  exact Action.keeps_bind keeps_window fun _ => keeps_prompt h _

/-!
# Commands
-/

variable (hrefresh : Keeps P refresh)

include hrefresh

theorem keeps_perform (word : String) (container : Container) (work : Action EngineSession Bool) :
    Keeps P (perform word container work) := by
  refine Action.keeps_bind (keeps_note h _) fun _ => ?_
  refine Action.keeps_bind (keeps_withEngine h work) fun result => ?_
  split
  · exact hrefresh
  · exact Action.keeps_bind keeps_window fun _ => keeps_complain h _
  · exact keeps_complain h _
  · exact fun _ hdesk => hdesk

theorem keeps_command (asked : RowCommand) (container : Container) (replies : Replies) :
    Keeps P (command asked container replies) := by
  refine Action.keeps_bind (fun _ hdesk => hdesk) fun desk => ?_
  cases asked with
  | start => exact keeps_perform h hrefresh _ container _
  | stop => exact keeps_perform h hrefresh _ container _
  | restart => exact keeps_perform h hrefresh _ container _
  | logs => exact Action.keeps_bind (keeps_withEngine h _) fun _ => keeps_showDialog h _ _
  | login => exact keeps_showDialog h _ _
  | delete =>
      refine Action.keeps_bind (keeps_prompt h _) fun _ => ?_
      split
      · exact keeps_perform h hrefresh _ container _
      · exact Action.keeps_pure ()

theorem keeps_press (id : Text) (button : Nat) (replies : Replies) :
    Keeps P (press id button replies) := by
  refine Action.keeps_bind keeps_window fun window => ?_
  split
  · exact Action.keeps_bind (keeps_command h hrefresh _ _ replies) fun _ => Action.keeps_pure true
  · exact Action.keeps_pure false

omit h in
theorem keeps_onRefreshTimer : Keeps P onRefreshTimer := by
  intro desk hdesk
  have hrequested := hrefresh desk hdesk
  change P (desk.mapWindow fun window =>
    if window.fetches.isEmpty then window.request else window)
  change P (desk.mapWindow (·.request)) at hrequested
  unfold mapWindow at hrequested ⊢
  dsimp only
  split
  · exact hrequested
  · exact hdesk

omit h in
theorem keeps_onTimer (hshow : Keeps P showLoad) (timer : Timer) : Keeps P (onTimer timer) := by
  cases timer with
  | refresh =>
      refine Action.keeps_bind keeps_window fun window => ?_
      split
      · exact keeps_doing (keeps_onRefreshTimer hrefresh)
      · exact Action.keeps_pure _
  | load =>
      refine Action.keeps_bind keeps_window fun window => ?_
      split
      · exact keeps_doing hshow
      · exact Action.keeps_pure _

end Beside

/-!
# The end of a request
-/

section Finishing

variable (h : IsAboutWindow P)
  (hdeliver : ∀ generation outcome clock, Keeps P (deliver generation outcome clock))

include h hdeliver

theorem keeps_runFetch (fetch : Fetch) (interruption : Interruption) (clock : Text) :
    Keeps P (runFetch fetch interruption clock) := by
  intro desk hdesk
  have hasked := keeps_withEngine h (Access.fetchGroups desk.store.get) desk hdesk
  unfold runFetch
  split
  · exact hdesk
  · split
    · rename_i groups after hgroups
      rw [hgroups] at hasked
      split
      · exact hasked
      · exact hdeliver _ _ _ after hasked
    · rename_i message after hfailure
      rw [hfailure] at hasked
      exact hdeliver _ _ _ after hasked
    · rename_i fault after _ hfault
      rw [hfault] at hasked
      exact hasked

theorem keeps_finish (hforget : ∀ generation, Keeps P (changeWindow (·.forget generation)))
    (index : Nat) (interruption : Interruption) (clock : Text) :
    Keeps P (finish index interruption clock) := by
  intro desk hdesk
  unfold finish
  split
  · exact hdesk
  · exact hforget _ _ (keeps_runFetch h hdeliver _ interruption clock desk hdesk)

end Finishing

/-!
# Setting values
-/

def appSetting (key : String) : Text × Text :=
  (Text.of "app", Text.of key)

def filterSetting : Text × Text :=
  (Text.of "ui_state", Text.of "only_running")

def widthsSetting : Text × Text :=
  (Text.of "ui_state", Text.of "column_widths")

def rectSettings : List (Text × Text) :=
  [appSetting "window_width", appSetting "window_height", appSetting "window_x",
    appSetting "window_y"]

def lookSettings : List (Text × Text) :=
  widthsSetting :: appSetting "window_maximized" :: rectSettings

/-- What closing does once the timers have stopped. -/
def leave (others : Reactions Desktop) : Action Desk Unit := do
  changeWindow (·.interruptFetches)
  rememberPlace others
  let after ← window
  set others (Text.of "ui_state") (Text.of "column_widths") (.list (after.widths.map .int))
  Action.on (·.store) (fun desk store => { desk with store }) Store.save
  changeWindow fun window => { window with isClosed := true }

theorem close_apply (others : Reactions Desktop) (desk : Desk) :
    close others desk =
      leave others (mapWindow (desk.mapStore (·.unregister .refreshTimers)) (·.stopTimers)) := rfl

section Setting

variable {others : Reactions Desktop}

theorem keeps_setOnlyRunning {onlyRunning : Bool}
    (htree : Keeps P (changeWindow fun window =>
      { window with tree := window.tree.setOnlyRunning window.language onlyRunning }))
    (hset : Keeps P (set others (Text.of "ui_state") (Text.of "only_running")
      (.bool onlyRunning))) :
    Keeps P (setOnlyRunning others onlyRunning) := by
  refine Action.keeps_bind keeps_window fun window => ?_
  split
  · exact Action.keeps_pure ()
  · exact Action.keeps_bind htree fun _ => hset

variable (hset : ∀ entry ∈ lookSettings, ∀ value, Keeps P (set others entry.1 entry.2 value))

include hset

theorem keeps_rememberRect (rect : Rect) : Keeps P (rememberRect others rect) := by
  refine Action.keeps_bind (hset (appSetting "window_width") (by decide) _) fun _ => ?_
  refine Action.keeps_bind (hset (appSetting "window_height") (by decide) _) fun _ => ?_
  refine Action.keeps_bind (hset (appSetting "window_x") (by decide) _) fun _ => ?_
  exact hset (appSetting "window_y") (by decide) _

theorem keeps_rememberPlace : Keeps P (rememberPlace others) := by
  refine Action.keeps_bind keeps_window fun before => ?_
  refine Action.keeps_bind (hset (appSetting "window_maximized") (by decide) _) fun _ => ?_
  split
  · exact Action.keeps_pure ()
  · exact Action.keeps_bind keeps_window fun between => keeps_rememberRect hset _

theorem keeps_leave (hinterrupt : Keeps P (changeWindow (·.interruptFetches)))
    (hsave : ∀ desk, P desk → P { desk with store := (Store.save desk.store).2 })
    (hclosed : Keeps P (changeWindow fun window => { window with isClosed := true })) :
    Keeps P (leave others) := by
  refine Action.keeps_bind hinterrupt fun _ => ?_
  refine Action.keeps_bind (keeps_rememberPlace hset) fun _ => ?_
  refine Action.keeps_bind keeps_window fun after => ?_
  refine Action.keeps_bind (hset widthsSetting (by decide) _) fun _ => ?_
  exact Action.keeps_bind hsave fun _ => hclosed

end Setting

end Desk

end ContainerDesk
