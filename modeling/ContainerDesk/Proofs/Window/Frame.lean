import ContainerDesk.Proofs.Window.Result
import ContainerDesk.Proofs.Window.Steps

/-!
# What leaves requests and results alone

Filters, timers, settings, dialogs and calls to the engine leave what the window keeps of
requests and results.  Only requests and their ends change it, so whatever one more
request keeps is kept by every event but the end of a request.
-/

namespace ContainerDesk

/-!
# The tree
-/

namespace Tree

structure SameSnapshot (tree other : Tree) : Prop where
  groups : tree.groups = other.groups
  emptyText : tree.emptyText = other.emptyText

variable (tree : Tree)

theorem sameSnapshot_search (language : Language) (query : Text) :
    (tree.search language query).SameSnapshot tree := by
  unfold search
  split
  · exact ⟨rfl, rfl⟩
  · exact ⟨rfl, rfl⟩

theorem sameSnapshot_setOnlyRunning (language : Language) (onlyRunning : Bool) :
    (tree.setOnlyRunning language onlyRunning).SameSnapshot tree := by
  unfold setOnlyRunning
  split
  · exact ⟨rfl, rfl⟩
  · exact ⟨rfl, rfl⟩

variable {tree} {after : Tree}

theorem sameSnapshot_expand {key : Text} {isExpanded : Bool}
    (h : tree.expand? key isExpanded = some after) : after.SameSnapshot tree := by
  unfold expand? at h
  split at h
  · cases h
  · split at h
    · cases h
      exact ⟨rfl, rfl⟩
    · cases h
      exact ⟨rfl, rfl⟩

theorem sameSnapshot_select {path : List Nat} (h : tree.select? path = some after) :
    after.SameSnapshot tree := by
  unfold select? at h
  split at h
  · cases h
    exact ⟨rfl, rfl⟩
  · rcases Option.map_eq_some_iff.mp h with ⟨current, _, rfl⟩
    exact ⟨rfl, rfl⟩

end Tree

theorem Window.progress_tree (window : Window) {tree : Tree} (h : tree.SameSnapshot window.tree) :
    { window with tree }.progress = window.progress := by
  unfold progress screen
  rw [h.groups, h.emptyText]

namespace Desk

/-- Does what the window keeps of requests and results have a property? -/
def Has (Q : Window.Progress → Prop) (desk : Desk) : Prop :=
  Q desk.surroundings.window.progress

/-- Do outside observers leave the window alone? -/
def LeaveWindow (others : Reactions Desktop) : Prop :=
  ∀ observer change desk,
    (others observer change desk).surroundings.window = desk.surroundings.window

def Event.IsQuiet : Event → Prop
  | .refresh | .tick .refresh _ | .finish .. | .press .. => False
  | _ => True

open ContainerDesk.Action (Keeps)

variable {Q : Window.Progress → Prop}

theorem isAboutWindow_has : IsAboutWindow (Has Q) := by
  intro desk other hwindow _ h
  unfold Has
  rw [hwindow]
  exact h

theorem keeps_changeWindow {f : Window → Window}
    (hf : ∀ window, (f window).progress = window.progress) : Keeps (Has Q) (changeWindow f) := by
  intro desk h
  change Q (f desk.surroundings.window).progress
  rw [hf]
  exact h

theorem has_tree {desk : Desk} {tree : Tree} (h : tree.SameSnapshot desk.surroundings.window.tree)
    (hdesk : Has Q desk) : Has Q (desk.mapWindow fun window => { window with tree }) := by
  change Q { desk.surroundings.window with tree }.progress
  rw [Window.progress_tree _ h]
  exact hdesk

theorem keeps_refresh (hrequest : ∀ progress, Q progress → Q progress.request) :
    Keeps (Has Q) refresh := by
  intro desk h
  change Q desk.surroundings.window.request.progress
  rw [Window.progress_request]
  exact hrequest _ h

theorem has_showLoad : Keeps (Has Q) showLoad :=
  keeps_showLoad fun _ => keeps_changeWindow fun _ => rfl

/-!
# Settings
-/

theorem has_followSetting (key : Text) : Keeps (Has Q) (followSetting key) :=
  keeps_followSetting (fun _ => keeps_changeWindow fun _ => rfl)
    (fun _ => keeps_changeWindow fun _ => rfl) has_showLoad key

theorem keptBy_reactions {others : Reactions Desktop} (hothers : LeaveWindow others) :
    Scene.KeptBy (Has Q) (reactions others) where
  register := fun _ _ h => h
  unregister := fun _ _ h => h
  noteAll := fun _ _ h => h
  assign := fun _ _ _ _ _ _ h _ => h
  react := by
    intro desk observer change h
    refine kept_reactions has_followSetting ?_ observer change desk h
    intro name label change desk h
    unfold Has
    dsimp only
    rw [hothers]
    exact h

variable {others : Reactions Desktop} (hothers : LeaveWindow others)

include hothers

theorem keeps_set (sectionName key : Text) (value : Value) :
    Keeps (Has Q) (set others sectionName key value) :=
  Scene.keeps_setWithin (keptBy_reactions hothers) Scene.nestingLimit sectionName key value

theorem keeps_close : Keeps (Has Q) (close others) := by
  have hinterrupt (window : Window) : window.interruptFetches.progress = window.progress := by
    unfold Window.progress Window.interruptFetches
    rw [List.map_map]
    rfl
  intro desk h
  rw [close_apply]
  exact keeps_leave (fun _ _ _ => keeps_set hothers _ _ _) (keeps_changeWindow hinterrupt)
    (fun _ h => h) (keeps_changeWindow fun _ => rfl) _ h

/-!
# Events
-/

theorem keeps_apply_of_quiet {event : Event} (hquiet : event.IsQuiet) :
    Keeps (Has Q) (apply others event) := by
  cases event with
  | tick timer host =>
      cases timer with
      | refresh => exact hquiet.elim
      | load =>
          refine Action.keeps_bind (keeps_setHost isAboutWindow_has host) fun _ => ?_
          refine Action.keeps_bind keeps_window fun window => ?_
          split
          · exact keeps_doing has_showLoad
          · exact Action.keeps_pure _
  | search query => exact keeps_doing fun _ => has_tree (Tree.sameSnapshot_search _ _ query)
  | onlyRunning onlyRunning =>
      exact keeps_doing (keeps_setOnlyRunning
        (fun _ => has_tree (Tree.sameSnapshot_setOnlyRunning _ _ onlyRunning))
        (keeps_set hothers _ _ _))
  | expand key isExpanded =>
      exact keeps_trying (keeps_changeTree fun _ _ h => has_tree (Tree.sameSnapshot_expand h))
  | select path =>
      exact keeps_trying (keeps_changeTree fun _ _ h => has_tree (Tree.sameSnapshot_select h))
  | set sectionName key value => exact keeps_doing (keeps_set hothers sectionName key value)
  | move rect => exact keeps_doing (keeps_changeWindow fun _ => rfl)
  | maximize isMaximized => exact keeps_doing (keeps_changeWindow fun _ => rfl)
  | resizeColumn column width => exact keeps_doing (keeps_changeWindow fun _ => rfl)
  | close => exact keeps_doing (keeps_close hothers)
  | refresh | finish | press => exact hquiet.elim

/-- Only the end of a request does more to requests and results than one more request does. -/
theorem keeps_apply (hrequest : ∀ progress, Q progress → Q progress.request) {event : Event}
    (hevent : ∀ index engine interruption clock, event ≠ .finish index engine interruption clock) :
    Keeps (Has Q) (apply others event) := by
  have hrefresh : Keeps (Has Q) refresh := keeps_refresh hrequest
  cases event with
  | refresh => exact keeps_doing hrefresh
  | tick timer host =>
      exact Action.keeps_bind (keeps_setHost isAboutWindow_has host) fun _ =>
        keeps_onTimer hrefresh has_showLoad timer
  | finish index engine interruption clock => exact absurd rfl (hevent _ _ _ _)
  | press id button replies engine =>
      exact Action.keeps_bind (keeps_setEngine isAboutWindow_has engine) fun _ =>
        keeps_trying (keeps_press isAboutWindow_has hrefresh id button replies)
  | _ => exact keeps_apply_of_quiet hothers trivial

end Desk

end ContainerDesk
