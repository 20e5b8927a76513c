import ContainerDesk.Proofs.Window.Steps

/-!
# The setup of a window

Some of a window goes into settings or comes from them: its layout, which is its place
and size, the filter and the widths of its columns, and the pace of its timers.  Requests
and their results, commands and the view leave this setup alone, and the settings as well.
-/

namespace ContainerDesk

namespace Window

/-- How a window is laid out, and whether it is closed. -/
structure Layout where
  rect : Rect
  isMaximized : Bool
  isClosed : Bool
  onlyRunning : Bool
  widths : List Int

def layout (window : Window) : Layout :=
  {
    rect := window.rect
    isMaximized := window.isMaximized
    isClosed := window.isClosed
    onlyRunning := window.tree.onlyRunning
    widths := window.widths
  }

structure SameSetup (window other : Window) : Prop where
  layout : window.layout = other.layout
  refreshTimer : window.refreshTimer = other.refreshTimer
  loadTimer : window.loadTimer = other.loadTimer

theorem SameSetup.trans {window other third : Window} (h : window.SameSetup other)
    (hother : other.SameSetup third) : window.SameSetup third :=
  ⟨h.layout.trans hother.layout, h.refreshTimer.trans hother.refreshTimer,
    h.loadTimer.trans hother.loadTimer⟩

/-- Does a change of windows leave the filter, the number of columns and the timers alone? -/
structure Arranges (f : Window → Window) : Prop where
  onlyRunning : ∀ window, (f window).tree.onlyRunning = window.tree.onlyRunning
  columns : ∀ window, (f window).widths.length = window.widths.length
  refreshTimer : ∀ window, (f window).refreshTimer = window.refreshTimer
  loadTimer : ∀ window, (f window).loadTimer = window.loadTimer

theorem sameSetup_tree (window : Window) {tree : Tree}
    (h : tree.onlyRunning = window.tree.onlyRunning) :
    { window with tree }.SameSetup window := by
  refine ⟨?_, rfl, rfl⟩
  unfold layout
  rw [h]

theorem sameSetup_deliver {window after : Window} {generation : Nat} {outcome : Outcome}
    {clock : Text} {notes : Journal}
    (h : window.deliver generation outcome clock = .ok (after, notes)) :
    after.SameSetup window := by
  unfold deliver at h
  split at h
  · cases h
  · cases h
    exact ⟨rfl, rfl, rfl⟩
  · cases outcome with
    | groups groups =>
        cases h
        exact ⟨rfl, rfl, rfl⟩
    | failure message =>
        cases h
        exact ⟨rfl, rfl, rfl⟩

end Window

namespace Tree

variable {tree after : Tree}

theorem onlyRunning_search (tree : Tree) (language : Language) (query : Text) :
    (tree.search language query).onlyRunning = tree.onlyRunning := by
  unfold search
  split
  · rfl
  · rfl

theorem onlyRunning_expand {key : Text} {isExpanded : Bool}
    (h : tree.expand? key isExpanded = some after) : after.onlyRunning = tree.onlyRunning := by
  unfold expand? at h
  split at h
  · cases h
  · split at h
    · cases h
      rfl
    · cases h
      rfl

theorem onlyRunning_select {path : List Nat} (h : tree.select? path = some after) :
    after.onlyRunning = tree.onlyRunning := by
  unfold select? at h
  split at h
  · cases h
    rfl
  · rcases Option.map_eq_some_iff.mp h with ⟨current, _, rfl⟩
    rfl

theorem onlyRunning_setOnlyRunning (tree : Tree) (language : Language) (onlyRunning : Bool) :
    (tree.setOnlyRunning language onlyRunning).onlyRunning = onlyRunning := by
  unfold setOnlyRunning
  split
  · rename_i h
    exact h.symm
  · rfl

end Tree

namespace Desk

open ContainerDesk.Action (Keeps)

/-- Do two desks have the same setup and the same settings, the journal apart? -/
structure SameSetup (desk other : Desk) : Prop where
  window : desk.surroundings.window.SameSetup other.surroundings.window
  store : ∃ journal, desk.store = { other.store with journal }

variable {start : Desk}

theorem isAboutWindow_sameSetup : IsAboutWindow (SameSetup · start) := by
  rintro desk other hwindow ⟨journal, hstore⟩ ⟨hsetup, _, hdesk⟩
  refine ⟨?_, journal, ?_⟩
  · rw [hwindow]
    exact hsetup
  · rw [hstore, hdesk]

theorem keeps_sameSetup {f : Window → Window} (hf : ∀ window, (f window).SameSetup window) :
    Keeps (SameSetup · start) (changeWindow f) :=
  fun desk h => ⟨(hf desk.surroundings.window).trans h.window, h.store⟩

theorem sameSetup_deliver (generation : Nat) (outcome : Window.Outcome) (clock : Text) :
    Keeps (SameSetup · start) (deliver generation outcome clock) := by
  intro desk h
  unfold deliver
  split
  · exact h
  · rename_i window notes hdeliver
    exact keeps_note isAboutWindow_sameSetup notes (desk.mapWindow fun _ => window)
      ⟨(Window.sameSetup_deliver hdeliver).trans h.window, h.store⟩

def Event.IsCalm : Event → Prop
  | .refresh | .tick .. | .finish .. | .press .. | .search _ | .expand .. | .select _ => True
  | _ => False

theorem sameSetup_apply (others : Reactions Desktop) {event : Event} (hcalm : event.IsCalm)
    (desk : Desk) : SameSetup (apply others event desk).2 desk := by
  have habout : IsAboutWindow (SameSetup · desk) := isAboutWindow_sameSetup
  have hrefresh : Keeps (SameSetup · desk) refresh := keeps_sameSetup fun _ => ⟨rfl, rfl, rfl⟩
  have hshow : Keeps (SameSetup · desk) showLoad :=
    keeps_showLoad fun _ => keeps_sameSetup fun _ => ⟨rfl, rfl, rfl⟩
  have hkeeps : Keeps (SameSetup · desk) (apply others event) := by
    cases event with
    | refresh => exact keeps_doing hrefresh
    | tick timer host =>
        exact Action.keeps_bind (keeps_setHost habout host) fun _ =>
          keeps_onTimer hrefresh hshow timer
    | finish index engine interruption clock =>
        refine Action.keeps_bind (keeps_setEngine habout engine) fun _ => ?_
        refine Action.keeps_bind ?_ fun _ => Action.keeps_pure _
        exact keeps_finish habout sameSetup_deliver
          (fun _ => keeps_sameSetup fun _ => ⟨rfl, rfl, rfl⟩) index interruption clock
    | press id button replies engine =>
        exact Action.keeps_bind (keeps_setEngine habout engine) fun _ =>
          keeps_trying (keeps_press habout hrefresh id button replies)
    | search query =>
        exact keeps_doing (keeps_sameSetup fun window =>
          window.sameSetup_tree (Tree.onlyRunning_search _ _ query))
    | expand key isExpanded =>
        exact keeps_trying (keeps_changeTree fun other tree htree h =>
          ⟨(Window.sameSetup_tree _ (Tree.onlyRunning_expand htree)).trans h.window, h.store⟩)
    | select path =>
        exact keeps_trying (keeps_changeTree fun other tree htree h =>
          ⟨(Window.sameSetup_tree _ (Tree.onlyRunning_select htree)).trans h.window, h.store⟩)
    | onlyRunning | set | move | maximize | resizeColumn | close => exact hcalm.elim
  exact hkeeps desk ⟨⟨rfl, rfl, rfl⟩, desk.store.journal, rfl⟩

/-- A property of the setup and the settings lasts through an event if it lasts through windows that
are arranged anew, through values that are set and through closing. -/
theorem keeps_apply_of_setup {P : Desk → Prop} {others : Reactions Desktop} {event : Event}
    (hP : ∀ desk other, SameSetup other desk → P desk → P other)
    (harrange : ∀ f, Window.Arranges f → Keeps P (changeWindow f))
    (honly : ∀ onlyRunning, event = .onlyRunning onlyRunning →
      Keeps P (setOnlyRunning others onlyRunning))
    (hset : ∀ name key value, event = .set name key value → Keeps P (set others name key value))
    (hclose : event = .close → Keeps P (close others)) : Keeps P (apply others event) := by
  have hcalm {event : Event} (h : event.IsCalm) : Keeps P (apply others event) :=
    fun desk => hP desk _ (sameSetup_apply others h desk)
  cases event with
  | onlyRunning onlyRunning => exact keeps_doing (honly onlyRunning rfl)
  | set name key value => exact keeps_doing (hset name key value rfl)
  | move rect =>
      exact keeps_doing (harrange _ ⟨fun _ => rfl, fun _ => rfl, fun _ => rfl, fun _ => rfl⟩)
  | maximize isMaximized =>
      exact keeps_doing (harrange _ ⟨fun _ => rfl, fun _ => rfl, fun _ => rfl, fun _ => rfl⟩)
  | resizeColumn column width =>
      exact keeps_doing
        (harrange _ ⟨fun _ => rfl, fun _ => List.length_set, fun _ => rfl, fun _ => rfl⟩)
  | close => exact keeps_doing (hclose rfl)
  | _ => exact hcalm trivial

theorem kept_after {P : Desk → Prop} {others : Reactions Desktop} {events : List Event}
    (hevents : ∀ event ∈ events, Keeps P (apply others event)) {desk : Desk} (h : P desk) :
    P (after others desk events) := by
  induction events generalizing desk with
  | nil => exact h
  | cons event rest ih =>
      rw [List.forall_mem_cons] at hevents
      exact ih hevents.2 (hevents.1 desk h)

end Desk

end ContainerDesk
