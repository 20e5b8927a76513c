import ContainerDesk.Proofs.Window.Pace

/-!
# Windows from settings

A window that is made from settings has the layout that they describe.  Widths that are
not positive are passed over, and the columns of such keep the usual width.
-/

namespace ContainerDesk

structure Rect.InSettings (rect : Rect) (store : Store) : Prop where
  x : store.get (Text.of "app") (Text.of "window_x") = .ok (.int rect.x)
  y : store.get (Text.of "app") (Text.of "window_y") = .ok (.int rect.y)
  width : store.get (Text.of "app") (Text.of "window_width") = .ok (.int rect.width)
  height : store.get (Text.of "app") (Text.of "window_height") = .ok (.int rect.height)

namespace Window

theorem length_restoreWidths (index : Nat) (start : List Int) (items : List Value) :
    (restoreWidths index start items).length = start.length := by
  induction items generalizing index start with
  | nil => rfl
  | cons item rest ih =>
      cases item with
      | int width =>
          rw [restoreWidths, ih]
          split
          · exact List.length_set
          · rfl
      | _ => exact ih _ start

theorem getElem?_restoreWidths_of_lt {index column : Nat} (h : column < index) (start : List Int)
    (items : List Value) : (restoreWidths index start items)[column]? = start[column]? := by
  induction items generalizing index start with
  | nil => rfl
  | cons item rest ih =>
      have hnext : column < index + 1 := Nat.lt_succ_of_lt h
      cases item with
      | int width =>
          rw [restoreWidths, ih hnext]
          split
          · exact List.getElem?_set_ne (Nat.ne_of_gt h)
          · rfl
      | _ => exact ih hnext start

theorem getElem?_restoreWidths {widths : List Int} {column : Nat} {width : Int}
    (hwidth : widths[column]? = some width) (hpositive : 0 < width) (index : Nat)
    {start : List Int} (hlength : index + column < start.length) :
    (restoreWidths index start (widths.map .int))[index + column]? = some width := by
  induction widths generalizing index column start with
  | nil => cases hwidth
  | cons first rest ih =>
      rw [List.map_cons, restoreWidths]
      cases column with
      | zero =>
          cases hwidth
          show (restoreWidths (index + 1) _ _)[index]? = _
          rw [if_pos hpositive, getElem?_restoreWidths_of_lt (Nat.lt_succ_self index)]
          exact List.getElem?_set_self hlength
      | succ column =>
          rw [← Nat.add_assoc, Nat.add_right_comm]
          apply ih hwidth (index + 1)
          split
          · rw [List.length_set]
            omega
          · omega

structure Layout.InSettings (layout : Layout) (store : Store) : Prop where
  rect : layout.rect.InSettings store
  isMaximized : store.get (Text.of "app") (Text.of "window_maximized") =
    .ok (.bool layout.isMaximized)
  onlyRunning : store.get (Text.of "ui_state") (Text.of "only_running") =
    .ok (.bool layout.onlyRunning)
  widths : store.get (Text.of "ui_state") (Text.of "column_widths") =
    .ok (.list (layout.widths.map .int))

def Layout.restored (layout : Layout) (usualWidth : Int) : Layout :=
  { layout with
    isClosed := false
    widths := restoreWidths 0 (List.replicate 6 usualWidth) (layout.widths.map .int) }

theorem Layout.getElem?_widths_restored {layout : Layout} (hlength : layout.widths.length = 6)
    {column : Nat} {width : Int} (hwidth : layout.widths[column]? = some width)
    (hpositive : 0 < width) (usualWidth : Int) :
    (layout.restored usualWidth).widths[column]? = some width := by
  have hcolumn : column < 6 := by
    rw [← hlength]
    exact (List.getElem?_eq_some_iff.mp hwidth).1
  show (restoreWidths 0 (List.replicate 6 usualWidth) _)[column]? = some width
  rw [← Nat.zero_add column]
  apply getElem?_restoreWidths hwidth hpositive
  rw [List.length_replicate, Nat.zero_add]
  exact hcolumn

theorem ofSettings_of_layout {layout : Layout} {store : Store} (h : layout.InSettings store)
    (language : Language) (usualWidth : Int) :
    ∃ window, ofSettings language usualWidth store = .ok window ∧
      window.layout = layout.restored usualWidth := by
  unfold ofSettings
  dsimp only
  rw [h.onlyRunning, h.widths, h.rect.width, h.rect.height, h.rect.x, h.rect.y, h.isMaximized]
  exact ⟨_, rfl, rfl⟩

end Window

namespace Desk

open ContainerDesk.Action (Keeps)

theorem layout_start (desk : Desk) :
    (start desk).2.surroundings.window.layout = desk.surroundings.window.layout := by
  have hwindow {f : Window → Window} (hf : ∀ window, (f window).layout = window.layout) :
      Keeps (fun other => other.surroundings.window.layout = desk.surroundings.window.layout)
        (changeWindow f) :=
    fun other h => (hf other.surroundings.window).trans h
  have hrefresh : Keeps _ refresh := hwindow fun _ => rfl
  refine Action.keeps_bind hrefresh (fun _ => ?_) desk rfl
  refine Action.keeps_bind (keeps_restartRefreshTimer fun _ => hwindow fun _ => rfl) fun _ => ?_
  exact keeps_restartLoadTimer (fun _ => hwindow fun _ => rfl)
    (keeps_showLoad fun _ => hwindow fun _ => rfl)

theorem exists_restartLoadTimer {desk : Desk} (h : desk.IsSound) {texts : LoadTexts}
    (hhost : desk.surroundings.host.texts = .ok texts) :
    ∃ after, restartLoadTimer desk = (.ok (), after) := by
  rcases exists_pace h .load with ⟨isOn, rate, hswitch, hpace⟩
  rw [restartLoadTimer_apply hswitch hpace]
  split
  · unfold showLoad
    split
    · rename_i fault hfault
      change desk.surroundings.host.texts = .error fault at hfault
      rw [hhost] at hfault
      cases hfault
    · exact ⟨_, rfl⟩
  · exact ⟨_, rfl⟩

/-- Starting fails only where the load of the host cannot be read. -/
theorem exists_start {desk : Desk} (h : desk.IsSound) {texts : LoadTexts}
    (hhost : desk.surroundings.host.texts = .ok texts) :
    ∃ after, start desk = (.ok (), after) := by
  rw [start_apply h]
  apply exists_restartLoadTimer
  · show (restartRefreshTimer _).2.store.IsSound
    rw [show (restartRefreshTimer (desk.mapWindow (·.request))).2.store = desk.store from
      store_restart .refresh _]
    exact h
  · exact keeps_restartRefreshTimer
      (P := fun other => other.surroundings.host.texts = .ok texts) (fun _ _ h => h) _ hhost

/-- A desk can be opened on settings that hold a layout, and its window has that layout. -/
theorem opened_of_layout {layout : Window.Layout} {store : Store} (hsound : store.IsSound)
    (h : layout.InSettings store) (language : Language) (usualWidth : Int) (host : HostLoad) :
    (∀ texts, host.texts = .ok texts → ∃ desk, opened language usualWidth host store = .ok desk) ∧
    ∀ desk, opened language usualWidth host store = .ok desk →
      desk.surroundings.window.layout = layout.restored usualWidth := by
  rcases Window.ofSettings_of_layout h language usualWidth with ⟨window, hwindow, hlayout⟩
  have huntouched : Scene.IsSound (untouched window host store) := hsound.register .refreshTimers
  constructor
  · intro texts hhost
    rcases exists_start huntouched hhost with ⟨desk, hstart⟩
    exact ⟨desk, opened_eq_ok.mpr ⟨window, hwindow, hstart⟩⟩
  · intro desk hopened
    rcases opened_eq_ok.mp hopened with ⟨made, hmade, hstart⟩
    rw [hwindow] at hmade
    cases hmade
    have hstarted := layout_start (untouched window host store)
    rw [hstart] at hstarted
    exact hstarted.trans hlayout

end Desk

end ContainerDesk
