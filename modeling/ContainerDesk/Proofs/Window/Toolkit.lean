import ContainerDesk.Proofs.Settings.Editing
import ContainerDesk.Proofs.Settings.Saving
import ContainerDesk.Proofs.Window.Reopening

/-!
# What a new window hands to the toolkit

The toolkit that draws the window takes integers of 32 bits.  A new window hands it its
size and its place, each column that is restored with its width, and the intervals of the
timers.  The schema bounds all of them but the widths: a list of widths may hold any
integers, and every positive one is handed over as it is.
-/

namespace ContainerDesk

def FitsToolkit (n : Int) : Prop :=
  -2147483648 ≤ n ∧ n ≤ 2147483647

/-!
# Integers among the settings
-/

theorem Schema.hasForm_of_field {name key : Text} {field : Field}
    (h : field? name key = some field) : field.HasForm := by
  rcases Option.bind_eq_some_iff.mp h with ⟨fields, hsection, hkey⟩
  rcases List.lookup_eq_some_iff.mp hsection with ⟨_, _, hsections, _⟩
  rcases List.lookup_eq_some_iff.mp hkey with ⟨_, _, hfields, _⟩
  have hmem : (name, fields) ∈ sections := by
    rw [hsections]
    exact List.mem_append_right _ List.mem_cons_self
  have hkeyed : (key, field) ∈ fields := by
    rw [hfields]
    exact List.mem_append_right _ List.mem_cons_self
  exact hasForm_of_mem hmem hkeyed

/-- No field accepts an integer of more than five digits, except within a list. -/
theorem Field.HasForm.fitsToolkit {field : Field} (h : field.HasForm) {n : Int}
    (haccepts : field.Accepts (.int n)) : FitsToolkit n := by
  cases h with
  | range _ hlow hhigh =>
      rcases accepts_range.mp haccepts with ⟨m, heq, hrange⟩
      cases heq
      unfold FitsToolkit
      omega
  | flag default =>
      rcases accepts_flag.mp haccepts with ⟨_, heq⟩
      cases heq
  | choice _ =>
      rcases accepts_choice.mp haccepts with ⟨_, _, heq⟩
      cases heq
  | address _ =>
      rcases accepts_address.mp haccepts with ⟨_, heq, _⟩
      cases heq
  | integers =>
      rcases accepts_integers.mp haccepts with ⟨_, heq, _⟩
      cases heq

theorem Store.IsSound.fitsToolkit {store : Store} (h : store.IsSound) {name key : Text}
    (hfield : (Schema.field? name key).isSome = true) {n : Int}
    (hget : store.get name key = .ok (.int n)) : FitsToolkit n := by
  rcases Option.isSome_iff_exists.mp hfield with ⟨field, hfield⟩
  rcases h.get_of_field hfield with ⟨value, hvalue, haccepts⟩
  cases hget.symm.trans hvalue
  exact (Schema.hasForm_of_field hfield).fitsToolkit haccepts

theorem Rect.InSettings.register {rect : Rect} {store : Store} (h : rect.InSettings store)
    (observer : Observer) : rect.InSettings (store.register observer) where
  x := (store.get_register observer _ _).trans h.x
  y := (store.get_register observer _ _).trans h.y
  width := (store.get_register observer _ _).trans h.width
  height := (store.get_register observer _ _).trans h.height

/-!
# Restored columns
-/

namespace Window

/-- The columns that are restored from a list of widths: each positive width with its place. -/
def restored (widths : List Int) : List (Int × Nat) :=
  widths.zipIdx.filter fun column => 0 < column.1

def withColumn (widths : List Int) (column : Int × Nat) : List Int :=
  widths.set column.2 column.1

theorem restoreWidths_eq_foldl (index : Nat) (start widths : List Int) :
    restoreWidths index start (widths.map .int) =
      ((widths.zipIdx index).filter fun column => 0 < column.1).foldl withColumn start := by
  induction widths generalizing index start with
  | nil => rfl
  | cons width rest ih =>
      rw [List.map_cons, restoreWidths, ih, List.zipIdx_cons, List.filter_cons]
      dsimp only
      by_cases hpositive : 0 < width
      · rw [if_pos hpositive, if_pos (decide_eq_true hpositive)]
        rfl
      · rw [if_neg hpositive, if_neg (by simpa using hpositive)]

theorem mem_restored {widths : List Int} {column : Int × Nat} :
    column ∈ restored widths ↔ widths[column.2]? = some column.1 ∧ 0 < column.1 := by
  unfold restored
  rw [List.mem_filter, List.mem_zipIdx_iff_getElem?, decide_eq_true_eq]

def measures (window : Window) : List Int :=
  [window.rect.width, window.rect.height, window.rect.x, window.rect.y] ++
    (window.refreshTimer.toList ++ window.loadTimer.toList)

def handed (widths : List Int) (window : Window) : List Int :=
  (restored widths).flatMap (fun column => [(column.2 : Int), column.1]) ++ window.measures

theorem forall_mem_handed {widths : List Int} {window : Window} {P : Int → Prop} :
    (∀ n ∈ handed widths window, P n) ↔
      (∀ column ∈ restored widths, P column.2 ∧ P column.1) ∧ ∀ n ∈ window.measures, P n := by
  unfold handed
  rw [List.forall_mem_append]
  apply and_congr_left'
  constructor
  · intro h column hcolumn
    have hboth : ∀ n ∈ [(column.2 : Int), column.1], P n :=
      fun n hn => h n (List.mem_flatMap.mpr ⟨column, hcolumn, hn⟩)
    rwa [List.forall_mem_cons, List.forall_mem_singleton] at hboth
  · intro h n hn
    rcases List.mem_flatMap.mp hn with ⟨column, hcolumn, hn⟩
    exact List.forall_mem_cons.mpr ⟨(h column hcolumn).1,
      List.forall_mem_singleton.mpr (h column hcolumn).2⟩ n hn

end Window

theorem Scene.store_withFile (t : Text) :
    (Scene.withFile t).store = (Store.load (Scene.onFile t).store).2 :=
  Scene.store_silently Store.load (Scene.onFile t)

namespace Desk

theorem Timer.isSome_paceField (timer : Timer) :
    (Schema.field? refreshSection timer.pace).isSome = true := by
  cases timer with
  | refresh => rfl
  | load => rfl

theorem InStep.fitsToolkit {desk : Desk} {timer : Timer} (h : InStep timer desk)
    (hsound : desk.IsSound) :
    ∀ n ∈ (timer.interval desk.surroundings.window).toList, FitsToolkit n := by
  rcases h with ⟨isOn, rate, _, hpace, hinterval⟩
  intro n hn
  rw [hinterval] at hn
  cases isOn with
  | false => exact absurd hn List.not_mem_nil
  | true =>
      rw [List.mem_singleton.mp hn]
      exact Store.IsSound.fitsToolkit hsound timer.isSome_paceField hpace

theorem fitsToolkit_measures {desk : Desk} (h : desk.IsSound)
    (hrect : desk.surroundings.window.rect.InSettings desk.store)
    (hsteps : ∀ timer, InStep timer desk) :
    ∀ n ∈ desk.surroundings.window.measures, FitsToolkit n := by
  unfold Window.measures
  rw [List.forall_mem_append, List.forall_mem_append, List.forall_mem_cons, List.forall_mem_cons,
    List.forall_mem_cons, List.forall_mem_singleton]
  exact ⟨⟨h.fitsToolkit rfl hrect.width, h.fitsToolkit rfl hrect.height,
    h.fitsToolkit rfl hrect.x, h.fitsToolkit rfl hrect.y⟩,
    (hsteps .refresh).fitsToolkit h, (hsteps .load).fitsToolkit h⟩

theorem inStep_start {desk : Desk} (h : desk.IsSound) (timer : Timer) :
    InStep timer (start desk).2 := by
  have hrequested : (desk.mapWindow (·.request)).IsSound := h
  have hrefreshed : (restartRefreshTimer (desk.mapWindow (·.request))).2.IsSound := by
    show (Timer.refresh.restart _).2.store.IsSound
    rw [store_restart]
    exact h
  have hrefresh : InStep .refresh (restartRefreshTimer (desk.mapWindow (·.request))).2 :=
    inStep_restart hrequested .refresh
  rw [start_apply h]
  cases timer with
  | refresh => exact hrefresh.restart hrefreshed .load
  | load => exact inStep_restart hrefreshed .load

/-- Whatever the settings are, the size and the place of a new window and the intervals of its
timers fit the toolkit.  All that the window hands over does exactly if every positive width and its
place in the list are small enough. -/
theorem handed_fitsToolkit_iff {σ : Type} {scene : Scene σ} (h : scene.Reachable)
    (language : Language) (usualWidth : Int) (host : HostLoad) :
    ∃ (desk : Desk) (widths : List Int),
      unopened language usualWidth host scene.store = .ok desk ∧
      scene.store.get (Text.of "ui_state") (Text.of "column_widths") =
        .ok (.list (widths.map .int)) ∧
      (start desk).2.surroundings.window.widths =
        (Window.restored widths).foldl Window.withColumn (List.replicate 6 usualWidth) ∧
      (∀ n ∈ (start desk).2.surroundings.window.measures, FitsToolkit n) ∧
      ((∀ n ∈ Window.handed widths (start desk).2.surroundings.window, FitsToolkit n) ↔
        ∀ (column : Nat) (width : Int), widths[column]? = some width → 0 < width →
          column ≤ 2147483647 ∧ width ≤ 2147483647) := by
  rcases Window.exists_layout h.isSound with ⟨layout, hlayout⟩
  rcases Window.ofSettings_of_layout hlayout language usualWidth with ⟨window, hwindow, hrestored⟩
  let desk := untouched window host scene.store
  have hsound : desk.IsSound := Store.IsSound.register h.isSound .refreshTimers
  have hunopened : unopened language usualWidth host scene.store = .ok desk := by
    unfold unopened
    rw [hwindow]
    rfl
  have hstarted : (start desk).2.surroundings.window.layout = layout.restored usualWidth :=
    (layout_start desk).trans hrestored
  have hstore : (start desk).2.store = scene.store.register .refreshTimers := store_start hsound
  have hmeasures : ∀ n ∈ (start desk).2.surroundings.window.measures, FitsToolkit n := by
    apply fitsToolkit_measures
    · show (start desk).2.store.IsSound
      rw [hstore]
      exact h.isSound.register .refreshTimers
    · rw [show (start desk).2.surroundings.window.rect = layout.rect from
        congrArg Window.Layout.rect hstarted, hstore]
      exact hlayout.rect.register .refreshTimers
    · exact inStep_start hsound
  refine ⟨desk, layout.widths, hunopened, hlayout.widths, ?_, hmeasures, ?_⟩
  · exact (congrArg Window.Layout.widths hstarted).trans (Window.restoreWidths_eq_foldl 0 _ _)
  · rw [Window.forall_mem_handed, and_iff_left hmeasures]
    constructor
    · intro hfits column width hwidth hpositive
      have hcolumn := hfits (width, column) (Window.mem_restored.mpr ⟨hwidth, hpositive⟩)
      unfold FitsToolkit at hcolumn
      omega
    · rintro hbounds ⟨width, column⟩ hcolumn
      rcases Window.mem_restored.mp hcolumn with ⟨hwidth, hpositive⟩
      have hbound := hbounds column width hwidth hpositive
      unfold FitsToolkit
      omega

def broad : Scene Unit :=
  (Scene.onFile []).after (fun _ _ _ => ⟨(), [], [], false⟩)
    [.set (Text.of "ui_state") (Text.of "column_widths")
      (.list [.int 150, .int 0, .int 2147483647])]

theorem reachable_broad : broad.Reachable := by
  apply (Scene.reachable_onFile []).after
  intro operation hoperation
  rw [List.mem_singleton.mp hoperation]
  trivial

theorem handed_fitsToolkit_broad :
    broad.Reachable ∧ ∃ desk, unopened .english 100 idleHost broad.store = .ok desk ∧
      (start desk).2.surroundings.window.widths = [150, 100, 2147483647, 100, 100, 100] ∧
      ∀ n ∈ Window.handed [150, 0, 2147483647] (start desk).2.surroundings.window,
        FitsToolkit n := by
  have hget : broad.store.get (Text.of "ui_state") (Text.of "column_widths") =
      .ok (.list ([150, 0, 2147483647].map .int)) := rfl
  rcases handed_fitsToolkit_iff reachable_broad .english 100 idleHost with
    ⟨desk, widths, hunopened, hheld, hrestored, _, hiff⟩
  have hwidths : widths = [150, 0, 2147483647] :=
    List.map_injective_iff.mpr (fun _ _ heq => Value.int.inj heq)
      (Value.list.inj (Except.ok.inj (hheld.symm.trans hget)))
  subst hwidths
  refine ⟨reachable_broad, desk, hunopened, hrestored, hiff.mpr ?_⟩
  intro column width hwidth _
  have hplace : column < 3 := (List.getElem?_eq_some_iff.mp hwidth).1
  have hbound : width = 150 ∨ width = 0 ∨ width = 2147483647 := by
    simpa using List.mem_of_getElem? hwidth
  omega

def overbroadFile : Text :=
  Text.of "\x7b\"ui_state\": \x7b\"column_widths\": [2147483648]\x7d\x7d"

/-- The file is loaded without a fault, and the width is handed over. -/
theorem not_fitsToolkit_overbroad :
    (Store.load (Scene.onFile overbroadFile).store).1.isOk = true ∧
    (Scene.withFile overbroadFile).Reachable ∧
    (Scene.withFile overbroadFile).store = (Store.load (Scene.onFile overbroadFile).store).2 ∧
    ∃ desk, unopened .english 100 idleHost (Scene.withFile overbroadFile).store = .ok desk ∧
      (start desk).2.surroundings.window.widths = [2147483648, 100, 100, 100, 100, 100] ∧
      2147483648 ∈ Window.handed [2147483648] (start desk).2.surroundings.window ∧
      ¬ FitsToolkit 2147483648 := by
  have hseen : ((unopened .english 100 idleHost (Scene.withFile overbroadFile).store).toOption.map
      fun desk => (start desk).2.surroundings.window.widths) =
        some [2147483648, 100, 100, 100, 100, 100] := by decide +kernel
  rcases exists_ok_of_map hseen with ⟨desk, hunopened, hwidths⟩
  refine ⟨by decide +kernel, Scene.reachable_withFile _, Scene.store_withFile _, desk,
    hunopened, hwidths, ?_, ?_⟩
  · exact List.mem_append_left _ (List.mem_cons_of_mem _ List.mem_cons_self)
  · unfold FitsToolkit
    omega

end Desk

end ContainerDesk
