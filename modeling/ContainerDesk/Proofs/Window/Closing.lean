import ContainerDesk.Proofs.Window.Restoring
import ContainerDesk.Proofs.Window.Retaining
import ContainerDesk.Proofs.Window.Run

/-!
# What closing stores

Closing stores whether the window is maximized, its place and size if it is not, and the
widths of its columns; then it saves.  Width and height are raised to the least that is
accepted, but nothing keeps the other bounds of the schema: a window that is far off the
screen, or very large, cannot be closed, and what closing would store after the refused
value is lost.
-/

namespace ContainerDesk

/-!
# Which values are taken
-/

namespace Schema

theorem takes_iff {name key : Text} {field : Field} (hfield : field? name key = some field)
    (value : Value) : Takes name key value ↔ field.Accepts value := by
  constructor
  · rintro ⟨found, hfound, haccepts⟩
    rw [hfield] at hfound
    cases hfound
    exact haccepts
  · exact fun haccepts => ⟨field, hfield, haccepts⟩

theorem takes_int_iff {name key : Text} {default low high : Int}
    (hfield : field? name key = some (rangeField default low high)) (n : Int) :
    Takes name key (.int n) ↔ low ≤ n ∧ n ≤ high := by
  rw [takes_iff hfield, Field.accepts_range]
  constructor
  · rintro ⟨m, heq, hrange⟩
    cases heq
    exact hrange
  · exact fun hrange => ⟨n, rfl, hrange⟩

theorem takes_bool {name key : Text} {default : Bool}
    (hfield : field? name key = some (flagField default)) (b : Bool) :
    Takes name key (.bool b) :=
  (takes_iff hfield _).mpr (Field.accepts_flag.mpr ⟨b, rfl⟩)

theorem takes_widths (widths : List Int) :
    Takes (Text.of "ui_state") (Text.of "column_widths") (.list (widths.map .int)) := by
  refine ⟨_, rfl, Field.accepts_integers.mpr ⟨_, rfl, ?_⟩⟩
  intro item hitem
  rcases List.mem_map.mp hitem with ⟨n, _, rfl⟩
  exact ⟨n, rfl⟩

end Schema

namespace Rect

def values (rect : Rect) : List ((Text × Text) × Value) :=
  [(Desk.appSetting "window_width", .int rect.width),
    (Desk.appSetting "window_height", .int rect.height),
    (Desk.appSetting "window_x", .int rect.x), (Desk.appSetting "window_y", .int rect.y)]

theorem inSettings_iff {rect : Rect} {store : Store} :
    rect.InSettings store ↔ ∀ entry ∈ rect.values, store.get entry.1.1 entry.1.2 = .ok entry.2 := by
  unfold values
  rw [List.forall_mem_cons, List.forall_mem_cons, List.forall_mem_cons, List.forall_mem_singleton]
  constructor
  · exact fun h => ⟨h.width, h.height, h.x, h.y⟩
  · exact fun h => ⟨h.2.2.1, h.2.2.2, h.1, h.2.1⟩

theorem takes_values_iff (rect : Rect) :
    (∀ entry ∈ rect.values, Schema.Takes entry.1.1 entry.1.2 entry.2) ↔
      (640 ≤ rect.width ∧ rect.width ≤ 10000) ∧ (480 ≤ rect.height ∧ rect.height ≤ 10000) ∧
        (-10000 ≤ rect.x ∧ rect.x ≤ 10000) ∧ -10000 ≤ rect.y ∧ rect.y ≤ 10000 := by
  have hwidth : Schema.Takes (Text.of "app") (Text.of "window_width") (.int rect.width) ↔
      640 ≤ rect.width ∧ rect.width ≤ 10000 := Schema.takes_int_iff rfl _
  have hheight : Schema.Takes (Text.of "app") (Text.of "window_height") (.int rect.height) ↔
      480 ≤ rect.height ∧ rect.height ≤ 10000 := Schema.takes_int_iff rfl _
  have hx : Schema.Takes (Text.of "app") (Text.of "window_x") (.int rect.x) ↔
      -10000 ≤ rect.x ∧ rect.x ≤ 10000 := Schema.takes_int_iff rfl _
  have hy : Schema.Takes (Text.of "app") (Text.of "window_y") (.int rect.y) ↔
      -10000 ≤ rect.y ∧ rect.y ≤ 10000 := Schema.takes_int_iff rfl _
  unfold values
  rw [List.forall_mem_cons, List.forall_mem_cons, List.forall_mem_cons, List.forall_mem_singleton,
    ← hwidth, ← hheight, ← hx, ← hy]
  rfl

def raised (rect : Rect) : Rect :=
  { rect with width := max rect.width Desk.leastWidth, height := max rect.height Desk.leastHeight }

end Rect

namespace Window

variable (window : Window)

/-- What closing stores first: whether the window is maximized, and where it is if it is not. -/
def placeValues : List ((Text × Text) × Value) :=
  (Desk.appSetting "window_maximized", .bool window.isMaximized) ::
    if window.isMaximized then [] else window.rect.raised.values

def widthsValue : (Text × Text) × Value :=
  (Desk.widthsSetting, .list (window.widths.map .int))

def IsStorable : Prop :=
  window.isMaximized = true ∨
    (-10000 ≤ window.rect.x ∧ window.rect.x ≤ 10000) ∧
      (-10000 ≤ window.rect.y ∧ window.rect.y ≤ 10000) ∧
        window.rect.width ≤ 10000 ∧ window.rect.height ≤ 10000

theorem takes_placeValues_iff :
    (∀ entry ∈ window.placeValues, Schema.Takes entry.1.1 entry.1.2 entry.2) ↔
      window.IsStorable := by
  have hmaximized : Schema.Takes (Text.of "app") (Text.of "window_maximized")
      (.bool window.isMaximized) := Schema.takes_bool rfl window.isMaximized
  have hraised : (∀ entry ∈ window.rect.raised.values,
      Schema.Takes entry.1.1 entry.1.2 entry.2) ↔
        (-10000 ≤ window.rect.x ∧ window.rect.x ≤ 10000) ∧
          (-10000 ≤ window.rect.y ∧ window.rect.y ≤ 10000) ∧
            window.rect.width ≤ 10000 ∧ window.rect.height ≤ 10000 := by
    rw [Rect.takes_values_iff]
    unfold Rect.raised Desk.leastWidth Desk.leastHeight
    dsimp only
    omega
  unfold placeValues IsStorable
  rw [List.forall_mem_cons, ← hraised]
  constructor
  · rintro ⟨_, hrest⟩
    by_cases hmax : window.isMaximized = true
    · exact .inl hmax
    · rw [if_neg hmax] at hrest
      exact .inr hrest
  · intro hstorable
    refine ⟨hmaximized, ?_⟩
    split
    · exact List.forall_mem_nil _
    · rename_i hmax
      exact hstorable.resolve_left hmax

theorem keys_placeValues :
    window.placeValues.map (·.1) =
      Desk.appSetting "window_maximized" ::
        if window.isMaximized then [] else Desk.rectSettings := by
  unfold placeValues
  cases window.isMaximized with
  | true => rfl
  | false => rfl

theorem nodup_placeValues : (window.placeValues.map (·.1)).Nodup := by
  rw [keys_placeValues]
  cases window.isMaximized with
  | true => decide
  | false => decide

variable {window}

theorem mem_of_placeValues {entry : (Text × Text) × Value} (h : entry ∈ window.placeValues) :
    entry.1 ∈ Desk.appSetting "window_maximized" :: Desk.rectSettings := by
  have hkey : entry.1 ∈ window.placeValues.map (·.1) := List.mem_map.mpr ⟨entry, h, rfl⟩
  rw [keys_placeValues] at hkey
  split at hkey
  · rw [List.mem_singleton.mp hkey]
    exact List.mem_cons_self
  · exact hkey

theorem ne_widthsSetting_of_placeValues {entry : (Text × Text) × Value}
    (h : entry ∈ window.placeValues) : entry.1 ≠ Desk.widthsSetting := by
  intro heq
  have hmem := mem_of_placeValues h
  rw [heq] at hmem
  revert hmem
  decide

end Window

namespace Desk

variable {desk : Desk} {values : List ((Text × Text) × Value)}

def saveAndClose : Action Desk Unit := do
  Action.on (·.store) (fun desk store => { desk with store }) Store.save
  changeWindow fun window => { window with isClosed := true }

/-- A desk whose window is about to close: the timers are stopped, and requests are told to stop. -/
def stilled (desk : Desk) : Desk :=
  mapWindow (desk.mapStore (·.unregister .refreshTimers)) (·.stopTimers.interruptFetches)

theorem close_eq (others : Reactions Desktop) (desk : Desk) :
    close others desk =
      (do
        rememberPlace others
        let after ← window
        set others (Text.of "ui_state") (Text.of "column_widths") after.widthsValue.2
        saveAndClose) desk.stilled := by
  have hinterrupt : changeWindow (·.interruptFetches)
      (mapWindow (desk.mapStore (·.unregister .refreshTimers)) (·.stopTimers)) =
        (.ok (), desk.stilled) := rfl
  rw [close_apply]
  unfold leave
  rw [Action.bind_of_ok hinterrupt]
  rfl

theorem rememberRect_eq (others : Reactions Desktop) (rect : Rect) :
    rememberRect others rect = setAll others rect.raised.values := by
  simp only [setAll, Rect.values, Rect.raised, rememberRect, bind_pure_unit]
  rfl

theorem retains_stilled (h : desk.IsSound)
    (hget : ∀ entry ∈ values, desk.store.get entry.1.1 entry.1.2 = .ok entry.2) :
    Retains desk.stilled values desk.stilled :=
  retains_self (Store.IsSound.unregister h .refreshTimers) hget

theorem mem_of_place {settings : List (Text × Text)}
    (hlook : ∀ setting ∈ lookSettings, setting ∈ settings)
    (hmem : ∀ entry ∈ values, entry.1 ∈ settings) :
    ∀ entry ∈ desk.surroundings.window.placeValues ++ values, entry.1 ∈ settings :=
  List.forall_mem_append.mpr ⟨fun _ hentry =>
    hlook _ (List.mem_cons_of_mem _ (Window.mem_of_placeValues hentry)), hmem⟩

/-- The rectangle is that of the window before closing: observers leave the window alone while it is
stored that it is not maximized. -/
theorem rememberPlace_eq {others : Reactions Desktop} {settings : List (Text × Text)}
    (hwindow : LeaveWindow others) (hspare : SpareSettings settings others)
    (hlook : ∀ setting ∈ lookSettings, setting ∈ settings) (h : desk.IsSound) :
    rememberPlace others desk.stilled =
      setAll others desk.surroundings.window.placeValues desk.stilled := by
  have hread : window desk.stilled = (.ok desk.stilled.surroundings.window, desk.stilled) := rfl
  have hplace : desk.surroundings.window.placeValues =
      desk.stilled.surroundings.window.placeValues := rfl
  rcases set_of_takes hwindow hspare (List.forall_mem_nil _)
    (retains_stilled h (List.forall_mem_nil _))
    (hlook (appSetting "window_maximized") (by decide)) (List.forall_mem_nil _)
    (Schema.takes_bool rfl desk.stilled.surroundings.window.isMaximized) with
    ⟨between, hset, hbetween⟩
  have hrect : between.surroundings.window.rect = desk.stilled.surroundings.window.rect :=
    congrArg Window.Layout.rect hbetween.layout
  have hset : set others (Text.of "app") (Text.of "window_maximized")
      (.bool desk.stilled.surroundings.window.isMaximized) desk.stilled = (.ok (), between) := hset
  have hrest (rest : List ((Text × Text) × Value)) :
      setAll others ((appSetting "window_maximized",
        .bool desk.stilled.surroundings.window.isMaximized) :: rest) desk.stilled =
          setAll others rest between :=
    Action.bind_of_ok hset
  have hagain : window between = (.ok between.surroundings.window, between) := rfl
  unfold rememberPlace
  rw [Action.bind_of_ok hread, Action.bind_of_ok hset, hplace, Window.placeValues, hrest]
  cases desk.stilled.surroundings.window.isMaximized with
  | true => rfl
  | false =>
      simp only [Bool.false_eq_true, if_false]
      rw [Action.bind_of_ok hagain, hrect, rememberRect_eq]

section Closing

variable {others : Reactions Desktop} {settings : List (Text × Text)}
  (hwindow : LeaveWindow others) (hspare : SpareSettings settings others)
  (hlook : ∀ setting ∈ lookSettings, setting ∈ settings) (h : desk.IsSound)
  (hget : ∀ entry ∈ values, desk.store.get entry.1.1 entry.1.2 = .ok entry.2)
  (hmem : ∀ entry ∈ values, entry.1 ∈ settings)
  (hnodup : ((desk.surroundings.window.placeValues ++ values).map (·.1)).Nodup)

include hwindow hspare hlook h hget hmem hnodup

theorem setAll_placeValues :
    (desk.surroundings.window.IsStorable ∧
      ∃ after, setAll others desk.surroundings.window.placeValues desk.stilled = (.ok (), after) ∧
        Retains desk.stilled (desk.surroundings.window.placeValues ++ values) after) ∨
    (¬ desk.surroundings.window.IsStorable ∧
      ∃ fault after,
        setAll others desk.surroundings.window.placeValues desk.stilled = (.error fault, after) ∧
          Retains desk.stilled values after) := by
  rw [← Window.takes_placeValues_iff]
  rcases setAll_ends hwindow hspare (mem_of_place hlook hmem) hnodup (retains_stilled h hget) with
    hall | ⟨⟨entry, hentry, hrefused⟩, hends⟩
  · exact .inl hall
  · exact .inr ⟨fun htakes => hrefused (htakes entry hentry), hends⟩

theorem close_of_isStorable (hnew : ∀ entry ∈ values, entry.1 ≠ widthsSetting)
    (hstorable : desk.surroundings.window.IsStorable) :
    ∃ stored, close others desk = saveAndClose stored ∧
      Retains desk.stilled (desk.surroundings.window.widthsValue ::
        (desk.surroundings.window.placeValues ++ values)) stored := by
  rcases setAll_placeValues hwindow hspare hlook h hget hmem hnodup with
    ⟨_, after, hplace, hafter⟩ | ⟨hnot, _⟩
  · have hwidths : after.surroundings.window.widthsValue =
        desk.surroundings.window.widthsValue := by
      unfold Window.widthsValue
      rw [show after.surroundings.window.widths = desk.surroundings.window.widths from
        congrArg Window.Layout.widths hafter.layout]
    have hread : window after = (.ok after.surroundings.window, after) := rfl
    have hother : ∀ entry ∈ desk.surroundings.window.placeValues ++ values,
        entry.1 ≠ widthsSetting :=
      List.forall_mem_append.mpr ⟨fun _ => Window.ne_widthsSetting_of_placeValues, hnew⟩
    rcases set_of_takes hwindow hspare (mem_of_place hlook hmem) hafter
      (hlook widthsSetting List.mem_cons_self) hother
      (Schema.takes_widths desk.surroundings.window.widths) with ⟨stored, hset, hstored⟩
    refine ⟨stored, ?_, hstored⟩
    rw [← rememberPlace_eq hwindow hspare hlook h] at hplace
    rw [close_eq, Action.bind_of_ok hplace, Action.bind_of_ok hread, hwidths]
    exact Action.bind_of_ok hset
  · exact absurd hstorable hnot

theorem close_of_not_isStorable (hnot : ¬ desk.surroundings.window.IsStorable) :
    ∃ fault after, close others desk = (.error fault, after) ∧
      Retains desk.stilled values after := by
  rcases setAll_placeValues hwindow hspare hlook h hget hmem hnodup with
    ⟨hstorable, _⟩ | ⟨_, fault, after, hplace, hafter⟩
  · exact absurd hstorable hnot
  · refine ⟨fault, after, ?_, hafter⟩
    rw [← rememberPlace_eq hwindow hspare hlook h] at hplace
    rw [close_eq, Action.bind_of_error hplace]

end Closing

theorem close_fails {others : Reactions Desktop} {settings : List (Text × Text)}
    (hwindow : LeaveWindow others) (hspare : SpareSettings settings others)
    (hlook : ∀ setting ∈ lookSettings, setting ∈ settings) (h : desk.IsSound)
    (hnot : ¬ desk.surroundings.window.IsStorable) :
    ∃ fault after, close others desk = (.error fault, after) ∧ Retains desk.stilled [] after := by
  apply close_of_not_isStorable hwindow hspare hlook h (List.forall_mem_nil _)
    (List.forall_mem_nil _) _ hnot
  rw [List.append_nil]
  exact Window.nodup_placeValues _

/-- If the place of the window may be stored, all that closing remembers is stored, and closing ends
as saving does.  If not, closing fails before the widths are stored: nothing is saved, and the
window is not closed. -/
theorem close_ends {others : Reactions Desktop} (hwindow : LeaveWindow others)
    (hspare : SpareSettings lookSettings others) {desk : Desk} (h : desk.IsSound) :
    (desk.surroundings.window.IsStorable →
      ∃ stored, close others desk = saveAndClose stored ∧
        Retains desk.stilled
          (desk.surroundings.window.widthsValue :: desk.surroundings.window.placeValues) stored) ∧
    (¬ desk.surroundings.window.IsStorable →
      ∃ fault after, close others desk = (.error fault, after) ∧
        after.store.disk = desk.store.disk ∧
        after.surroundings.window.isClosed = desk.surroundings.window.isClosed ∧
        after.store.get widthsSetting.1 widthsSetting.2 =
          desk.store.get widthsSetting.1 widthsSetting.2) := by
  constructor
  · intro hstorable
    rw [← List.append_nil desk.surroundings.window.placeValues]
    apply close_of_isStorable hwindow hspare (fun _ hsetting => hsetting) h
      (List.forall_mem_nil _) (List.forall_mem_nil _) _ (List.forall_mem_nil _) hstorable
    rw [List.append_nil]
    exact Window.nodup_placeValues _
  · intro hnot
    have hfield : Schema.field? widthsSetting.1 widthsSetting.2 =
        some ⟨.list [], [.listOf .int]⟩ := rfl
    rcases Store.IsSound.get_of_field h hfield with ⟨widths, hwidths, _⟩
    have hnodup : ((desk.surroundings.window.placeValues ++
        [(widthsSetting, widths)]).map (·.1)).Nodup := by
      rw [List.map_append, Window.keys_placeValues]
      change (_ ++ [widthsSetting]).Nodup
      cases desk.surroundings.window.isMaximized with
      | true => decide
      | false => decide
    rcases close_of_not_isStorable hwindow hspare (fun _ hsetting => hsetting) h
      (List.forall_mem_singleton.mpr hwidths)
      (List.forall_mem_singleton.mpr List.mem_cons_self) hnodup hnot with
      ⟨fault, after, hclose, hafter⟩
    refine ⟨fault, after, hclose, hafter.disk, congrArg Window.Layout.isClosed hafter.layout, ?_⟩
    rw [hwidths]
    exact hafter.get _ List.mem_cons_self

theorem spareSettings_passive (settings : List (Text × Text)) : SpareSettings settings passive :=
  fun _ _ _ _ _ hact => absurd hact List.not_mem_nil

theorem isSound_crossedDesk {desk : Desk} (h : crossedDesk = .ok desk) : desk.IsSound :=
  isSound_opened (Scene.Reachable.fresh (Text.of "desk/config.json") _ ()).isSound h

/-- A window as it was opened can be closed: its usual width is stored, and the widths of its
columns. -/
theorem close_ends_crossed :
    LeaveWindow passive ∧ SpareSettings lookSettings passive ∧
    ∃ desk stored, crossedDesk = .ok desk ∧ desk.IsSound ∧
      close passive desk = saveAndClose stored ∧
      stored.store.get (Text.of "app") (Text.of "window_width") = .ok (.int 1280) ∧
      stored.store.get (Text.of "ui_state") (Text.of "column_widths") =
        .ok (.list (List.replicate 6 (.int 100))) := by
  have hseen : (crossedDesk.toOption.map fun desk =>
      let window := desk.surroundings.window
      (window.isMaximized, window.rect, window.widths)) =
        some (false, ⟨0, 0, 1280, 800⟩, List.replicate 6 100) := by decide +kernel
  rcases exists_ok_of_map hseen with ⟨desk, hopened, hwindow⟩
  rcases Prod.mk.inj hwindow with ⟨hmaximized, hrest⟩
  rcases Prod.mk.inj hrest with ⟨hrect, hwidths⟩
  have hsound := isSound_crossedDesk hopened
  have hstorable : desk.surroundings.window.IsStorable := by
    right
    rw [hrect]
    decide
  rcases (close_ends leaveWindow_passive (spareSettings_passive _) hsound).1 hstorable with
    ⟨stored, hclose, hstored⟩
  refine ⟨leaveWindow_passive, spareSettings_passive _, desk, stored, hopened, hsound, hclose, ?_,
    ?_⟩
  · have hwidth : (appSetting "window_width", Value.int 1280) ∈
        desk.surroundings.window.placeValues := by
      unfold Window.placeValues
      rw [hmaximized, hrect]
      exact List.mem_cons_of_mem _ List.mem_cons_self
    exact hstored.get _ (List.mem_cons_of_mem _ hwidth)
  · have hlist := hstored.get _ List.mem_cons_self
    unfold Window.widthsValue at hlist
    rw [hwidths] at hlist
    exact hlist

/-- A window that was moved off the screen to the right cannot be closed, and nothing is saved. -/
theorem not_close_offScreen :
    ∃ desk fault after, crossedDesk = .ok desk ∧
      close passive (apply passive (.move ⟨20000, 2, 640, 481⟩) desk).2 = (.error fault, after) ∧
      after.store.disk = desk.store.disk ∧ after.surroundings.window.isClosed = false := by
  have hseen : (crossedDesk.toOption.map fun desk =>
      let window := desk.surroundings.window
      (window.isMaximized, window.isClosed)) = some (false, false) := by decide +kernel
  rcases exists_ok_of_map hseen with ⟨desk, hopened, hwindow⟩
  rcases Prod.mk.inj hwindow with ⟨hmaximized, hisClosed⟩
  let moved := desk.mapWindow fun window => { window with rect := ⟨20000, 2, 640, 481⟩ }
  have hnot : ¬ moved.surroundings.window.IsStorable := by
    rintro (hmoved | ⟨⟨_, hx⟩, _⟩)
    · change desk.surroundings.window.isMaximized = true at hmoved
      rw [hmaximized] at hmoved
      cases hmoved
    · have hfar : ¬ (20000 : Int) ≤ 10000 := by decide
      exact hfar hx
  have hsound := isSound_crossedDesk hopened
  have hmoved : Scene.IsSound moved := hsound
  rcases close_fails leaveWindow_passive (spareSettings_passive lookSettings)
    (fun _ hsetting => hsetting) hmoved hnot with ⟨fault, after, hclose, hafter⟩
  exact ⟨desk, fault, after, hopened, hclose, hafter.disk,
    (congrArg Window.Layout.isClosed hafter.layout).trans hisClosed⟩

end Desk

end ContainerDesk
