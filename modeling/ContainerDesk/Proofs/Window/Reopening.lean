import ContainerDesk.Proofs.Settings.Domain
import ContainerDesk.Proofs.Settings.Reload
import ContainerDesk.Proofs.Window.Closing
import ContainerDesk.Proofs.Window.Restoring

/-!
# Closing a window and opening it again

What closing stores is what a new window is made from, so a window that was closed comes
back as it was.  The filter is stored whenever its box is set; that the setting says what the
box says is the invariant of a session.
-/

namespace ContainerDesk

/-!
# Layouts in settings
-/

namespace Window

variable {store other : Store}

theorem Layout.InSettings.congr {layout : Layout} (h : layout.InSettings store)
    (hlive : other.live = store.live) : layout.InSettings other := by
  have hget (name key : Text) : other.get name key = store.get name key := by
    unfold Store.get Store.find
    rw [hlive]
  constructor
  · exact ⟨(hget _ _).trans h.rect.x, (hget _ _).trans h.rect.y, (hget _ _).trans h.rect.width,
      (hget _ _).trans h.rect.height⟩
  · exact (hget _ _).trans h.isMaximized
  · exact (hget _ _).trans h.onlyRunning
  · exact (hget _ _).trans h.widths

theorem exists_rect (h : store.IsSound) : ∃ rect : Rect, rect.InSettings store := by
  have hint (key : String) (hfield : ∃ default low high,
      Schema.field? (Text.of "app") (Text.of key) =
        some (Schema.rangeField default low high)) :
      ∃ n, store.get (Text.of "app") (Text.of key) = .ok (.int n) := h.exists_int hfield
  rcases hint "window_x" ⟨_, _, _, rfl⟩ with ⟨x, hx⟩
  rcases hint "window_y" ⟨_, _, _, rfl⟩ with ⟨y, hy⟩
  rcases hint "window_width" ⟨_, _, _, rfl⟩ with ⟨width, hwidth⟩
  rcases hint "window_height" ⟨_, _, _, rfl⟩ with ⟨height, hheight⟩
  exact ⟨⟨x, y, width, height⟩, hx, hy, hwidth, hheight⟩

theorem exists_layout (h : store.IsSound) : ∃ layout : Layout, layout.InSettings store := by
  have hmaximized : ∃ default, Schema.field? (Text.of "app") (Text.of "window_maximized") =
      some (Schema.flagField default) := ⟨_, rfl⟩
  have hfilter : ∃ default, Schema.field? (Text.of "ui_state") (Text.of "only_running") =
      some (Schema.flagField default) := ⟨_, rfl⟩
  have hwidths : Schema.field? (Text.of "ui_state") (Text.of "column_widths") =
      some ⟨.list [], [.listOf .int]⟩ := rfl
  rcases exists_rect h with ⟨rect, hrect⟩
  rcases h.exists_bool hmaximized with ⟨isMaximized, hisMaximized⟩
  rcases h.exists_bool hfilter with ⟨onlyRunning, honlyRunning⟩
  rcases h.get_of_field hwidths with ⟨value, hvalue, haccepts⟩
  rcases Field.accepts_integers.mp haccepts with ⟨items, rfl, hitems⟩
  rcases Field.exists_map_int hitems with ⟨widths, rfl⟩
  exact ⟨⟨rect, isMaximized, false, onlyRunning, widths⟩, hrect, hisMaximized, honlyRunning, hvalue⟩

end Window

namespace Desk

open ContainerDesk.Action (Keeps)

/-!
# Sessions
-/

/-- Does the setting of the filter say what its box says, beside six columns? -/
structure Mirrored (desk : Desk) : Prop where
  sound : desk.IsSound
  filter : desk.store.get filterSetting.1 filterSetting.2 =
    .ok (.bool desk.surroundings.window.layout.onlyRunning)
  widths : desk.surroundings.window.layout.widths.length = 6

variable {desk : Desk}

theorem mirrored_opened {store : Store} (h : store.IsSound) {language : Language}
    {usualWidth : Int} {host : HostLoad}
    (hopened : opened language usualWidth host store = .ok desk) : Mirrored desk := by
  rcases Window.exists_layout h with ⟨layout, hlayout⟩
  have hmade := (opened_of_layout h hlayout language usualWidth host).2 desk hopened
  refine ⟨isSound_opened h hopened, ?_, ?_⟩
  · rw [hmade, store_opened h hopened, Store.get_register]
    exact hlayout.onlyRunning
  · rw [hmade]
    exact Window.length_restoreWidths 0 _ _

theorem Mirrored.retains (h : Mirrored desk) :
    Retains desk [(filterSetting, .bool desk.surroundings.window.layout.onlyRunning)] desk :=
  retains_self h.sound (List.forall_mem_singleton.mpr h.filter)

theorem mirrored_of_retains {start : Desk}
    (hwidths : start.surroundings.window.layout.widths.length = 6)
    (h : Retains start [(filterSetting, .bool start.surroundings.window.layout.onlyRunning)] desk) :
    Mirrored desk := by
  refine ⟨h.sound, ?_, ?_⟩
  · rw [h.layout]
    exact h.get _ List.mem_cons_self
  · rw [h.layout]
    exact hwidths

theorem Mirrored.congr {other : Desk} (h : Mirrored desk) (hsame : SameSetup other desk) :
    Mirrored other := by
  rcases hsame with ⟨hsetup, journal, hstore⟩
  refine ⟨?_, ?_, ?_⟩
  · show other.store.IsSound
    rw [hstore]
    exact Store.IsSound.congr h.sound _ journal _
  · rw [hstore, hsetup.layout]
    exact h.filter
  · rw [hsetup.layout]
    exact h.widths

theorem mirrored_changeWindow {f : Window → Window}
    (hfilter : ∀ window, (f window).layout.onlyRunning = window.layout.onlyRunning)
    (hwidths : ∀ window, (f window).layout.widths.length = window.layout.widths.length) :
    Keeps Mirrored (changeWindow f) := by
  intro desk h
  refine ⟨h.sound, ?_, (hwidths _).trans h.widths⟩
  show desk.store.get _ _ = .ok (.bool (f desk.surroundings.window).layout.onlyRunning)
  rw [hfilter]
  exact h.filter

section Session

variable {others : Reactions Desktop} (hwindow : LeaveWindow others)
  (hspare : SpareSettings [filterSetting] others)

include hwindow hspare

theorem mirrored_set {name key : Text} (hother : (name, key) ≠ filterSetting) (value : Value) :
    Keeps Mirrored (set others name key value) := by
  intro desk h
  apply mirrored_of_retains h.widths
  exact retains_set hwindow hspare (List.forall_mem_singleton.mpr List.mem_cons_self)
    (fun hmem => hother (List.mem_singleton.mp hmem)) value desk h.retains

theorem mirrored_setOnlyRunning (onlyRunning : Bool) :
    Keeps Mirrored (setOnlyRunning others onlyRunning) := by
  intro desk h
  have hread : window desk = (.ok desk.surroundings.window, desk) := rfl
  unfold setOnlyRunning
  rw [Action.bind_of_ok hread]
  split
  · exact h
  · -- The view changes first: until the value is stored, the setting lags behind the box.
    let shown := desk.mapWindow fun window =>
      { window with tree := window.tree.setOnlyRunning window.language onlyRunning }
    have hshown : shown.surroundings.window.layout.onlyRunning = onlyRunning :=
      Tree.onlyRunning_setOnlyRunning _ _ onlyRunning
    have htakes : Schema.Takes filterSetting.1 filterSetting.2 (.bool onlyRunning) :=
      Schema.takes_bool rfl onlyRunning
    have hsound : Scene.IsSound shown := h.sound
    rcases set_of_takes hwindow hspare (List.forall_mem_nil _)
      (retains_self hsound (List.forall_mem_nil _)) List.mem_cons_self (List.forall_mem_nil _)
      htakes with ⟨after, hset, hafter⟩
    change Mirrored (set others (Text.of "ui_state") (Text.of "only_running")
      (.bool onlyRunning) shown).2
    rw [hset]
    have hwidths : shown.surroundings.window.layout.widths.length = 6 := h.widths
    apply mirrored_of_retains hwidths
    rw [hshown]
    exact hafter

theorem mirrored_close : Keeps Mirrored (close others) := by
  intro desk h
  rw [close_apply]
  refine keeps_leave ?_ (mirrored_changeWindow (fun _ => rfl) fun _ => rfl) ?_
    (mirrored_changeWindow (fun _ => rfl) fun _ => rfl) _ ?_
  · intro entry hentry value
    apply mirrored_set hwindow hspare
    intro heq
    change entry = filterSetting at heq
    rw [heq] at hentry
    revert hentry
    decide
  · intro desk h
    rcases Store.exists_disk_of_save desk.store with ⟨disk, hdisk⟩
    refine ⟨Store.IsSound.save h.sound, ?_, h.widths⟩
    show (Store.save desk.store).2.get _ _ = _
    rw [hdisk]
    exact h.filter
  · exact ⟨Store.IsSound.unregister h.sound .refreshTimers, h.filter, h.widths⟩

theorem mirrored_apply {event : Event}
    (hevent : ∀ value, event ≠ .set filterSetting.1 filterSetting.2 value) :
    Keeps Mirrored (apply others event) := by
  apply keeps_apply_of_setup
  · exact fun _ _ hsame h => h.congr hsame
  · exact fun _ hf => mirrored_changeWindow hf.onlyRunning hf.columns
  · exact fun onlyRunning _ => mirrored_setOnlyRunning hwindow hspare onlyRunning
  · rintro name key value rfl
    apply mirrored_set hwindow hspare _ value
    intro heq
    cases heq
    exact hevent value rfl
  · exact fun _ => mirrored_close hwindow hspare

end Session

/-!
# What is there after closing
-/

theorem save_of_saveAndClose {closed : Desk} (h : saveAndClose desk = (.ok (), closed)) :
    Store.save desk.store = (.ok (), closed.store) := by
  change (Action.on (·.store) (fun desk store => { desk with store }) Store.save >>= _) desk = _
    at h
  rw [Action.bind_apply] at h
  unfold Action.on at h
  rcases hsave : Store.save desk.store with ⟨result, store⟩
  rw [hsave] at h
  cases result with
  | error fault => cases h
  | ok done =>
      cases h
      rfl

/-- Is a rectangle what closing leaves of the place of a window: its own, raised to the least size,
or the one that the settings had before, if the window is maximized? -/
def Remembers (desk : Desk) (rect : Rect) : Prop :=
  if desk.surroundings.window.isMaximized then
    rect.InSettings desk.store
  else
    rect = desk.surroundings.window.rect.raised

theorem exists_remembers (h : desk.IsSound) : ∃ rect, Remembers desk rect := by
  unfold Remembers
  split
  · exact Window.exists_rect h
  · exact ⟨_, rfl⟩

/-- What the settings have before closing and still have after it: the filter, and the place if the
window is maximized. -/
def lastingValues (desk : Desk) (rect : Rect) : List ((Text × Text) × Value) :=
  (filterSetting, .bool desk.surroundings.window.layout.onlyRunning) ::
    if desk.surroundings.window.isMaximized then rect.values else []

theorem keys_lastingValues (desk : Desk) (rect : Rect) :
    (lastingValues desk rect).map (·.1) = filterSetting ::
      if desk.surroundings.window.isMaximized then rectSettings else [] := by
  unfold lastingValues
  cases desk.surroundings.window.isMaximized with
  | true => rfl
  | false => rfl

theorem mem_of_lastingValues {rect : Rect} {entry : (Text × Text) × Value}
    (h : entry ∈ lastingValues desk rect) : entry.1 ∈ filterSetting :: rectSettings := by
  have hkey : entry.1 ∈ (lastingValues desk rect).map (·.1) := List.mem_map.mpr ⟨entry, h, rfl⟩
  rw [keys_lastingValues] at hkey
  split at hkey
  · exact hkey
  · rw [List.mem_singleton.mp hkey]
    exact List.mem_cons_self

theorem Remembers.get_lastingValues {rect : Rect} (h : Remembers desk rect)
    (hmirrored : Mirrored desk) :
    ∀ entry ∈ lastingValues desk rect, desk.store.get entry.1.1 entry.1.2 = .ok entry.2 := by
  unfold Remembers at h
  refine List.forall_mem_cons.mpr ⟨hmirrored.filter, ?_⟩
  split
  · rename_i hmaximized
    rw [if_pos hmaximized] at h
    exact Rect.inSettings_iff.mp h
  · exact List.forall_mem_nil _

theorem Remembers.mem_of_values {rect : Rect} (h : Remembers desk rect)
    {entry : (Text × Text) × Value} (hentry : entry ∈ rect.values) :
    entry ∈ desk.surroundings.window.placeValues ++ lastingValues desk rect := by
  unfold Remembers at h
  unfold Window.placeValues lastingValues
  split at h
  · rename_i hmaximized
    rw [if_pos hmaximized, if_pos hmaximized]
    exact List.mem_append_right _ (List.mem_cons_of_mem _ hentry)
  · rename_i hmaximized
    rw [if_neg hmaximized, ← h]
    exact List.mem_append_left _ (List.mem_cons_of_mem _ hentry)

theorem nodup_lastingValues (desk : Desk) (rect : Rect) :
    ((desk.surroundings.window.placeValues ++ lastingValues desk rect).map (·.1)).Nodup := by
  rw [List.map_append, Window.keys_placeValues, keys_lastingValues]
  cases desk.surroundings.window.isMaximized with
  | true => decide
  | false => decide

section Reopening

variable {others : Reactions Desktop} (hwindow : LeaveWindow others)
  (hspare : SpareSettings (filterSetting :: lookSettings) others)

include hwindow hspare

theorem isStorable_of_close (h : desk.IsSound) {closed : Desk}
    (hclose : close others desk = (.ok (), closed)) :
    desk.surroundings.window.IsStorable := by
  by_contra hnot
  rcases close_fails hwindow hspare (fun _ hsetting => List.mem_cons_of_mem _ hsetting) h hnot with
    ⟨fault, after, hfails, _⟩
  rw [hclose] at hfails
  cases hfails

/-- When closing comes to saving, the settings hold the whole layout. -/
theorem exists_stored (h : Mirrored desk) {closed : Desk}
    (hclose : close others desk = (.ok (), closed)) :
    ∃ stored rect, saveAndClose stored = (.ok (), closed) ∧ stored.IsSound ∧
      Remembers desk rect ∧
      { desk.surroundings.window.layout with rect }.InSettings stored.store := by
  have hstorable := isStorable_of_close hwindow hspare h.sound hclose
  rcases exists_remembers h.sound with ⟨rect, hrect⟩
  have hmem : ∀ entry ∈ lastingValues desk rect, entry.1 ∈ filterSetting :: lookSettings := by
    intro entry hentry
    rcases List.mem_cons.mp (mem_of_lastingValues hentry) with hfilter | hplace
    · rw [hfilter]
      exact List.mem_cons_self
    · exact List.mem_cons_of_mem _ (List.mem_cons_of_mem _ (List.mem_cons_of_mem _ hplace))
  have hnew : ∀ entry ∈ lastingValues desk rect, entry.1 ≠ widthsSetting := by
    intro entry hentry heq
    have hsetting := mem_of_lastingValues hentry
    rw [heq] at hsetting
    revert hsetting
    decide
  rcases close_of_isStorable hwindow hspare (fun _ hsetting => List.mem_cons_of_mem _ hsetting)
    h.sound (hrect.get_lastingValues h) hmem (nodup_lastingValues desk rect) hnew hstorable with
    ⟨stored, hends, hstored⟩
  refine ⟨stored, rect, hends ▸ hclose, hstored.sound, hrect, ?_⟩
  rcases List.forall_mem_cons.mp hstored.get with ⟨hwidths, hrest⟩
  constructor
  · exact Rect.inSettings_iff.mpr fun entry hentry => hrest entry (hrect.mem_of_values hentry)
  · exact hrest (appSetting "window_maximized", .bool desk.surroundings.window.isMaximized)
      (List.mem_append_left _ List.mem_cons_self)
  · exact hrest (filterSetting, .bool desk.surroundings.window.layout.onlyRunning)
      (List.mem_append_right _ List.mem_cons_self)
  · exact hwidths

end Reopening

/-- After any session that ends with closing well, a fresh store loads the file, and a window that
is opened on it has the filter, the positive widths and the place that the closed one had. -/
theorem reopens {σ : Type} {scene : Scene σ} (hscene : scene.Reachable)
    {others : Reactions Desktop} (hwindow : LeaveWindow others)
    (hspare : SpareSettings (filterSetting :: lookSettings) others) {language : Language}
    {usualWidth : Int} {host : HostLoad}
    (hopened : opened language usualWidth host scene.store = .ok desk)
    {events : List Event} (hevents : ∀ event ∈ events,
      ∀ value, event ≠ .set (Text.of "ui_state") (Text.of "only_running") value)
    {closed : Desk} (hclose : close others (after others desk events) = (.ok (), closed)) :
    let before := after others desk events
    let window := before.surroundings.window
    ∃ loaded, Store.load (Store.fresh closed.store.place closed.store.disk) = (.ok (), loaded) ∧
      (∀ (language : Language) (usualWidth : Int) (host : HostLoad) texts, host.texts = .ok texts →
        ∃ again, opened language usualWidth host loaded = .ok again) ∧
      ∀ (language : Language) (usualWidth : Int) (host : HostLoad) again,
        opened language usualWidth host loaded = .ok again →
        let window' := again.surroundings.window
        window'.tree.onlyRunning = window.tree.onlyRunning ∧
        window'.isMaximized = window.isMaximized ∧
        (∀ (column : Nat) (width : Int), window.widths[column]? = some width → 0 < width →
          window'.widths[column]? = some width) ∧
        Remembers before window'.rect := by
  intro before window
  have hfilter : ∀ setting ∈ [filterSetting], setting ∈ filterSetting :: lookSettings :=
    List.forall_mem_singleton.mpr List.mem_cons_self
  have hmirrored : Mirrored before := by
    apply kept_after _ (mirrored_opened hscene.isSound hopened)
    intro event hevent
    exact mirrored_apply hwindow (hspare.mono hfilter) (hevents event hevent)
  rcases exists_stored hwindow hspare hmirrored hclose with
    ⟨stored, rect, hsaved, hsound, hremembers, hlayout⟩
  rcases Store.IsSound.exists_load_of_save hsound (save_of_saveAndClose hsaved) with
    ⟨loaded, hload, hloaded, hlive⟩
  have hopens := opened_of_layout hloaded (hlayout.congr hlive)
  refine ⟨loaded, hload, fun language width host => (hopens language width host).1, ?_⟩
  intro language usualWidth host again hagain window'
  have hmade := (hopens language usualWidth host).2 again hagain
  refine ⟨congrArg Window.Layout.onlyRunning hmade, congrArg Window.Layout.isMaximized hmade,
    ?_, ?_⟩
  · intro column width hwidth hpositive
    rw [show window'.widths = _ from congrArg Window.Layout.widths hmade]
    exact Window.Layout.getElem?_widths_restored hmirrored.widths hwidth hpositive _
  · rw [show window'.rect = rect from congrArg Window.Layout.rect hmade]
    exact hremembers

def rearranging : List Event :=
  [.onlyRunning true, .resizeColumn 2 250, .resizeColumn 3 0, .move ⟨10, -20, 500, 900⟩]

def idleHost : HostLoad :=
  ⟨.int 40, .int 4096, .int 8192, .int 7⟩

/-- The window comes back with its filter and its wide column, and as wide as is remembered. -/
theorem reopens_rearranged :
    LeaveWindow passive ∧ SpareSettings (filterSetting :: lookSettings) passive ∧
    ∃ desk closed loaded again, crossedDesk = .ok desk ∧
      (∀ event ∈ rearranging,
        ∀ value, event ≠ .set (Text.of "ui_state") (Text.of "only_running") value) ∧
      close passive (after passive desk rearranging) = (.ok (), closed) ∧
      Store.load (Store.fresh closed.store.place closed.store.disk) = (.ok (), loaded) ∧
      opened .russian 100 idleHost loaded = .ok again ∧
      again.surroundings.window.tree.onlyRunning = true ∧
      again.surroundings.window.widths[2]? = some 250 ∧
      again.surroundings.window.rect = ⟨10, -20, 640, 900⟩ := by
  have hseen : (crossedDesk.toOption.map fun desk =>
      let window := (after passive desk rearranging).surroundings.window
      ((window.tree.onlyRunning, window.isMaximized, window.rect, window.widths[2]?),
        (close passive (after passive desk rearranging)).1.isOk)) =
        some ((true, false, ⟨10, -20, 500, 900⟩, some 250), true) := by decide +kernel
  have hhost : (idleHost.texts.toOption.map fun _ => ()) = some () := by decide +kernel
  rcases exists_ok_of_map hseen with ⟨desk, hopened, hwindow⟩
  rcases exists_ok_of_map hhost with ⟨texts, htexts, _⟩
  rcases Prod.mk.inj hwindow with ⟨hwindow, hcloses⟩
  rcases Prod.mk.inj hwindow with ⟨honly, hwindow⟩
  rcases Prod.mk.inj hwindow with ⟨hmaximized, hwindow⟩
  rcases Prod.mk.inj hwindow with ⟨hrect, hwide⟩
  have hevents : ∀ event ∈ rearranging,
      ∀ value, event ≠ .set (Text.of "ui_state") (Text.of "only_running") value := by
    rintro _ hevent value rfl
    simp [rearranging] at hevent
  rcases hclose : close passive (after passive desk rearranging) with ⟨result, closed⟩
  rw [hclose] at hcloses
  cases result with
  | error fault => cases hcloses
  | ok done =>
      rcases reopens
        (Scene.Reachable.fresh (Text.of "desk/config.json") (Disk.empty (Text.of "/home")) ())
        leaveWindow_passive (spareSettings_passive _) hopened hevents hclose with
        ⟨loaded, hload, hopens, hrestored⟩
      rcases hopens .russian 100 idleHost texts htexts with ⟨again, hagain⟩
      rcases hrestored .russian 100 idleHost again hagain with ⟨hfilter, _, hwidths, hplace⟩
      refine ⟨leaveWindow_passive, spareSettings_passive _, desk, closed, loaded, again, hopened,
        hevents, hclose, hload, hagain, hfilter.trans honly, hwidths 2 250 hwide (by decide), ?_⟩
      unfold Remembers at hplace
      rw [hmaximized, hrect] at hplace
      exact hplace

end Desk

end ContainerDesk
