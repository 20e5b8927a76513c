import ContainerDesk.Proofs.Settings.Observers
import ContainerDesk.Proofs.Window.Frame
import ContainerDesk.Proofs.Window.Setup

/-!
# Values that stay

As long as those who watch spare some settings and leave the window alone, a value that was
stored in one of these settings stays while others are stored.  So several values that are
all accepted stand there together in the end, and if one is refused, nothing after it is
stored.
-/

namespace ContainerDesk

namespace Desk

open ContainerDesk.Action (Keeps)

def Spares (settings : List (Text × Text)) : Act → Prop
  | .assign sectionName key _ => (sectionName, key) ∉ settings
  | _ => True

/-- Do outside observers set none of the given settings? -/
def SpareSettings (settings : List (Text × Text)) (others : Reactions Desktop) : Prop :=
  ∀ name label change desk, ∀ act ∈ (others (.outside name label) change desk).acts,
    Spares settings act

theorem SpareSettings.mono {settings fewer : List (Text × Text)} {others : Reactions Desktop}
    (h : SpareSettings settings others) (hfewer : ∀ setting ∈ fewer, setting ∈ settings) :
    SpareSettings fewer others := by
  intro name label change desk act hact
  have hspared := h name label change desk act hact
  cases act with
  | assign sectionName key value => exact fun hmem => hspared (hfewer _ hmem)
  | register observer => trivial
  | unregister observer => trivial

/-- Does a desk with a sound store have the layout and the file of another, and given values of
settings? -/
structure Retains (start : Desk) (values : List ((Text × Text) × Value)) (desk : Desk) : Prop where
  sound : desk.IsSound
  layout : desk.surroundings.window.layout = start.surroundings.window.layout
  place : desk.store.place = start.store.place
  disk : desk.store.disk = start.store.disk
  get : ∀ entry ∈ values, desk.store.get entry.1.1 entry.1.2 = .ok entry.2

variable {start desk : Desk} {values : List ((Text × Text) × Value)}

theorem retains_self (h : desk.IsSound)
    (hget : ∀ entry ∈ values, desk.store.get entry.1.1 entry.1.2 = .ok entry.2) :
    Retains desk values desk :=
  ⟨h, rfl, rfl, rfl, hget⟩

theorem Retains.mono {fewer : List ((Text × Text) × Value)} (h : Retains start values desk)
    (hfewer : ∀ entry ∈ fewer, entry ∈ values) : Retains start fewer desk :=
  ⟨h.sound, h.layout, h.place, h.disk, fun entry hentry => h.get entry (hfewer entry hentry)⟩

theorem retains_followSetting (key : Text) : Keeps (Retains start values) (followSetting key) := by
  have hwindow {f : Window → Window} (hf : ∀ window, (f window).layout = window.layout) :
      Keeps (Retains start values) (changeWindow f) :=
    fun desk h => ⟨h.sound, (hf _).trans h.layout, h.place, h.disk, h.get⟩
  exact keeps_followSetting (fun _ => hwindow fun _ => rfl) (fun _ => hwindow fun _ => rfl)
    (keeps_showLoad fun _ => hwindow fun _ => rfl) key

theorem Retains.assign {name key : Text} {value old : Value} {store : Store}
    (h : Retains start values desk) (hother : ∀ entry ∈ values, entry.1 ≠ (name, key))
    (hassign : desk.store.assign name key value = .ok (old, store)) :
    Retains start values { desk with store } := by
  rcases Store.exists_live_of_assign hassign with ⟨live, hstore⟩
  refine ⟨Store.IsSound.assign h.sound hassign, h.layout, ?_, ?_, ?_⟩
  · show store.place = start.store.place
    rw [hstore]
    exact h.place
  · show store.disk = start.store.disk
    rw [hstore]
    exact h.disk
  · exact fun entry hentry =>
      Store.get_of_assign_of_ne hassign (hother entry hentry) (h.get entry hentry)

section Setting

variable {others : Reactions Desktop} {settings : List (Text × Text)}
  (hwindow : LeaveWindow others) (hspare : SpareSettings settings others)

include hwindow hspare

theorem keptWithin_retains :
    Scene.KeptWithin (Retains start values) (fun _ => True) (Spares settings)
      (reactions others) where
  watching := fun _ _ _ _ => trivial
  acts := fun desk observer change _ => acts_reactions hspare observer change desk
  register := by
    intro desk observer _ h
    rcases Store.exists_observers_of_register desk.store observer with ⟨observers, hstore⟩
    exact ⟨Store.IsSound.register h.sound observer, h.layout,
      (congrArg Store.place hstore).trans h.place, (congrArg Store.disk hstore).trans h.disk,
      fun entry hentry => (Store.get_register _ _ _ _).trans (h.get entry hentry)⟩
  unregister := fun _ observer _ h =>
    ⟨Store.IsSound.unregister h.sound observer, h.layout, h.place, h.disk, h.get⟩
  noteAll := fun _ entries h =>
    ⟨Store.IsSound.noteAll h.sound entries, h.layout, h.place, h.disk, h.get⟩
  react := by
    intro desk observer change _ h
    refine kept_reactions retains_followSetting ?_ observer change desk h
    intro name label change desk h
    refine ⟨h.sound, ?_, h.place, h.disk, h.get⟩
    dsimp only
    rw [hwindow]
    exact h.layout

omit hwindow hspare in
theorem retains_assign (hvalues : ∀ entry ∈ values, entry.1 ∈ settings) (desk : Desk)
    (name key : Text) (value old : Value) (store : Store)
    (hspared : Spares settings (.assign name key value)) (h : Retains start values desk)
    (hassign : desk.store.assign name key value = .ok (old, store)) :
    Retains start values { desk with store } :=
  h.assign (fun entry hentry heq => hspared (heq ▸ hvalues entry hentry)) hassign

theorem retains_set (hvalues : ∀ entry ∈ values, entry.1 ∈ settings) {name key : Text}
    (hspared : (name, key) ∉ settings) (value : Value) :
    Keeps (Retains start values) (set others name key value) :=
  Scene.keeps_setWithin_of_permitted (keptWithin_retains hwindow hspare)
    (retains_assign hvalues) Scene.nestingLimit hspared

theorem set_of_takes (hvalues : ∀ entry ∈ values, entry.1 ∈ settings)
    (h : Retains start values desk) {name key : Text} {value : Value}
    (hmem : (name, key) ∈ settings) (hnew : ∀ entry ∈ values, entry.1 ≠ (name, key))
    (htakes : Schema.Takes name key value) :
    ∃ after, set others name key value desk = (.ok (), after) ∧
      Retains start (((name, key), value) :: values) after := by
  have hlonger : ∀ entry ∈ ((name, key), value) :: values, entry.1 ∈ settings := by
    rw [List.forall_mem_cons]
    exact ⟨hmem, hvalues⟩
  rcases Store.IsSound.exists_assign h.sound htakes with ⟨old, store, hassign⟩
  have hothers := h.assign hnew hassign
  apply Scene.exists_setWithin (keptWithin_retains hwindow hspare)
    (retains_assign hlonger) 249 hassign
  refine ⟨hothers.sound, hothers.layout, hothers.place, hothers.disk, ?_⟩
  rw [List.forall_mem_cons]
  exact ⟨Store.get_of_assign hassign, hothers.get⟩

omit hwindow hspare in
theorem set_of_not_takes (h : desk.IsSound) {name key : Text} {value : Value}
    (htakes : ¬ Schema.Takes name key value) :
    ∃ fault, set others name key value desk = (.error fault, desk) := by
  cases hassign : desk.store.assign name key value with
  | error fault => exact ⟨fault, Scene.setWithin_of_error 249 hassign⟩
  | ok result => exact absurd (Store.IsSound.takes_of_assign h hassign) htakes

end Setting

/-!
# Several values
-/

def setAll (others : Reactions Desktop) : List ((Text × Text) × Value) → Action Desk Unit
  | [] => pure ()
  | entry :: rest => do
      set others entry.1.1 entry.1.2 entry.2
      setAll others rest

/-- Several values in different settings all stand there in the end, or one is refused, and then the
values of all other settings are as they were. -/
theorem setAll_ends {others : Reactions Desktop} {settings : List (Text × Text)}
    (hwindow : LeaveWindow others) (hspare : SpareSettings settings others)
    {entries : List ((Text × Text) × Value)}
    (hmem : ∀ entry ∈ entries ++ values, entry.1 ∈ settings)
    (hnodup : ((entries ++ values).map (·.1)).Nodup) (h : Retains start values desk) :
    ((∀ entry ∈ entries, Schema.Takes entry.1.1 entry.1.2 entry.2) ∧
      ∃ after, setAll others entries desk = (.ok (), after) ∧
        Retains start (entries ++ values) after) ∨
    ((∃ entry ∈ entries, ¬ Schema.Takes entry.1.1 entry.1.2 entry.2) ∧
      ∃ fault after, setAll others entries desk = (.error fault, after) ∧
        Retains start values after) := by
  induction entries generalizing desk values with
  | nil => exact .inl ⟨List.forall_mem_nil _, desk, rfl, h⟩
  | cons entry rest ih =>
      by_cases htakes : Schema.Takes entry.1.1 entry.1.2 entry.2
      · have hnew : ∀ other ∈ values, other.1 ≠ entry.1 := by
          intro other hother heq
          rw [List.cons_append, List.map_cons, List.nodup_cons] at hnodup
          exact hnodup.1 (List.mem_map.mpr ⟨other, List.mem_append_right rest hother, heq⟩)
        rcases set_of_takes hwindow hspare
          (fun other hother => hmem other (List.mem_append_right _ hother)) h
          (hmem entry List.mem_cons_self) hnew htakes with ⟨after, hset, hafter⟩
        -- What was set goes from the entries to the values, and stays there to the end.
        have hmiddle : (rest ++ entry :: values).Perm (entry :: rest ++ values) :=
          List.perm_middle
        have hrest : setAll others (entry :: rest) desk = setAll others rest after := by
          rw [setAll, Action.bind_of_ok hset]
        rw [hrest]
        rcases ih (fun other hother => hmem other (hmiddle.mem_iff.mp hother))
          ((hmiddle.map _).nodup_iff.mpr hnodup) hafter with
          ⟨hall, last, hends, hlast⟩ | ⟨⟨refused, hmemRest, hrefused⟩, fault, last, hends, hlast⟩
        · exact .inl ⟨List.forall_mem_cons.mpr ⟨htakes, hall⟩, last, hends,
            hlast.mono fun other hother => hmiddle.mem_iff.mpr hother⟩
        · exact .inr ⟨⟨refused, List.mem_cons_of_mem _ hmemRest, hrefused⟩, fault, last, hends,
            hlast.mono fun other hother => List.mem_cons_of_mem _ hother⟩
      · rcases set_of_not_takes h.sound htakes with ⟨fault, hset⟩
        right
        refine ⟨⟨entry, List.mem_cons_self, htakes⟩, fault, desk, ?_, h⟩
        rw [setAll, Action.bind_of_error hset]

end Desk

end ContainerDesk
