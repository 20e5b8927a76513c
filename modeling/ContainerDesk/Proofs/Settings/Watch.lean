import ContainerDesk.Proofs.Action
import ContainerDesk.Settings.Watch

/-!
# What telling those who watch keeps

Setting a value may set off any number of further acts.  A property of scenes that each
single act keeps, and that the reactions keep in the surroundings, is still there when
all of them are over, however deep they answer each other.

Often only some acts and some observers keep a property.  Then it is enough that no other
acts come about and that nobody else watches.  And a property may be lost when a value is
stored and come back when a certain observer is told: as long as this observer watches,
the property is there again when all have been told.
-/

namespace ContainerDesk

namespace Scene

variable {σ : Type}

/-- Do those who may be told only do what is permitted, and does that keep a property, values that
are set apart? -/
structure KeptWithin (P : Scene σ → Prop) (told : Observer → Prop) (permitted : Act → Prop)
    (reactions : Reactions σ) : Prop where
  watching : ∀ scene, P scene → ∀ observer ∈ scene.store.observers, told observer
  acts : ∀ scene observer change, told observer →
    ∀ act ∈ (reactions observer change scene).acts, permitted act
  register : ∀ (scene : Scene σ) (observer : Observer), permitted (.register observer) →
    P scene → P (scene.mapStore (·.register observer))
  unregister : ∀ (scene : Scene σ) (observer : Observer), permitted (.unregister observer) →
    P scene → P (scene.mapStore (·.unregister observer))
  noteAll : ∀ (scene : Scene σ) (entries : Journal), P scene →
    P (scene.mapStore (·.noteAll entries))
  react : ∀ (scene : Scene σ) (observer : Observer) (change : Change), told observer → P scene →
    P { scene with surroundings := (reactions observer change scene).surroundings }

section Telling

variable {P : Scene σ → Prop} {told : Observer → Prop} {permitted : Act → Prop}
  {reactions : Reactions σ} {set : Text → Text → Value → Action (Scene σ) Unit}
  (h : KeptWithin P told permitted reactions)
  (hset : ∀ sectionName key value, permitted (.assign sectionName key value) →
    Action.Keeps P (set sectionName key value))

include h hset

theorem keeps_perform {act : Act} (hact : permitted act) : Action.Keeps P (perform set act) := by
  cases act with
  | register observer => exact Action.keeps_change fun scene => h.register scene observer hact
  | unregister observer => exact Action.keeps_change fun scene => h.unregister scene observer hact
  | assign sectionName key value => exact hset sectionName key value hact

theorem keeps_performAll {acts : List Act} (hacts : ∀ act ∈ acts, permitted act) :
    Action.Keeps P (performAll set acts) := by
  induction acts with
  | nil => exact Action.keeps_pure ()
  | cons act rest ih =>
      rw [List.forall_mem_cons] at hacts
      exact Action.keeps_bind (keeps_perform h hset hacts.1) fun _ => ih hacts.2

/-- One observer keeps the property, also when it fails in the middle of its acts. -/
theorem kept_tell_of_react (change : Change) {scene : Scene σ} {observer : Observer}
    (htold : told observer)
    (hreact : P { scene with surroundings := (reactions observer change scene).surroundings }) :
    P (tell reactions set change scene observer) := by
  have hacts := keeps_performAll h hset (h.acts scene observer change htold)
    ⟨scene.store.noteAll (reactions observer change scene).notes,
      (reactions observer change scene).surroundings⟩ (h.noteAll _ _ hreact)
  unfold tell
  dsimp only
  split
  · rename_i after hafter
    rw [hafter] at hacts
    split
    · exact h.noteAll after _ hacts
    · exact hacts
  · rename_i after hafter
    rw [hafter] at hacts
    exact h.noteAll after _ hacts

theorem kept_tellAll (change : Change) {observers : List Observer}
    (htold : ∀ observer ∈ observers, told observer) {scene : Scene σ} (hscene : P scene) :
    P (observers.foldl (tell reactions set change) scene) := by
  induction observers generalizing scene with
  | nil => exact hscene
  | cons observer rest ih =>
      rw [List.forall_mem_cons] at htold
      apply ih htold.2
      exact kept_tell_of_react h hset change htold.1
        (h.react scene observer change htold.1 hscene)

end Telling

/-!
# Values that are set
-/

section Setting

variable {P : Scene σ → Prop} {told : Observer → Prop} {permitted : Act → Prop}
  {reactions : Reactions σ} {sectionName key : Text} {value old : Value} {scene : Scene σ}
  {store : Store}

theorem setWithin_of_error {fault : Fault} (depth : Nat)
    (h : scene.store.assign sectionName key value = .error fault) :
    setWithin reactions (depth + 1) sectionName key value scene = (.error fault, scene) := by
  rw [setWithin]
  dsimp only
  rw [h]

theorem setWithin_of_ok (depth : Nat)
    (h : scene.store.assign sectionName key value = .ok (old, store)) :
    setWithin reactions (depth + 1) sectionName key value scene =
      (.ok (), store.observers.foldl
        (tell reactions (setWithin reactions depth) ⟨sectionName, key, old, value⟩)
        { scene with store }) := by
  rw [setWithin]
  dsimp only
  rw [h]

/-- The depth to which observers may answer each other carries the induction. -/
theorem keeps_setWithin_of_permitted (h : KeptWithin P told permitted reactions)
    (hassign : ∀ scene sectionName key value old store, permitted (.assign sectionName key value) →
      P scene → scene.store.assign sectionName key value = .ok (old, store) →
        P { scene with store })
    (depth : Nat) (hpermitted : permitted (.assign sectionName key value)) :
    Action.Keeps P (setWithin reactions depth sectionName key value) := by
  induction depth generalizing sectionName key value with
  | zero => exact Action.keeps_fail _
  | succ depth ih =>
      intro scene hscene
      cases hstore : scene.store.assign sectionName key value with
      | error fault =>
          rw [setWithin_of_error depth hstore]
          exact hscene
      | ok result =>
          rcases result with ⟨old, store⟩
          rw [setWithin_of_ok depth hstore]
          have hstored := hassign scene sectionName key value old store hpermitted hscene hstore
          exact kept_tellAll h (fun _ _ _ hassigned => ih hassigned) _
            (h.watching _ hstored) hstored

theorem exists_setWithin (h : KeptWithin P told permitted reactions)
    (hassign : ∀ scene sectionName key value old store, permitted (.assign sectionName key value) →
      P scene → scene.store.assign sectionName key value = .ok (old, store) →
        P { scene with store })
    (depth : Nat) (hstore : scene.store.assign sectionName key value = .ok (old, store))
    (hstored : P { scene with store }) :
    ∃ after, setWithin reactions (depth + 1) sectionName key value scene = (.ok (), after) ∧
      P after := by
  refine ⟨_, setWithin_of_ok depth hstore, ?_⟩
  exact kept_tellAll h
    (fun _ _ _ hpermitted => keeps_setWithin_of_permitted h hassign depth hpermitted) _
    (h.watching _ hstored) hstored

/-- A stored value may break a property if telling one observer about it puts the property right,
whatever was told before.  Until then only the base of the property holds. -/
theorem keeps_setWithin_of_restored {base : Scene σ → Prop} {restorer : Observer}
    (hbase : KeptWithin base told permitted reactions) (h : KeptWithin P told permitted reactions)
    (hof : ∀ scene, P scene → base scene)
    (hwatches : ∀ scene, base scene → restorer ∈ scene.store.observers)
    (hassign : ∀ scene sectionName key value old store,
      permitted (.assign sectionName key value) → base scene →
        scene.store.assign sectionName key value = .ok (old, store) → base { scene with store })
    (hrestored : ∀ scene sectionName key value old store,
      permitted (.assign sectionName key value) → P scene →
        scene.store.assign sectionName key value = .ok (old, store) →
          P { scene with store } ∨ ∀ later : Scene σ, base later →
            P { later with
              surroundings :=
                (reactions restorer ⟨sectionName, key, old, value⟩ later).surroundings })
    (depth : Nat) (hpermitted : permitted (.assign sectionName key value)) :
    Action.Keeps P (setWithin reactions depth sectionName key value) := by
  induction depth generalizing sectionName key value with
  | zero => exact Action.keeps_fail _
  | succ depth ih =>
      intro scene hscene
      cases hstore : scene.store.assign sectionName key value with
      | error fault =>
          rw [setWithin_of_error depth hstore]
          exact hscene
      | ok result =>
          rcases result with ⟨old, store⟩
          rw [setWithin_of_ok depth hstore]
          have hstored := hassign scene sectionName key value old store hpermitted (hof _ hscene)
            hstore
          have htold := hbase.watching _ hstored
          rcases hrestored scene sectionName key value old store hpermitted hscene hstore with
            hkept | hright
          · exact kept_tellAll h (fun _ _ _ hassigned => ih hassigned) _ htold hkept
          · -- The base lasts until the restorer is told, and the property from then on.
            rcases List.append_of_mem (hwatches _ hstored) with ⟨before, behind, hsplit⟩
            change store.observers = before ++ restorer :: behind at hsplit
            change ∀ observer ∈ store.observers, told observer at htold
            rw [hsplit, List.forall_mem_append, List.forall_mem_cons] at htold
            rw [hsplit, List.foldl_append, List.foldl_cons]
            have hbefore := kept_tellAll hbase
              (fun _ _ _ hassigned => keeps_setWithin_of_permitted hbase hassign depth hassigned)
              ⟨sectionName, key, old, value⟩ htold.1 hstored
            apply kept_tellAll h (fun _ _ _ hassigned => ih hassigned) _ htold.2.2
            exact kept_tell_of_react h (fun _ _ _ hassigned => ih hassigned) _ htold.2.1
              (hright _ hbefore)

end Setting

/-- Do the reactions of those who watch, and what they may do to the store, keep a property? -/
structure KeptBy (P : Scene σ → Prop) (reactions : Reactions σ) : Prop where
  register : ∀ (scene : Scene σ) (observer : Observer), P scene →
    P (scene.mapStore (·.register observer))
  unregister : ∀ (scene : Scene σ) (observer : Observer), P scene →
    P (scene.mapStore (·.unregister observer))
  noteAll : ∀ (scene : Scene σ) (entries : Journal), P scene →
    P (scene.mapStore (·.noteAll entries))
  assign : ∀ (scene : Scene σ) (sectionName key : Text) (value old : Value) (store : Store),
    P scene → scene.store.assign sectionName key value = .ok (old, store) →
      P { scene with store }
  react : ∀ (scene : Scene σ) (observer : Observer) (change : Change), P scene →
    P { scene with surroundings := (reactions observer change scene).surroundings }

theorem KeptBy.within {P : Scene σ → Prop} {reactions : Reactions σ} (h : KeptBy P reactions) :
    KeptWithin P (fun _ => True) (fun _ => True) reactions where
  watching := fun _ _ _ _ => trivial
  acts := fun _ _ _ _ _ _ => trivial
  register := fun scene observer _ => h.register scene observer
  unregister := fun scene observer _ => h.unregister scene observer
  noteAll := h.noteAll
  react := fun scene observer change _ => h.react scene observer change

theorem keeps_setWithin {P : Scene σ → Prop} {reactions : Reactions σ} (h : KeptBy P reactions)
    (depth : Nat) (sectionName key : Text) (value : Value) :
    Action.Keeps P (setWithin reactions depth sectionName key value) :=
  keeps_setWithin_of_permitted h.within
    (fun scene sectionName key value old store _ =>
      h.assign scene sectionName key value old store) depth trivial

end Scene

end ContainerDesk
