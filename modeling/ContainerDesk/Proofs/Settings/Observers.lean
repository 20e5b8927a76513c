import ContainerDesk.Proofs.Settings.Assigning
import ContainerDesk.Proofs.Settings.Run

/-!
# Those who watch

Only registering and unregistering change who watches, and a new start, after which
nobody does.  Who is registered already is not registered again, so nobody is told twice
of one value.
-/

namespace ContainerDesk

namespace Store

variable {store after : Store} {observer other : Observer}

theorem nodup_register (h : store.observers.Nodup) (observer : Observer) :
    (store.register observer).observers.Nodup := by
  unfold register
  split
  · exact h
  · rename_i hnew
    apply List.nodup_append.mpr
    refine ⟨h, List.pairwise_singleton _ observer, ?_⟩
    intro old hold added hadded heq
    rw [List.mem_singleton.mp hadded] at heq
    exact hnew (heq ▸ hold)

theorem mem_register (store : Store) (observer : Observer) :
    observer ∈ (store.register observer).observers := by
  unfold register
  split
  · assumption
  · exact List.mem_append_right _ List.mem_cons_self

theorem count_register_of_ne (store : Store) (h : observer ≠ other) :
    (store.register observer).observers.count other = store.observers.count other := by
  unfold register
  split
  · rfl
  · rw [List.count_append, List.count_singleton, if_neg (by simpa using h), Nat.add_zero]

theorem count_unregister_of_ne (store : Store) (h : observer ≠ other) :
    (store.unregister observer).observers.count other = store.observers.count other :=
  List.count_erase_of_ne (Ne.symm h)

theorem exists_observers_of_register (store : Store) (observer : Observer) :
    ∃ observers, store.register observer = { store with observers } := by
  unfold register
  split
  · exact ⟨store.observers, rfl⟩
  · exact ⟨_, rfl⟩

theorem get_register (store : Store) (observer : Observer) (name key : Text) :
    (store.register observer).get name key = store.get name key := by
  rcases exists_observers_of_register store observer with ⟨observers, h⟩
  rw [h]
  rfl

/-!
# What leaves them alone
-/

theorem observers_assign {name key : Text} {value old : Value}
    (h : store.assign name key value = .ok (old, after)) : after.observers = store.observers := by
  rcases exists_live_of_assign h with ⟨live, rfl⟩
  rfl

theorem observers_replaceHeld (store : Store) (handle : Handle) (part : Section) :
    (store.replaceHeld handle part).observers = store.observers := by
  unfold replaceHeld
  split
  · rfl
  · rfl

theorem observers_onHeld {α : Type} (store : Store) (handle : Handle)
    (work : Section → Except Fault (α × Section)) :
    (onHeld handle work store).2.observers = store.observers := by
  unfold onHeld
  split
  · rfl
  · split
    · rfl
    · exact observers_replaceHeld store handle _

theorem observers_updateHeld (store : Store) (handle : Handle) (entries : List (Text × Value)) :
    (updateHeld handle entries store).2.observers = store.observers := by
  unfold updateHeld
  split
  · rfl
  · split
    · rfl
    · exact observers_replaceHeld store handle _

theorem observers_save (store : Store) : (save store).2.observers = store.observers := by
  rcases exists_disk_of_save store with ⟨disk, hdisk⟩
  rw [hdisk]

theorem observers_load (store : Store) : (load store).2.observers = store.observers := by
  unfold load
  split
  · rfl
  · split
    · rfl
    · split
      · rfl
      · rfl
  · exact observers_save _

theorem nodup_openFile (h : store.observers.Nodup) :
    (openFile store).2.observers.Nodup := by
  have hload : (load store.renew).2.observers.Nodup := by
    rw [observers_load]
    exact List.nodup_nil
  unfold openFile
  split
  · rename_i after hafter
    rw [hafter] at hload
    exact nodup_register hload _
  · rename_i fault after hafter
    rw [hafter] at hload
    split
    · refine nodup_register ?_ .changeJournal
      exact hload
    · exact h

end Store

namespace Scene

variable {σ : Type}

def IsDistinct (scene : Scene σ) : Prop :=
  scene.store.observers.Nodup

theorem keptBy_isDistinct (reactions : Reactions σ) : KeptBy IsDistinct reactions where
  register := fun _ observer h => Store.nodup_register h observer
  unregister := fun _ observer h => h.erase observer
  noteAll := fun _ _ h => h
  assign := by
    intro scene _ _ _ _ store h hassign
    show store.observers.Nodup
    rw [Store.observers_assign hassign]
    exact h
  react := fun _ _ _ h => h

theorem keeps_isDistinct (reactions : Reactions σ) (operation : Operation) :
    Action.Keeps IsDistinct (run reactions operation) := by
  -- Most operations leave those who watch as they are.
  have hsame {α : Type} {action : Action Store α}
      (h : ∀ store, (action store).2.observers = store.observers) :
      Action.Keeps IsDistinct (onStore action : Action (Scene σ) α) := by
    intro scene hscene
    show (action scene.store).2.observers.Nodup
    rw [h]
    exact hscene
  cases operation with
  | set sectionName key value =>
      exact keeps_silently
        (keeps_setWithin (keptBy_isDistinct reactions) nestingLimit sectionName key value)
  | append sectionName key item =>
      exact Action.keeps_bind (keeps_handleOf _) fun handle =>
        hsame fun store => store.observers_onHeld handle _
  | assign target key value =>
      exact Action.keeps_bind (keeps_handleOf target) fun handle =>
        hsame fun store => store.observers_onHeld handle _
  | update target entries =>
      exact Action.keeps_bind (keeps_handleOf target) fun handle =>
        keeps_silently (hsame fun store => store.observers_updateHeld handle entries)
  | reset target =>
      exact Action.keeps_bind (keeps_handleOf target) fun handle =>
        keeps_silently (hsame fun store => store.observers_onHeld handle _)
  | register observer =>
      exact keeps_silently (Action.keeps_change fun _ h => Store.nodup_register h observer)
  | unregister observer =>
      exact keeps_silently (Action.keeps_change fun _ h => h.erase observer)
  | load => exact keeps_silently (hsame Store.observers_load)
  | save => exact keeps_silently (hsame Store.observers_save)
  | renew => exact keeps_silently (Action.keeps_change fun _ _ => List.nodup_nil)
  | openFile => exact keeps_silently fun _ h => Store.nodup_openFile h

theorem Reachable.isDistinct {scene : Scene σ} (h : scene.Reachable) : scene.IsDistinct := by
  induction h with
  | fresh path disk surroundings => exact List.nodup_nil
  | operate _ reactions _ ih => exact keeps_isDistinct reactions _ _ ih
  | outside _ disk ih => exact ih

end Scene

end ContainerDesk
