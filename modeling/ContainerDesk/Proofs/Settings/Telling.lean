import ContainerDesk.Proofs.Settings.Observers

/-!
# Who is told of what

Who is told of a value is settled when the value is stored.  Each of them is told once, in
the order of registration, whatever those before them did: register or unregister others,
set further values, or fail.  A value that is set meanwhile is told in the same way to
those who are registered by then, before the first round goes on.

What happens in a round is a list of happenings.  It says who was told of what, what the
journal got, and who failed.  That the list is right about who was told is checked by
reactions that keep a record themselves.
-/

namespace ContainerDesk

abbrev Notice := Observer × Change

inductive Happening where
  | told (observer : Observer) (change : Change)
  | noted (entries : Journal)
  | failed (observer : Observer) (change : Change)

namespace Happening

def notice? : Happening → Option Notice
  | told observer change => some (observer, change)
  | noted _ | failed _ _ => none

def entries : Happening → Journal
  | told _ _ => []
  | noted entries => entries
  | failed observer change => [Scene.failureEntry observer change]

end Happening

structure Store.Changes (change : Change) (store after : Store) : Prop where
  old : store.get change.sectionName change.key = .ok change.old
  new : after.get change.sectionName change.key = .ok change.new
  others : ∀ name key found, (name, key) ≠ (change.sectionName, change.key) →
    store.get name key = .ok found → after.get name key = .ok found
  rest : ∃ live, after = { store with live }

theorem Store.changes_of_assign {store after : Store} {name key : Text} {value old : Value}
    (h : store.assign name key value = .ok (old, after)) :
    store.Changes ⟨name, key, old, value⟩ after where
  old := get_old_of_assign h
  new := get_of_assign h
  others := fun _ _ _ hother hfound => get_of_assign_of_ne h hother hfound
  rest := exists_live_of_assign h

namespace Scene

variable {σ : Type}

/-!
# The law of telling
-/

abbrev Course (σ : Type) := Scene σ → List Happening → Except Fault Unit → Scene σ → Prop

/-- Acts one after the other, up to the first value that is not taken, given what happens when a
value is set. -/
inductive Performs (sets : Text → Text → Value → Course σ) :
    List Act → Scene σ → List Happening → Except Fault Unit → Scene σ → Prop where
  | done {scene : Scene σ} : Performs sets [] scene [] (.ok ()) scene
  | register {observer : Observer} {rest : List Act} {scene after : Scene σ}
      {happenings : List Happening} {result : Except Fault Unit}
      (h : Performs sets rest (scene.mapStore (·.register observer)) happenings result after) :
      Performs sets (.register observer :: rest) scene happenings result after
  | unregister {observer : Observer} {rest : List Act} {scene after : Scene σ}
      {happenings : List Happening} {result : Except Fault Unit}
      (h : Performs sets rest (scene.mapStore (·.unregister observer)) happenings result after) :
      Performs sets (.unregister observer :: rest) scene happenings result after
  | assign {name key : Text} {value : Value} {rest : List Act} {scene between after : Scene σ}
      {happenings later : List Happening} {result : Except Fault Unit}
      (hset : sets name key value scene happenings (.ok ()) between)
      (h : Performs sets rest between later result after) :
      Performs sets (.assign name key value :: rest) scene (happenings ++ later) result after
  | refused {name key : Text} {value : Value} {rest : List Act} {scene after : Scene σ}
      {happenings : List Happening} {fault : Fault}
      (hset : sets name key value scene happenings (.error fault) after) :
      Performs sets (.assign name key value :: rest) scene happenings (.error fault) after

def noted (reaction : Reaction σ) (scene : Scene σ) : Scene σ :=
  ⟨scene.store.noteAll reaction.notes, reaction.surroundings⟩

/-- One observer is told of a change.  If it fails, on its own or by one of its acts, this is noted,
and it ends there. -/
inductive Answers (reactions : Reactions σ) (sets : Text → Text → Value → Course σ)
    (change : Change) (observer : Observer) (scene : Scene σ) :
    List Happening → Scene σ → Prop where
  | well {happenings : List Happening} {after : Scene σ} (hdistinct : scene.store.observers.Nodup)
      (hacts : Performs sets (reactions observer change scene).acts
        (noted (reactions observer change scene) scene) happenings (.ok ()) after)
      (hfails : (reactions observer change scene).fails = false) :
      Answers reactions sets change observer scene
        (.told observer change :: .noted (reactions observer change scene).notes :: happenings)
        after
  | badly {happenings : List Happening} {result : Except Fault Unit} {after : Scene σ}
      (hdistinct : scene.store.observers.Nodup)
      (hacts : Performs sets (reactions observer change scene).acts
        (noted (reactions observer change scene) scene) happenings result after)
      (hfails : (reactions observer change scene).fails = true ∨ ∃ fault, result = .error fault) :
      Answers reactions sets change observer scene
        (.told observer change :: .noted (reactions observer change scene).notes ::
          (happenings ++ [.failed observer change]))
        (after.mapStore (·.noteAll [failureEntry observer change]))

inductive TellsAll (reactions : Reactions σ) (sets : Text → Text → Value → Course σ)
    (change : Change) : List Observer → Scene σ → List Happening → Scene σ → Prop where
  | none {scene : Scene σ} : TellsAll reactions sets change [] scene [] scene
  | next {observer : Observer} {rest : List Observer} {scene between after : Scene σ}
      {happenings later : List Happening}
      (h : Answers reactions sets change observer scene happenings between)
      (hrest : TellsAll reactions sets change rest between later after) :
      TellsAll reactions sets change (observer :: rest) scene (happenings ++ later) after

/-- Setting a value that is not taken changes nothing and tells nobody.  One that is taken is stored
and told to those who watch at that moment, and nothing that they do makes it fail.  The same goes
for the values that they set, up to a depth. -/
def Obeys (reactions : Reactions σ) : Nat → Text → Text → Value → Course σ
  | 0, _, _, _, scene, happenings, result, after =>
      happenings = [] ∧ result = .error (.nestingTooDeep []) ∧ after = scene
  | depth + 1, name, key, value, scene, happenings, result, after =>
      scene.store.observers.Nodup ∧
      (¬ Schema.Takes name key value →
        happenings = [] ∧ (∃ fault, result = .error fault) ∧ after = scene) ∧
      (Schema.Takes name key value →
        result = .ok () ∧
        ∃ old stored, scene.store.Changes ⟨name, key, old, value⟩ stored ∧
          TellsAll reactions (Obeys reactions depth) ⟨name, key, old, value⟩
            scene.store.observers { scene with store := stored } happenings after)

/-!
# Reactions on record
-/

/-- The scene, where the surroundings also keep a record of who was told of what. -/
def recorded (scene : Scene σ) (notices : List Notice) : Scene (σ × List Notice) :=
  ⟨scene.store, scene.surroundings, notices⟩

def recording (reactions : Reactions σ) : Reactions (σ × List Notice) :=
  fun observer change scene =>
    let reaction := reactions observer change ⟨scene.store, scene.surroundings.1⟩
    ⟨(reaction.surroundings, scene.surroundings.2 ++ [(observer, change)]), reaction.notes,
      reaction.acts, reaction.fails⟩

/-- Are the happenings what an action did from a scene, by the record of its double and by the
journal?  And are the scenes as they should be afterwards? -/
structure Logs (action : Action (Scene σ) Unit) (double : Action (Scene (σ × List Notice)) Unit)
    (scene : Scene σ) (happenings : List Happening) (result : Except Fault Unit)
    (after : Scene σ) : Prop where
  ends : action scene = (result, after)
  record : ∀ notices, double (scene.recorded notices) =
    (result, after.recorded (notices ++ happenings.filterMap (·.notice?)))
  journal : after.store.journal = scene.store.journal ++ happenings.flatMap (·.entries)
  isSound : after.IsSound
  isDistinct : after.IsDistinct

namespace Logs

variable {action next : Action (Scene σ) Unit}
  {double nextDouble : Action (Scene (σ × List Notice)) Unit}
  {scene between after : Scene σ} {happenings later : List Happening}
  {result : Except Fault Unit}

theorem bind (h : Logs action double scene happenings (.ok ()) between)
    (hnext : Logs next nextDouble between later result after) :
    Logs (action >>= fun _ => next) (double >>= fun _ => nextDouble) scene (happenings ++ later)
      result after where
  ends := by rw [Action.bind_of_ok h.ends, hnext.ends]
  record := by
    intro notices
    rw [Action.bind_of_ok (h.record notices), hnext.record, List.filterMap_append,
      List.append_assoc]
  journal := by rw [hnext.journal, h.journal, List.flatMap_append, List.append_assoc]
  isSound := hnext.isSound
  isDistinct := hnext.isDistinct

theorem bind_error {fault : Fault} (h : Logs action double scene happenings (.error fault) after) :
    Logs (action >>= fun _ => next) (double >>= fun _ => nextDouble) scene happenings
      (.error fault) after where
  ends := Action.bind_of_error h.ends
  record := fun notices => Action.bind_of_error (h.record notices)
  journal := h.journal
  isSound := h.isSound
  isDistinct := h.isDistinct

end Logs

theorem logs_register {scene : Scene σ} (hsound : scene.IsSound) (hdistinct : scene.IsDistinct)
    (observer : Observer) :
    Logs (Action.change (·.mapStore (·.register observer)))
      (Action.change (·.mapStore (·.register observer))) scene [] (.ok ())
      (scene.mapStore (·.register observer)) where
  ends := rfl
  record := by
    intro notices
    rw [List.filterMap_nil, List.append_nil]
    rfl
  journal := by
    rcases Store.exists_observers_of_register scene.store observer with ⟨observers, hregister⟩
    rw [List.flatMap_nil, List.append_nil]
    show (scene.store.register observer).journal = scene.store.journal
    rw [hregister]
  isSound := Store.IsSound.register hsound observer
  isDistinct := Store.nodup_register hdistinct observer

theorem logs_unregister {scene : Scene σ} (hsound : scene.IsSound) (hdistinct : scene.IsDistinct)
    (observer : Observer) :
    Logs (Action.change (·.mapStore (·.unregister observer)))
      (Action.change (·.mapStore (·.unregister observer))) scene [] (.ok ())
      (scene.mapStore (·.unregister observer)) where
  ends := rfl
  record := by
    intro notices
    rw [List.filterMap_nil, List.append_nil]
    rfl
  journal := (List.append_nil _).symm
  isSound := Store.IsSound.unregister hsound observer
  isDistinct := hdistinct.erase observer

/-!
# Why the law holds
-/

section Law

variable {reactions : Reactions σ} {set : Text → Text → Value → Action (Scene σ) Unit}
  {double : Text → Text → Value → Action (Scene (σ × List Notice)) Unit}
  {sets : Text → Text → Value → Course σ}

/-- Does setting a value have a log that is on course, wherever it starts? -/
def IsLogged (set : Text → Text → Value → Action (Scene σ) Unit)
    (double : Text → Text → Value → Action (Scene (σ × List Notice)) Unit)
    (sets : Text → Text → Value → Course σ) : Prop :=
  ∀ name key value scene, scene.IsSound → scene.IsDistinct → ∃ happenings result after,
    Logs (set name key value) (double name key value) scene happenings result after ∧
      sets name key value scene happenings result after

theorem IsLogged.performAll (h : IsLogged set double sets) (acts : List Act) {scene : Scene σ}
    (hsound : scene.IsSound) (hdistinct : scene.IsDistinct) :
    ∃ happenings result after,
      Logs (performAll set acts) (performAll double acts) scene happenings result after ∧
        Performs sets acts scene happenings result after := by
  induction acts generalizing scene with
  | nil =>
      refine ⟨[], .ok (), scene, ⟨rfl, ?_, (List.append_nil _).symm, hsound, hdistinct⟩, .done⟩
      intro notices
      rw [List.filterMap_nil, List.append_nil]
      rfl
  | cons act rest ih =>
      cases act with
      | register observer =>
          have hlogs := logs_register hsound hdistinct observer
          rcases ih hlogs.isSound hlogs.isDistinct with ⟨later, result, after, hrest, hperforms⟩
          exact ⟨_, _, _, hlogs.bind hrest, .register hperforms⟩
      | unregister observer =>
          have hlogs := logs_unregister hsound hdistinct observer
          rcases ih hlogs.isSound hlogs.isDistinct with ⟨later, result, after, hrest, hperforms⟩
          exact ⟨_, _, _, hlogs.bind hrest, .unregister hperforms⟩
      | assign name key value =>
          rcases h name key value scene hsound hdistinct with
            ⟨happenings, result, between, hlogs, hset⟩
          cases result with
          | error fault => exact ⟨_, _, _, hlogs.bind_error, .refused hset⟩
          | ok done =>
              rcases ih hlogs.isSound hlogs.isDistinct with
                ⟨later, result, after, hrest, hperforms⟩
              exact ⟨_, _, _, hlogs.bind hrest, .assign hset hperforms⟩

theorem tell_of_well {change : Change} {observer : Observer} {scene after : Scene σ}
    (hacts : Scene.performAll set (reactions observer change scene).acts
      (noted (reactions observer change scene) scene) = (.ok (), after))
    (hfails : (reactions observer change scene).fails = false) :
    Scene.tell reactions set change scene observer = after := by
  unfold Scene.tell
  unfold noted at hacts
  dsimp only
  rw [hacts]
  dsimp only
  rw [hfails, if_neg Bool.false_ne_true]

theorem tell_of_badly {change : Change} {observer : Observer} {scene after : Scene σ}
    {result : Except Fault Unit}
    (hacts : Scene.performAll set (reactions observer change scene).acts
      (noted (reactions observer change scene) scene) = (result, after))
    (hfails : (reactions observer change scene).fails = true ∨ ∃ fault, result = .error fault) :
    Scene.tell reactions set change scene observer =
      after.mapStore (·.noteAll [failureEntry observer change]) := by
  unfold Scene.tell
  unfold noted at hacts
  dsimp only
  rw [hacts]
  cases result with
  | error fault => rfl
  | ok done =>
      have hfailed := hfails.resolve_right fun herror => by
        rcases herror with ⟨fault, herror⟩
        cases herror
      dsimp only
      rw [hfailed, if_pos rfl]

theorem IsLogged.tell (h : IsLogged set double sets) (reactions : Reactions σ) (change : Change)
    (observer : Observer) {scene : Scene σ} (hsound : scene.IsSound)
    (hdistinct : scene.IsDistinct) :
    ∃ happenings after,
      Logs (Action.change (tell reactions set change · observer))
        (Action.change (tell (recording reactions) double change · observer)) scene happenings
        (.ok ()) after ∧
      Answers reactions sets change observer scene happenings after := by
  have hnoted : (noted (reactions observer change scene) scene).IsSound :=
    Store.IsSound.noteAll hsound _
  rcases h.performAll (reactions observer change scene).acts hnoted hdistinct with
    ⟨happenings, result, after, hlogs, hperforms⟩
  have hrecord := fun notices => hlogs.record (notices ++ [(observer, change)])
  have hnotices (notices : List Notice) :
      notices ++ [(observer, change)] ++ happenings.filterMap (·.notice?) =
        notices ++ (Happening.told observer change ::
          .noted (reactions observer change scene).notes :: happenings).filterMap (·.notice?) := by
    rw [List.append_assoc]
    rfl
  have hjournal : after.store.journal = scene.store.journal ++
      (Happening.told observer change :: .noted (reactions observer change scene).notes ::
        happenings).flatMap (·.entries) := by
    rw [hlogs.journal]
    exact List.append_assoc _ _ _
  -- An observer that fails, or whose work fails, gets a line in the journal after all of that.
  by_cases hfails : (reactions observer change scene).fails = true ∨ ∃ fault, result = .error fault
  · have hsound : (after.mapStore (·.noteAll [failureEntry observer change])).IsSound :=
      Store.IsSound.noteAll hlogs.isSound _
    refine ⟨_, _, ⟨?_, ?_, ?_, hsound, hlogs.isDistinct⟩, .badly hdistinct hperforms hfails⟩
    · exact congrArg (Prod.mk _) (tell_of_badly hlogs.ends hfails)
    · intro notices
      rw [← List.cons_append, ← List.cons_append, List.filterMap_append, ← List.append_assoc,
        ← hnotices]
      have htold : Scene.tell (recording reactions) double change (scene.recorded notices) observer
          = _ := tell_of_badly (hrecord notices) hfails
      show (_, Scene.tell (recording reactions) double change (scene.recorded notices) observer) = _
      rw [htold, List.filterMap_cons_none rfl, List.filterMap_nil, List.append_nil]
      rfl
    · rw [← List.cons_append, ← List.cons_append, List.flatMap_append, ← List.append_assoc,
        ← hjournal]
      rfl
  · rw [not_or, Bool.not_eq_true] at hfails
    have hresult : result = .ok () := by
      cases result with
      | error fault => exact absurd ⟨fault, rfl⟩ hfails.2
      | ok done => rfl
    subst hresult
    refine ⟨_, _, ⟨?_, ?_, hjournal, hlogs.isSound, hlogs.isDistinct⟩,
      .well hdistinct hperforms hfails.1⟩
    · exact congrArg (Prod.mk _) (tell_of_well hlogs.ends hfails.1)
    · intro notices
      rw [← hnotices]
      exact congrArg (Prod.mk _) (tell_of_well (hrecord notices) hfails.1)

theorem IsLogged.tellAll (h : IsLogged set double sets) (reactions : Reactions σ) (change : Change)
    (observers : List Observer) {scene : Scene σ} (hsound : scene.IsSound)
    (hdistinct : scene.IsDistinct) :
    ∃ happenings after,
      Logs (Action.change fun scene => observers.foldl (Scene.tell reactions set change) scene)
        (Action.change fun scene =>
          observers.foldl (Scene.tell (recording reactions) double change) scene) scene happenings
        (.ok ()) after ∧
      TellsAll reactions sets change observers scene happenings after := by
  induction observers generalizing scene with
  | nil =>
      refine ⟨[], scene, ⟨rfl, ?_, (List.append_nil _).symm, hsound, hdistinct⟩, .none⟩
      intro notices
      rw [List.filterMap_nil, List.append_nil]
      rfl
  | cons observer rest ih =>
      rcases h.tell reactions change observer hsound hdistinct with
        ⟨happenings, between, hlogs, hanswers⟩
      rcases ih hlogs.isSound hlogs.isDistinct with ⟨later, after, hrest, htells⟩
      exact ⟨_, _, hlogs.bind hrest, .next hanswers htells⟩

/-- The depth to which observers may answer each other carries the induction. -/
theorem isLogged_setWithin (reactions : Reactions σ) (depth : Nat) :
    IsLogged (setWithin reactions depth) (setWithin (recording reactions) depth)
      (Obeys reactions depth) := by
  induction depth with
  | zero =>
      -- Nothing is stored when the nesting is too deep, so nobody is told.
      intro name key value scene hsound hdistinct
      refine ⟨[], _, scene, ⟨rfl, ?_, (List.append_nil _).symm, hsound, hdistinct⟩, rfl, rfl, rfl⟩
      intro notices
      rw [List.filterMap_nil, List.append_nil]
      rfl
  | succ depth ih =>
      intro name key value scene hsound hdistinct
      cases hassign : scene.store.assign name key value with
      | error fault =>
          have hrefused : ¬ Schema.Takes name key value :=
            Store.IsSound.not_takes_of_assign hsound hassign
          have hobeys : Obeys reactions (depth + 1) name key value scene [] (.error fault) scene :=
            ⟨hdistinct, fun _ => ⟨rfl, ⟨fault, rfl⟩, rfl⟩, fun htakes => absurd htakes hrefused⟩
          refine ⟨[], .error fault, scene, ⟨setWithin_of_error depth hassign, ?_,
            (List.append_nil _).symm, hsound, hdistinct⟩, hobeys⟩
          intro notices
          rw [List.filterMap_nil, List.append_nil]
          exact setWithin_of_error depth hassign
      | ok assigned =>
          rcases assigned with ⟨old, stored⟩
          have htakes : Schema.Takes name key value := Store.IsSound.takes_of_assign hsound hassign
          have hobservers : stored.observers = scene.store.observers :=
            Store.observers_assign hassign
          have hstored : ({ scene with store := stored } : Scene σ).IsSound :=
            Store.IsSound.assign hsound hassign
          have hapart : ({ scene with store := stored } : Scene σ).IsDistinct := by
            show stored.observers.Nodup
            rw [hobservers]
            exact hdistinct
          have hjournal : stored.journal = scene.store.journal := by
            rcases Store.exists_live_of_assign hassign with ⟨live, rfl⟩
            rfl
          rcases ih.tellAll reactions ⟨name, key, old, value⟩ stored.observers hstored hapart with
            ⟨happenings, after, hlogs, htells⟩
          have hobeys :
              Obeys reactions (depth + 1) name key value scene happenings (.ok ()) after :=
            ⟨hdistinct, fun hrefused => absurd htakes hrefused, fun _ =>
              ⟨rfl, old, stored, Store.changes_of_assign hassign, hobservers ▸ htells⟩⟩
          refine ⟨happenings, .ok (), after, ⟨?_, ?_, hjournal ▸ hlogs.journal, hlogs.isSound,
            hlogs.isDistinct⟩, hobeys⟩
          · rw [setWithin_of_ok depth hassign]
            exact hlogs.ends
          · intro notices
            have hrecorded : (scene.recorded notices).store.assign name key value =
                .ok (old, stored) := hassign
            rw [setWithin_of_ok depth hrecorded]
            exact hlogs.record notices

end Law

/-- Setting a value obeys the law of telling, up to any depth, and so does every value that is set
meanwhile.  A record that the observers keep shows the same tellings in the same order, and the
journal gets what they note and a line for each that failed. -/
theorem setWithin_obeys {scene : Scene σ} (h : scene.Reachable) (reactions : Reactions σ)
    (depth : Nat) (name key : Text) (value : Value) :
    ∃ happenings result after,
      setWithin reactions depth name key value scene = (result, after) ∧
      Obeys reactions depth name key value scene happenings result after ∧
      (∀ notices, setWithin (recording reactions) depth name key value (scene.recorded notices) =
        (result, after.recorded (notices ++ happenings.filterMap (·.notice?)))) ∧
      after.store.journal = scene.store.journal ++ happenings.flatMap (·.entries) ∧
      after.store.observers.Nodup := by
  rcases isLogged_setWithin reactions depth name key value scene h.isSound h.isDistinct with
    ⟨happenings, result, after, hlogs, hobeys⟩
  exact ⟨happenings, result, after, hlogs.ends, hobeys, hlogs.record, hlogs.journal,
    hlogs.isDistinct⟩

def watcher (name : String) : Observer :=
  .outside (Text.of name) (Text.of name)

/-- Told of `window_x`, the first takes the second off, puts a fourth behind the third, sets
`window_y` and fails. -/
def meddling : Reactions Unit :=
  fun observer change _ =>
    if observer = watcher "first" ∧ change.key = Text.of "window_x" then
      ⟨(), [], [.unregister (watcher "second"), .register (watcher "fourth"),
        .assign (Text.of "app") (Text.of "window_y") (.int 5)], true⟩
    else
      ⟨(), [], [], false⟩

def watched : Scene Unit :=
  (onFile []).after meddling
    [.register (watcher "first"), .register (watcher "second"), .register (watcher "third")]

def toSeven : Change :=
  ⟨Text.of "app", Text.of "window_x", .int 0, .int 7⟩

def toFive : Change :=
  ⟨Text.of "app", Text.of "window_y", .int 0, .int 5⟩

/-- The second is told all the same, and the fourth only of what was set when it was there. -/
theorem setWithin_obeys_meddling :
    watched.Reachable ∧ ∃ happenings result after,
      setWithin meddling nestingLimit (Text.of "app") (Text.of "window_x") (.int 7) watched =
        (result, after) ∧
      Obeys meddling nestingLimit (Text.of "app") (Text.of "window_x") (.int 7) watched happenings
        result after ∧
      happenings.filterMap (·.notice?) =
        [(watcher "first", toSeven), (watcher "first", toFive), (watcher "third", toFive),
          (watcher "fourth", toFive), (watcher "second", toSeven), (watcher "third", toSeven)] ∧
      happenings.flatMap (·.entries) = [failureEntry (watcher "first") toSeven] := by
  have hreachable : watched.Reachable := by
    apply (reachable_onFile []).after
    intro operation hoperation
    simp only [List.mem_cons, List.not_mem_nil, or_false] at hoperation
    rcases hoperation with rfl | rfl | rfl
    · trivial
    · trivial
    · trivial
  rcases setWithin_obeys hreachable meddling nestingLimit (Text.of "app") (Text.of "window_x")
    (.int 7) with ⟨happenings, result, after, hends, hobeys, hrecord, hjournal, _⟩
  refine ⟨hreachable, happenings, result, after, hends, hobeys, ?_, ?_⟩
  · have hnotices := congrArg (fun ending => ending.2.surroundings.2) (hrecord [])
    exact hnotices.symm
  · have hentries := congrArg (fun ending => ending.2.store.journal) hends
    exact hjournal.symm.trans hentries.symm

end Scene

end ContainerDesk
