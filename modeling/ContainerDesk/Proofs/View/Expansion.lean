import ContainerDesk.Proofs.View.Run

/-!
# Expanded headers

A header is expanded as long as the user left it so and each snapshot since then has had
a larger group of its key.  Events that only filter or redraw do not matter to it, even
while it is hidden.
-/

namespace ContainerDesk

def Row.folded : Row → Row
  | .header row => .header { row with isExpanded := false }
  | other => other

namespace Tree

open Grouping (IsSnapshot)

/-- Does a header with a key stay expanded in an event?  The user has to leave it alone, and a
snapshot has to bring a larger group of the key. -/
def Event.Keeps (key : Text) : Event → Prop
  | .snapshot groups => ∃ group ∈ groups, group.isCollapsible = true ∧ group.key = key
  | .expand other _ => other ≠ key
  | _ => True

/-- Did the user expand a header with a key, and has it stayed so ever since? -/
def StaysExpanded (key : Text) (events : List Event) : Prop :=
  ∃ before rest, events = before ++ .expand key true :: rest ∧ ∀ event ∈ rest, event.Keeps key

theorem not_staysExpanded_nil (key : Text) : ¬ StaysExpanded key [] := by
  intro h
  rcases h with ⟨before, rest, hevents, _⟩
  exact List.append_ne_nil_of_right_ne_nil before (List.cons_ne_nil _ rest) hevents.symm

theorem staysExpanded_concat {key : Text} {events : List Event} {event : Event} :
    StaysExpanded key (events ++ [event]) ↔
      event = .expand key true ∨ (StaysExpanded key events ∧ event.Keeps key) := by
  constructor
  · intro h
    rcases h with ⟨before, rest, hevents, hkeeps⟩
    rcases List.eq_nil_or_concat' rest with rfl | ⟨front, last, rfl⟩
    · exact .inl (List.singleton_inj.mp (List.append_inj' hevents rfl).2)
    · rw [← List.cons_append, ← List.append_assoc] at hevents
      rcases List.append_inj' hevents rfl with ⟨hfront, hlast⟩
      rw [List.forall_mem_append, List.forall_mem_singleton] at hkeeps
      cases hlast
      exact .inr ⟨⟨before, front, hfront, hkeeps.1⟩, hkeeps.2⟩
  · intro h
    rcases h with rfl | ⟨⟨before, rest, rfl, hrest⟩, hevent⟩
    · exact ⟨events, [], rfl, fun _ hmem => absurd hmem List.not_mem_nil⟩
    · refine ⟨before, rest ++ [event], List.append_assoc _ _ _, ?_⟩
      rw [List.forall_mem_append, List.forall_mem_singleton]
      exact ⟨hrest, hevent⟩

/-!
# One event
-/

variable {tree after : Tree} {language : Language}

/-- Does each header show what is remembered of its key? -/
def ShowsRemembered (tree : Tree) : Prop :=
  ∀ row, .header row ∈ tree.rows → (row.isExpanded = true ↔ row.key ∈ tree.expanded)

theorem IsDrawn.showsRemembered (h : tree.IsDrawn language) (hsnapshot : IsSnapshot tree.groups) :
    tree.ShowsRemembered := by
  intro row hrow
  by_cases hnone : tree.visibleGroups = []
  · rw [h.rows_of_nil hnone, List.mem_singleton] at hrow
    cases hrow
  · rw [h.rows_of_ne_nil hnone, List.mem_map] at hrow
    rcases hrow with ⟨group, hgroup, hrow⟩
    have hmembers := (isSnapshot_visibleGroups hsnapshot).inhabited group hgroup
    have hshows : tree.Shows language group (tree.groupRow language group) :=
      shows_groupRow language hmembers
    rw [hrow] at hshows
    rcases hshows with ⟨_, hkey, _, _, hexpanded⟩
    rw [hkey]
    exact hexpanded

theorem mem_expanded_of_expand? (h : tree.ShowsRemembered) {key other : Text} {isExpanded : Bool}
    (hexpand : tree.expand? key isExpanded = some after) :
    other ∈ after.expanded ↔
      if other = key then isExpanded = true else other ∈ tree.expanded := by
  rcases expand?_cases hexpand with ⟨row, hrow, rfl, ⟨rfl, rfl⟩ | rfl⟩
  · by_cases hother : other = row.key
    · rw [if_pos hother, hother]
      exact (h row hrow).symm
    · rw [if_neg hother]
  · exact mem_rememberExpanded

theorem map_folded_expandRows (key : Text) (isExpanded : Bool) (rows : List Row) :
    (expandRows key isExpanded rows).map Row.folded = rows.map Row.folded := by
  induction rows with
  | nil => rfl
  | cons first rest ih =>
      by_cases hfirst : ∃ row, first = .header row ∧ row.key = key
      · rcases hfirst with ⟨row, rfl, hkey⟩
        rw [expandRows, if_pos hkey]
        rfl
      · rw [expandRows_cons_of_ne rest fun row hrow hkey => hfirst ⟨row, hrow, hkey⟩, List.map_cons,
          List.map_cons, ih]

theorem spares_of_expand? {key : Text} {isExpanded : Bool}
    (h : tree.expand? key isExpanded = some after) :
    after.groups = tree.groups ∧ after.visibleGroups = tree.visibleGroups ∧
      after.rows.map Row.folded = tree.rows.map Row.folded := by
  rcases expand?_cases h with ⟨_, _, _, ⟨_, rfl⟩ | rfl⟩
  · exact ⟨rfl, rfl, rfl⟩
  · exact ⟨rfl, rfl, map_folded_expandRows key isExpanded tree.rows⟩

theorem mem_expanded_setGroups {groups : List Group} {key : Text} :
    key ∈ (tree.setGroups language groups).expanded ↔
      key ∈ tree.expanded ∧ ∃ group ∈ groups, group.isCollapsible = true ∧ group.key = key := by
  show key ∈ tree.expanded.filter _ ↔ _
  rw [List.mem_filter, decide_eq_true_eq, List.mem_map]
  simp only [List.mem_filter, and_assoc]

theorem expanded_of_step? {event : Event} (hstep : tree.step? language event = some after)
    (hsnapshot : ∀ groups, event ≠ .snapshot groups)
    (hexpand : ∀ key isExpanded, event ≠ .expand key isExpanded) :
    after.expanded = tree.expanded := by
  cases event with
  | snapshot groups => exact absurd rfl (hsnapshot groups)
  | placeholder message =>
      cases hstep
      rfl
  | search query =>
      cases hstep
      unfold search
      split
      · rfl
      · rfl
  | onlyRunning isOn =>
      cases hstep
      unfold setOnlyRunning
      split
      · rfl
      · rfl
  | expand key isExpanded => exact absurd rfl (hexpand key isExpanded)
  | select path =>
      unfold step? select? at hstep
      dsimp only at hstep
      split at hstep
      · cases hstep
        rfl
      · rcases Option.map_eq_some_iff.mp hstep with ⟨current, _, rfl⟩
        rfl

/-- An event that finds its row expands a key, keeps it expanded, or leaves it collapsed. -/
theorem mem_expanded_of_step? (h : tree.ShowsRemembered) {event : Event}
    (hstep : tree.step? language event = some after) {key : Text} :
    key ∈ after.expanded ↔
      event = .expand key true ∨ (key ∈ tree.expanded ∧ event.Keeps key) := by
  -- Every other event leaves all keys as they are, and is none of the user's on a header.
  have hidle (hsame : after.expanded = tree.expanded) (hkeeps : event.Keeps key)
      (hother : event ≠ .expand key true) :
      key ∈ after.expanded ↔
        event = .expand key true ∨ (key ∈ tree.expanded ∧ event.Keeps key) := by
    rw [hsame]
    exact ⟨fun hmem => .inr ⟨hmem, hkeeps⟩, fun hkept => (hkept.resolve_left hother).1⟩
  cases event with
  | snapshot groups =>
      cases hstep
      rw [mem_expanded_setGroups]
      exact ⟨.inr, fun hkept => hkept.resolve_left nofun⟩
  | expand other isExpanded =>
      rw [mem_expanded_of_expand? h hstep]
      by_cases hkey : key = other
      · rw [if_pos hkey, hkey]
        constructor
        · intro hexpanded
          exact .inl (by rw [hexpanded])
        · intro hkept
          rcases hkept with hexpand | ⟨_, hother⟩
          · exact (Event.expand.inj hexpand).2
          · exact absurd rfl hother
      · rw [if_neg hkey]
        constructor
        · exact fun hmem => .inr ⟨hmem, Ne.symm hkey⟩
        · intro hkept
          rcases hkept with hexpand | ⟨hmem, _⟩
          · exact absurd (Event.expand.inj hexpand).1.symm hkey
          · exact hmem
  | placeholder message => exact hidle (expanded_of_step? hstep nofun nofun) trivial nofun
  | search query => exact hidle (expanded_of_step? hstep nofun nofun) trivial nofun
  | onlyRunning isOn => exact hidle (expanded_of_step? hstep nofun nofun) trivial nofun
  | select path => exact hidle (expanded_of_step? hstep nofun nofun) trivial nofun

/-!
# Runs
-/

def run? (tree : Tree) (language : Language) (events : List Event) : Option Tree :=
  events.foldlM (fun tree event => tree.step? language event) tree

theorem run?_concat_eq_some {events : List Event} {event : Event} :
    tree.run? language (events ++ [event]) = some after ↔
      ∃ before, tree.run? language events = some before ∧
        before.step? language event = some after := by
  unfold run?
  rw [List.foldlM_append]
  simp only [List.foldlM_cons, List.foldlM_nil, Option.bind_eq_bind, Option.pure_def,
    Option.bind_fun_some]
  exact Option.bind_eq_some_iff

theorem eq_after_of_run? {events : List Event} (h : tree.run? language events = some after) :
    after = tree.after language events := by
  induction events using List.reverseRecOn generalizing after with
  | nil => exact (Option.some.inj h).symm
  | append_singleton front event ih =>
      rcases run?_concat_eq_some.mp h with ⟨before, hfront, hstep⟩
      rw [after_concat, ← ih hfront, next, hstep]
      rfl

theorem rows_eq_nil_or_isDrawn_next (h : tree.rows = []) (event : Event) :
    (tree.next language event).rows = [] ∨ (tree.next language event).IsDrawn language := by
  by_cases hredrawn : tree.IsRedrawnBy event
  · exact .inr (isDrawn_of_isRedrawnBy hredrawn)
  · left
    rcases next_of_not_isRedrawnBy hredrawn with hsame | ⟨key, isExpanded, hset⟩ | ⟨current, hset⟩
    · rw [hsame, h]
    · rw [hset, setExpanded, h]
      rfl
    · rw [hset, h]

section Runs

variable {columns : List Column} {buttons : List RowButton} {initial : Bool} {events : List Event}

theorem rows_eq_nil_or_isDrawn_after (hsnapshots : ∀ event ∈ events, event.IsOfSnapshot) :
    ((fresh language columns buttons initial).after language events).rows = [] ∨
      ((fresh language columns buttons initial).after language events).IsDrawn language := by
  induction events using List.reverseRecOn with
  | nil => exact .inl rfl
  | append_singleton front event ih =>
      have hfront := (List.forall_mem_append.mp hsnapshots).1
      rw [after_concat]
      rcases ih hfront with hrows | hdrawn
      · exact rows_eq_nil_or_isDrawn_next hrows event
      · exact .inr (hdrawn.next (isSnapshot_groups_after hfront) event)

theorem showsRemembered_after (hsnapshots : ∀ event ∈ events, event.IsOfSnapshot) :
    ((fresh language columns buttons initial).after language events).ShowsRemembered := by
  rcases rows_eq_nil_or_isDrawn_after hsnapshots with hrows | hdrawn
  · intro row hrow
    rw [hrows] at hrow
    exact absurd hrow List.not_mem_nil
  · exact hdrawn.showsRemembered (isSnapshot_groups_after hsnapshots)

/-- The keys that are expanded are those that the history says, whether or not their headers are
to be seen. -/
theorem mem_expanded_iff_staysExpanded (hsnapshots : ∀ event ∈ events, event.IsOfSnapshot)
    (hrun : (fresh language columns buttons initial).run? language events = some tree)
    {key : Text} : key ∈ tree.expanded ↔ StaysExpanded key events := by
  induction events using List.reverseRecOn generalizing tree with
  | nil =>
      cases hrun
      exact ⟨fun hmem => absurd hmem List.not_mem_nil,
        fun h => absurd h (not_staysExpanded_nil key)⟩
  | append_singleton front event ih =>
      have hfront := (List.forall_mem_append.mp hsnapshots).1
      rcases run?_concat_eq_some.mp hrun with ⟨before, hbefore, hstep⟩
      have hremembered : before.ShowsRemembered := by
        rw [eq_after_of_run? hbefore]
        exact showsRemembered_after hfront
      rw [mem_expanded_of_step? hremembered hstep, staysExpanded_concat, ih hfront hbefore]

/-- A header that is to be seen is expanded if the user expanded it last and every snapshot since
then has had a larger group of its key.  No other event than these expands or collapses a key, and
what the user does to headers changes no group. -/
theorem isExpanded_iff_staysExpanded (language : Language) (columns : List Column)
    (buttons : List RowButton) (initial : Bool) {events : List Event} {tree : Tree}
    (hsnapshots : ∀ event ∈ events, event.IsOfSnapshot)
    (hrun : (fresh language columns buttons initial).run? language events = some tree) :
    (∀ row, .header row ∈ tree.rows →
      (row.isExpanded = true ↔ StaysExpanded row.key events)) ∧
    (∀ event after, tree.step? language event = some after →
      (∀ groups, event ≠ .snapshot groups) → (∀ key isExpanded, event ≠ .expand key isExpanded) →
        after.expanded = tree.expanded) ∧
    (tree.redraw language).expanded = tree.expanded ∧
    ∀ key isExpanded after, tree.expand? key isExpanded = some after →
      after.groups = tree.groups ∧ after.visibleGroups = tree.visibleGroups ∧
        after.rows.map Row.folded = tree.rows.map Row.folded := by
  refine ⟨?_, fun _ _ => expanded_of_step?, rfl, fun _ _ _ => spares_of_expand?⟩
  intro row hrow
  have hremembered : tree.ShowsRemembered := by
    rw [eq_after_of_run? hrun]
    exact showsRemembered_after hsnapshots
  rw [hremembered row hrow]
  exact mem_expanded_iff_staysExpanded hsnapshots hrun

/-- A header that is hidden by a search and by a failure comes back as it was left. -/
theorem isExpanded_iff_staysExpanded_hidden :
    let web : Group :=
      ⟨Text.of "web", [listed "web-1" "running", listed "web-2" "exited"], 1, 1⟩
    let cache : Group := ⟨[], [listed "cache" "running"], 1, 0⟩
    let events : List Event := [.snapshot [web, cache], .expand (Text.of "web") true,
      .search (Text.of "cache"), .placeholder (Text.of "No connection"), .snapshot [cache, web],
      .search []]
    (∀ event ∈ events, event.IsOfSnapshot) ∧
    ∃ tree row, (fresh .english [⟨Text.of "Name", Container.label⟩] [] false).run? .english events =
        some tree ∧
      tree.header? (Text.of "web") = some row ∧ row.isExpanded = true := by
  intro web cache events
  have hsnapshot : IsSnapshot [web, cache] := by decide
  have hswapped : IsSnapshot [cache, web] := by decide
  have hsnapshots : ∀ event ∈ events, event.IsOfSnapshot := by
    simp only [events, List.forall_mem_cons]
    exact ⟨hsnapshot, trivial, trivial, trivial, hswapped, trivial, fun _ h => nomatch h⟩
  have hstays : StaysExpanded (Text.of "web") events := by
    refine ⟨[.snapshot [web, cache]], _, rfl, ?_⟩
    simp only [List.forall_mem_cons]
    refine ⟨trivial, trivial, ⟨web, List.mem_cons_of_mem _ List.mem_cons_self, ?_⟩, trivial,
      fun _ h => nomatch h⟩
    decide
  have hvisible :
      ((fresh .english [⟨Text.of "Name", Container.label⟩] [] false).run? .english events).any
        (fun tree => (tree.header? (Text.of "web")).isSome) = true := by
    decide +kernel
  rcases (Option.any_eq_true _ _).mp hvisible with ⟨tree, hrun, hheader⟩
  rcases Option.isSome_iff_exists.mp hheader with ⟨row, hrow⟩
  rcases mem_rows_of_header? hrow with ⟨hmem, hkey⟩
  refine ⟨hsnapshots, tree, row, hrun, hrow, ?_⟩
  apply ((isExpanded_iff_staysExpanded .english _ _ _ hsnapshots hrun).1 row hmem).mpr
  rw [hkey]
  exact hstays

end Runs

end Tree

end ContainerDesk
