import ContainerDesk.Proofs.View.Gate
import ContainerDesk.Window.Basic
import Mathlib.Data.List.Induction
import Mathlib.Data.List.Nodup

/-!
# Results of requests

A request delivers at most one result, and results come in any order.  What the window
shows is decided by the newest of them, and the counts in the footer by the last
snapshot that was let through.

The gate only knows two numbers.  `Progress.Follows` ties them to all results so far:
the newest number let through is that of the last accepted result, and it is the
greatest of all delivered.
-/

namespace ContainerDesk

/-!
# The gate
-/

namespace Gate

variable {gate : Gate} {generation : Nat}

theorem accept_stale (hissued : generation ≤ gate.requested) (h : generation ≤ gate.applied) :
    gate.accept generation = .ok (false, gate, [gate.staleEntry generation]) :=
  accept_of_le_applied (Int.ofNat_le.mpr hissued) (Int.ofNat_le.mpr h)

theorem accept_newer (hissued : generation ≤ gate.requested) (h : gate.applied < generation) :
    gate.accept generation = .ok (true, { gate with applied := generation }, []) :=
  accept_of_applied_lt (Int.ofNat_le.mpr hissued) (Int.ofNat_lt.mpr h)

end Gate

/-!
# Texts of failures
-/

theorem Template.insert_ne_nil {c : CodePoint} (hopening : c ≠ opening) (hclosing : c ≠ closing)
    (rest name value : Text) : insert (c :: rest) name value ≠ [] := by
  -- The first code point is no brace, so it stands whatever becomes of the rest.
  unfold insert fill
  simp only [List.length_cons, fillWithin, if_neg hopening, if_neg hclosing]
  cases fillWithin [(name, .text value)] (fillLayout [(name, .text value)]) rest.length rest with
  | error fault => exact List.cons_ne_nil c rest
  | ok shown => exact List.cons_ne_nil c shown

namespace Window

theorem failureText_ne_nil (language : Language) (message : Text) :
    failureText language message ≠ [] := by
  cases language with
  | english => exact Template.insert_ne_nil (by decide) (by decide) _ _ _
  | russian => exact Template.insert_ne_nil (by decide) (by decide) _ _ _

/-!
# Results
-/

structure Delivery where
  generation : Nat
  outcome : Outcome
  clock : Text

/-- What results decide about, the counts apart. -/
structure Screen where
  groups : List Group
  /-- What the tree says where it has no group to show. -/
  emptyText : Text
  engine : Text
  status : Text

def Screen.waiting (language : Language) : Screen :=
  ⟨[], language.say .noContainers, language.say .engineRunning, language.say .loading⟩

def Delivery.screen (language : Language) (delivery : Delivery) : Screen :=
  match delivery.outcome with
  | .groups groups =>
      ⟨groups, language.say .noContainers, language.say .engineRunning,
        updatedText language delivery.clock⟩
  | .failure message =>
      ⟨[], failureText language message, language.say .engineStopped,
        failureText language message⟩

/-- The results let through, after one more: it is let through if it is newer than all before. -/
def letThrough (accepted : List Delivery) (delivery : Delivery) : List Delivery :=
  if ∀ earlier ∈ accepted, earlier.generation < delivery.generation then
    accepted ++ [delivery]
  else
    accepted

/-- The results that were newer than all let through before them, in the order in which they
came. -/
def accepted (delivered : List Delivery) : List Delivery :=
  delivered.foldl letThrough []

def Outcome.snapshot? : Outcome → Option (List Group)
  | .groups found => some found
  | .failure _ => none

def countsText (groups : List Group) : Text :=
  numeral (containerCount groups) ++ Text.of " / " ++ numeral groups.length

def lastCounts (deliveries : List Delivery) : Text :=
  match (deliveries.filterMap (·.outcome.snapshot?)).getLast? with
  | some groups => countsText groups
  | none => []

/-!
# The last of several results
-/

def lastGeneration (deliveries : List Delivery) : Nat :=
  match deliveries.getLast? with
  | some last => last.generation
  | none => 0

def lastScreen (language : Language) (deliveries : List Delivery) : Screen :=
  match deliveries.getLast? with
  | some last => last.screen language
  | none => .waiting language

theorem lastGeneration_concat (deliveries : List Delivery) (delivery : Delivery) :
    lastGeneration (deliveries ++ [delivery]) = delivery.generation := by
  simp [lastGeneration]

theorem exists_lastGeneration {deliveries : List Delivery} (h : lastGeneration deliveries ≠ 0) :
    ∃ last ∈ deliveries, last.generation = lastGeneration deliveries := by
  unfold lastGeneration at h ⊢
  split
  · rename_i last hlast
    exact ⟨last, List.mem_of_getLast? hlast, rfl⟩
  · rename_i hnone
    rw [hnone] at h
    exact absurd rfl h

theorem lastScreen_concat (language : Language) (deliveries : List Delivery)
    (delivery : Delivery) :
    lastScreen language (deliveries ++ [delivery]) = delivery.screen language := by
  simp [lastScreen]

theorem lastCounts_concat (deliveries : List Delivery) (delivery : Delivery) :
    lastCounts (deliveries ++ [delivery]) =
      match delivery.outcome.snapshot? with
      | some groups => countsText groups
      | none => lastCounts deliveries := by
  unfold lastCounts
  rw [List.filterMap_append]
  cases hsnapshot : delivery.outcome.snapshot? with
  | none => simp [hsnapshot]
  | some groups => simp [hsnapshot]

/-!
# Results let through
-/

theorem accepted_concat (delivered : List Delivery) (delivery : Delivery) :
    accepted (delivered ++ [delivery]) = letThrough (accepted delivered) delivery := by
  unfold accepted
  rw [List.foldl_append]
  rfl

theorem letThrough_newer {accepted : List Delivery} {delivery : Delivery}
    (h : ∀ earlier ∈ accepted, earlier.generation < delivery.generation) :
    letThrough accepted delivery = accepted ++ [delivery] :=
  if_pos h

theorem letThrough_stale {accepted : List Delivery} {delivery earlier : Delivery}
    (hmem : earlier ∈ accepted) (h : delivery.generation ≤ earlier.generation) :
    letThrough accepted delivery = accepted :=
  if_neg fun hall => absurd (hall earlier hmem) (Nat.not_lt.mpr h)

theorem mem_of_mem_accepted {delivered : List Delivery} {delivery : Delivery}
    (h : delivery ∈ accepted delivered) : delivery ∈ delivered := by
  induction delivered using List.reverseRecOn with
  | nil => exact h
  | append_singleton front last ih =>
      rw [accepted_concat, letThrough] at h
      split at h
      · rcases List.mem_append.mp h with h | h
        · exact List.mem_append_left _ (ih h)
        · exact List.mem_append_right _ h
      · exact List.mem_append_left _ (ih h)

theorem exists_accepted_le {delivered : List Delivery} {delivery : Delivery}
    (h : delivery ∈ delivered) :
    ∃ newer ∈ accepted delivered, delivery.generation ≤ newer.generation := by
  induction delivered using List.reverseRecOn with
  | nil => exact absurd h List.not_mem_nil
  | append_singleton front last ih =>
      rw [accepted_concat, letThrough]
      split
      · rcases List.mem_append.mp h with h | h
        · rcases ih h with ⟨newer, hnewer, hle⟩
          exact ⟨newer, List.mem_append_left _ hnewer, hle⟩
        · exact ⟨delivery, List.mem_append_right _ h, Nat.le_refl _⟩
      · -- The last one is dropped, so one that was let through is as new.
        rename_i hstale
        rcases List.mem_append.mp h with h | h
        · exact ih h
        · rw [List.mem_singleton.mp h]
          simp only [not_forall, Nat.not_lt, exists_prop] at hstale
          exact hstale

theorem pairwise_accepted (delivered : List Delivery) :
    (accepted delivered).Pairwise fun earlier later => earlier.generation < later.generation := by
  induction delivered using List.reverseRecOn with
  | nil => exact List.Pairwise.nil
  | append_singleton front last ih =>
      rw [accepted_concat, letThrough]
      split
      · rename_i hnewer
        rw [List.pairwise_append]
        refine ⟨ih, List.pairwise_singleton _ _, ?_⟩
        intro earlier hearlier later hlater
        rw [List.mem_singleton.mp hlater]
        exact hnewer earlier hearlier
      · exact ih

/-- The last result let through is the newest of all. -/
theorem newest_of_last {delivered : List Delivery} {last : Delivery}
    (h : (accepted delivered).getLast? = some last) :
    last ∈ delivered ∧ ∀ other ∈ delivered, other.generation ≤ last.generation := by
  rcases List.getLast?_eq_some_iff.mp h with ⟨front, hfront⟩
  have hsorted := pairwise_accepted delivered
  rw [hfront] at hsorted
  refine ⟨mem_of_mem_accepted (List.mem_of_getLast? h), ?_⟩
  intro other hother
  rcases exists_accepted_le hother with ⟨newer, hnewer, hle⟩
  rw [hfront] at hnewer
  rcases List.mem_append.mp hnewer with hnewer | hnewer
  · have hlt := (List.pairwise_append.mp hsorted).2.2 newer hnewer last
      (List.mem_singleton.mpr rfl)
    omega
  · rw [List.mem_singleton.mp hnewer] at hle
    exact hle

theorem exists_last {delivered : List Delivery} {delivery : Delivery} (h : delivery ∈ delivered) :
    ∃ last, (accepted delivered).getLast? = some last := by
  rcases exists_accepted_le h with ⟨newer, hnewer, _⟩
  exact ⟨_, List.getLast?_eq_some_getLast (List.ne_nil_of_mem hnewer)⟩

/-!
# Progress
-/

def screen (window : Window) : Screen :=
  ⟨window.tree.groups, window.tree.emptyText, window.footer.engine, window.status⟩

structure Progress where
  language : Language
  screen : Screen
  counts : Text
  gate : Gate
  /-- The numbers of the requests that have not ended. -/
  pending : List Nat

def progress (window : Window) : Progress :=
  ⟨window.language, window.screen, window.footer.counts, window.gate,
    window.fetches.map (·.generation)⟩

namespace Progress

def unasked (language : Language) : Progress :=
  ⟨language, { Screen.waiting language with status := [] }, [], Gate.fresh, []⟩

def request (progress : Progress) : Progress :=
  { progress with
    screen :=
      if progress.gate.hasApplied then progress.screen
      else { progress.screen with status := progress.language.say .loading }
    gate := progress.gate.next.2
    pending := progress.pending ++ [progress.gate.next.1] }

def forget (progress : Progress) (generation : Nat) : Progress :=
  { progress with pending := progress.pending.filter (· ≠ generation) }

def take (progress : Progress) (delivery : Delivery) : Progress :=
  { progress with
    screen := delivery.screen progress.language
    counts :=
      match delivery.outcome.snapshot? with
      | some groups => countsText groups
      | none => progress.counts
    gate := { progress.gate with applied := delivery.generation } }

/-- Is all as it has to be after several results? -/
structure Follows (progress : Progress) (language : Language) (delivered : List Delivery) :
    Prop where
  speaks : progress.language = language
  screen : progress.screen = lastScreen language (accepted delivered)
  counts : progress.counts = lastCounts (accepted delivered)
  applied : progress.gate.applied = lastGeneration (accepted delivered)
  issued : ∀ generation ∈ progress.pending ++ delivered.map (·.generation),
    0 < generation ∧ generation ≤ progress.gate.requested
  nodup : (progress.pending ++ delivered.map (·.generation)).Nodup

theorem follows_first (language : Language) : (unasked language).request.Follows language [] where
  speaks := rfl
  screen := rfl
  counts := rfl
  applied := rfl
  issued := by simp [unasked, request, Gate.next, Gate.fresh]
  nodup := by simp [unasked, request]

namespace Follows

variable {progress : Progress} {language : Language} {delivered : List Delivery}
  (h : progress.Follows language delivered)

include h

theorem le_applied {delivery : Delivery} (hmem : delivery ∈ delivered) :
    delivery.generation ≤ progress.gate.applied := by
  rcases exists_last hmem with ⟨last, hlast⟩
  have happlied : progress.gate.applied = last.generation := by
    rw [h.applied, lastGeneration, hlast]
  rw [happlied]
  exact (newest_of_last hlast).2 delivery hmem

theorem eq_nil_of_applied (hzero : progress.gate.applied = 0) : delivered = [] := by
  cases delivered with
  | nil => rfl
  | cons first rest =>
      have hle := h.le_applied List.mem_cons_self
      have hissued := h.issued first.generation (List.mem_append_right _ List.mem_cons_self)
      omega

theorem request : progress.request.Follows language delivered where
  speaks := h.speaks
  screen := by
    unfold Progress.request
    dsimp only
    split
    · exact h.screen
    · -- Nothing was let through yet, so nothing was delivered, and the status says so already.
      rename_i happlied
      have hnil := h.eq_nil_of_applied (by simpa [Gate.hasApplied] using happlied)
      rw [h.screen, h.speaks, hnil]
      rfl
  counts := h.counts
  applied := h.applied
  issued := by
    intro generation hgeneration
    change 0 < generation ∧ generation ≤ progress.gate.requested + 1
    rcases List.mem_append.mp hgeneration with hpending | hdelivered
    · rcases List.mem_append.mp hpending with hpending | hnew
      · have hissued := h.issued generation (List.mem_append_left _ hpending)
        omega
      · rw [List.mem_singleton.mp hnew]
        exact ⟨Nat.succ_pos _, Nat.le_refl _⟩
    · have hissued := h.issued generation (List.mem_append_right _ hdelivered)
      omega
  nodup := by
    unfold Progress.request
    rw [List.append_assoc, List.singleton_append, List.perm_middle.nodup_iff, List.nodup_cons]
    refine ⟨?_, h.nodup⟩
    -- The new number is above all that were given out.
    intro hmem
    exact absurd (h.issued _ hmem).2 (Nat.not_le.mpr (Nat.lt_succ_self _))

theorem forget (generation : Nat) : (progress.forget generation).Follows language delivered where
  speaks := h.speaks
  screen := h.screen
  counts := h.counts
  applied := h.applied
  issued := by
    intro issued hissued
    apply h.issued issued
    rcases List.mem_append.mp hissued with hissued | hissued
    · exact List.mem_append_left _ (List.mem_filter.mp hissued).1
    · exact List.mem_append_right _ hissued
  nodup := (List.Sublist.append List.filter_sublist (List.Sublist.refl _)).nodup h.nodup

/-!
# One more result
-/

section Delivering

variable {delivery : Delivery} (hpending : delivery.generation ∈ progress.pending)

include hpending

theorem issued_of_pending :
    0 < delivery.generation ∧ delivery.generation ≤ progress.gate.requested :=
  h.issued _ (List.mem_append_left _ hpending)

theorem perm_forget :
    ((progress.forget delivery.generation).pending ++
      (delivered ++ [delivery]).map (·.generation)).Perm
        (progress.pending ++ delivered.map (·.generation)) := by
  have hunique : progress.pending.Nodup := (List.nodup_append.mp h.nodup).1
  have hforget : (progress.forget delivery.generation).pending =
      progress.pending.erase delivery.generation := by
    -- The number stands there once, so it is enough to take out one.
    rw [Progress.forget, hunique.erase_eq_filter]
    apply List.filter_congr
    intro generation _
    by_cases hsame : generation = delivery.generation <;> simp [hsame]
  rw [hforget, List.map_append, List.map_singleton, ← List.append_assoc]
  have hdelivered := List.perm_append_singleton delivery.generation
    (progress.pending.erase delivery.generation ++ delivered.map (·.generation))
  exact hdelivered.trans ((List.perm_cons_erase hpending).symm.append_right _)

/-- Whether the gate lets a result through is whether it is newer than all let through before. -/
theorem accepted_next :
    accepted (delivered ++ [delivery]) =
      if progress.gate.applied < delivery.generation then accepted delivered ++ [delivery]
      else accepted delivered := by
  have happlied := h.applied
  have hpositive := (h.issued_of_pending hpending).1
  rw [accepted_concat]
  split
  · apply letThrough_newer
    intro earlier hearlier
    have hle := h.le_applied (mem_of_mem_accepted hearlier)
    omega
  · have hne : lastGeneration (accepted delivered) ≠ 0 := by omega
    rcases exists_lastGeneration hne with ⟨last, hmem, hlast⟩
    exact letThrough_stale hmem (by omega)

theorem take (hnewer : progress.gate.applied < delivery.generation) :
    ((progress.take delivery).forget delivery.generation).Follows language
      (delivered ++ [delivery]) := by
  have haccepted := h.accepted_next hpending
  have hperm := h.perm_forget hpending
  rw [if_pos hnewer] at haccepted
  exact {
    speaks := h.speaks
    screen := by
      rw [haccepted, lastScreen_concat, ← h.speaks]
      rfl
    counts := by
      rw [haccepted, lastCounts_concat, ← h.counts]
      rfl
    applied := by
      rw [haccepted, lastGeneration_concat]
      rfl
    issued := fun generation hgeneration => h.issued generation (hperm.mem_iff.mp hgeneration)
    nodup := hperm.nodup_iff.mpr h.nodup
  }

theorem drop (hstale : delivery.generation ≤ progress.gate.applied) :
    (progress.forget delivery.generation).Follows language (delivered ++ [delivery]) := by
  have haccepted := h.accepted_next hpending
  have hperm := h.perm_forget hpending
  rw [if_neg (Nat.not_lt.mpr hstale)] at haccepted
  exact {
    speaks := h.speaks
    screen := haccepted ▸ h.screen
    counts := haccepted ▸ h.counts
    applied := haccepted ▸ h.applied
    issued := fun generation hgeneration => h.issued generation (hperm.mem_iff.mp hgeneration)
    nodup := hperm.nodup_iff.mpr h.nodup
  }

end Delivering

/-!
# What is shown
-/

theorem screen_waiting (hnone : delivered = []) : progress.screen = .waiting language := by
  rw [h.screen, hnone]
  rfl

theorem screen_newest {newest : Delivery} (hmem : newest ∈ delivered)
    (hnewest : ∀ other ∈ delivered, other.generation ≤ newest.generation) :
    progress.screen = newest.screen language := by
  rcases exists_last hmem with ⟨last, hlast⟩
  rcases newest_of_last hlast with ⟨hlastMem, hlastNewest⟩
  have hsame : last = newest := by
    apply List.inj_on_of_nodup_map (List.nodup_append.mp h.nodup).2.1 hlastMem hmem
    exact Nat.le_antisymm (hnewest last hlastMem) (hlastNewest newest hmem)
  rw [h.screen, lastScreen, hlast, ← hsame]

end Follows

end Progress

/-!
# The window
-/

theorem progress_request (window : Window) : window.request.progress = window.progress.request := by
  have hpending : window.request.fetches.map (·.generation) = window.progress.request.pending :=
    List.map_append
  have hscreen : window.request.screen = window.progress.request.screen := by
    change { window.screen with
      status := if window.gate.hasApplied then window.status else window.language.say .loading } =
        if window.gate.hasApplied then window.screen
        else { window.screen with status := window.language.say .loading }
    split
    · rfl
    · rfl
  rw [progress, hpending, hscreen]
  rfl

theorem progress_forget (window : Window) (generation : Nat) :
    (window.forget generation).progress = window.progress.forget generation := by
  unfold progress forget Progress.forget
  rw [List.filter_map]
  rfl

section Delivering

variable {window : Window} {delivery : Delivery}
  (hissued : delivery.generation ≤ window.gate.requested)

include hissued

theorem deliver_stale (hstale : delivery.generation ≤ window.gate.applied) :
    window.deliver delivery.generation delivery.outcome delivery.clock =
      .ok (window, [window.gate.staleEntry delivery.generation]) := by
  unfold Window.deliver
  rw [Gate.accept_stale hissued hstale]

theorem deliver_newer (hnewer : window.gate.applied < delivery.generation) :
    ∃ after notes,
      window.deliver delivery.generation delivery.outcome delivery.clock = .ok (after, notes) ∧
      after.progress = window.progress.take delivery := by
  rcases delivery with ⟨generation, outcome, clock⟩
  unfold deliver
  rw [Gate.accept_newer hissued hnewer]
  cases outcome with
  | groups groups => exact ⟨_, _, rfl, rfl⟩
  | failure message =>
      refine ⟨_, _, rfl, ?_⟩
      have hempty : (failureText window.language message).isEmpty = false :=
        List.isEmpty_eq_false_iff.mpr (failureText_ne_nil window.language message)
      simp [progress, screen, showFailure, Tree.showPlaceholder, Tree.redraw, Footer.setEngine,
        Progress.take, Delivery.screen, Outcome.snapshot?, hempty]

end Delivering

/-- Any result of an open request leaves the window with what it has to show then. -/
theorem follows_deliver {window : Window} {delivery : Delivery} {language : Language}
    {delivered : List Delivery} (h : window.progress.Follows language delivered)
    (hpending : delivery.generation ∈ window.progress.pending) :
    ∃ after notes,
      window.deliver delivery.generation delivery.outcome delivery.clock = .ok (after, notes) ∧
      (after.forget delivery.generation).progress.Follows language (delivered ++ [delivery]) := by
  have hissued := (h.issued_of_pending hpending).2
  rcases Nat.lt_or_ge window.gate.applied delivery.generation with hnewer | hstale
  · rcases deliver_newer hissued hnewer with ⟨after, notes, hdeliver, hafter⟩
    refine ⟨after, notes, hdeliver, ?_⟩
    rw [progress_forget, hafter]
    exact h.take hpending hnewer
  · refine ⟨window, _, deliver_stale hissued hstale, ?_⟩
    rw [progress_forget]
    exact h.drop hpending hstale

end Window

end ContainerDesk
