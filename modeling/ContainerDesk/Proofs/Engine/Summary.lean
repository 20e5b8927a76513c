import ContainerDesk.Engine.Summary
import ContainerDesk.Proofs.Action
import ContainerDesk.Proofs.Value.Shown

/-!
# Listings that can be read

A listing in the form that the engine documents becomes containers without a fault.
What goes wrong with any other listing is a fault about its values and no failed call.
-/

namespace ContainerDesk

open ContainerDesk.Action

/-- Is the fault a failed engine call as it is, not turned into the one that callers know? -/
def Fault.isFailedCall : Fault → Bool
  | .engineFailed _ => true
  | _ => false

/-- The faults that come up only where something does not hold, none of them a failed call. -/
def Fault.Without (documented : Prop) (fault : Fault) : Prop :=
  fault.isFailedCall = false ∧ ¬ documented

theorem Action.Within.without {α : Type} {values : α → Prop} {documented documented' : Prop}
    {result : Except Fault α} (h : Within values (Fault.Without documented) result)
    (himp : documented' → documented) : Within values (Fault.Without documented') result :=
  h.mono (fun _ hvalue => hvalue) fun _ hfault =>
    ⟨hfault.1, fun hdocumented => hfault.2 (himp hdocumented)⟩

theorem within_without {α : Type} {documented : Prop} {result : Except Fault α}
    (hown : ∀ fault, result = .error fault → fault.isFailedCall = false)
    (hok : documented → ∃ value, result = .ok value) :
    Within (fun _ => True) (Fault.Without documented) result := by
  cases result with
  | ok value => trivial
  | error fault =>
      refine ⟨hown fault rfl, fun hdocumented => ?_⟩
      rcases hok hdocumented with ⟨value, hvalue⟩
      cases hvalue

theorem within_map {α β : Type} {faults : Fault → Prop} {result : Except Fault α} {f : α → β}
    (h : Within (fun _ => True) faults result) : Within (fun _ => True) faults (result.map f) := by
  cases result with
  | ok value => trivial
  | error fault => exact h

theorem within_shown (value : Value) :
    Within (fun _ => True) (Fault.Without value.CanShow) value.shown := by
  unfold Value.shown
  apply within_without
  · intro fault h
    split at h
    · cases h
    · cases h
      rfl
  · rintro ⟨shown, hshown⟩
    cases value with
    | text t => exact ⟨t, rfl⟩
    | _ => exact ⟨shown, by rw [Value.display, hshown]; exact nofun⟩

namespace Summary

/-!
# The form of a listing
-/

inductive IsPort : Value → Prop where
  | table {entries : List (Text × Value)} (shown : ∀ entry ∈ entries, entry.2.CanShow) :
      IsPort (.table entries)

/-- Nothing, or the names of a container. -/
inductive IsNames : Value → Prop where
  | null : IsNames .null
  | list (names : List Text) : IsNames (.list (names.map .text))

inductive IsPorts : Value → Prop where
  | null : IsPorts .null
  | list {ports : List Value} (h : ∀ port ∈ ports, IsPort port) : IsPorts (.list ports)

inductive IsSummary : Value → Prop where
  | table {entries : List (Text × Value)} (shown : ∀ entry ∈ entries, entry.2.CanShow)
      (names : IsNames (entry entries "Names")) (ports : IsPorts (entry entries "Ports")) :
      IsSummary (.table entries)

variable {entries : List (Text × Value)}

theorem canShow_foundD {key : String} {default : Value}
    (hshown : ∀ entry ∈ entries, entry.2.CanShow) (hdefault : default.CanShow) :
    ((found? entries key).getD default).CanShow := by
  cases h : found? entries key with
  | none => exact hdefault
  | some value =>
      rcases List.lookup_eq_some_iff.mp h with ⟨front, back, rfl, _⟩
      exact hshown (_, value) (List.mem_append_right front List.mem_cons_self)

theorem canShow_entry (hshown : ∀ entry ∈ entries, entry.2.CanShow) (key : String) :
    (entry entries key).CanShow :=
  canShow_foundD hshown ⟨_, rfl⟩

theorem canShow_orElse {value : Value} (h : value.CanShow) (t : Text) :
    (value.orElse (.text t)).CanShow := by
  unfold Value.orElse
  split
  · exact h
  · exact ⟨_, rfl⟩

/-!
# Names
-/

theorem isFailedCall_firstName {names : Value} {fault : Fault}
    (h : firstName names = .error fault) : fault.isFailedCall = false := by
  unfold firstName nameIn at h
  split at h
  · split at h
    -- the first two ways to a fault go through the first name, the others are faults at once
    · split at h <;> cases h <;> rfl
    · split at h <;> cases h <;> rfl
    all_goals
      cases h
      try rfl
  · cases h

theorem within_firstName (names : Value) :
    Within (fun _ => True) (Fault.Without (IsNames names)) (firstName names) := by
  apply within_without
  · exact fun fault => isFailedCall_firstName
  · intro h
    cases h with
    | null => exact ⟨[], rfl⟩
    | list names =>
        cases names with
        | nil => exact ⟨[], rfl⟩
        | cons first rest => exact ⟨withoutSlashes first, rfl⟩

/-!
# Ports
-/

theorem within_portText (port : Value) :
    Within (fun _ => True) (Fault.Without (IsPort port)) (portText port) := by
  cases port with
  | table entries =>
      have hentry : ∀ {value : Value},
          ((∀ entry ∈ entries, entry.2.CanShow) → value.CanShow) →
          Within (fun _ => True) (Fault.Without (IsPort (.table entries))) value.shown := by
        intro value hvalue
        apply (within_shown value).without
        rintro ⟨hshown⟩
        exact hvalue hshown
      apply within_bind (hentry fun hshown => canShow_entry hshown _)
      intro number _
      apply within_bind (hentry fun hshown => canShow_foundD hshown ⟨_, rfl⟩)
      intro kind _
      dsimp only
      split
      · apply within_bind (hentry fun hshown => canShow_orElse (canShow_entry hshown _) _)
        intro address _
        apply within_bind (hentry fun hshown => canShow_entry hshown _)
        intro outer _
        trivial
      · trivial
  | _ => exact ⟨rfl, nofun⟩

theorem within_portTexts (ports : List Value) :
    Within (fun _ => True) (Fault.Without (∀ port ∈ ports, IsPort port)) (portTexts ports) := by
  induction ports with
  | nil => trivial
  | cons port rest ih =>
      rw [List.forall_mem_cons]
      apply within_bind ((within_portText port).without And.left)
      intro first _
      apply within_bind (ih.without And.right)
      intro others _
      trivial

theorem IsPorts.isPort {ports : Value} (h : IsPorts ports) {items : List Value}
    (hitems : elements? (ports.orElse (.list [])) = some items) :
    ∀ port ∈ items, IsPort port := by
  cases h with
  | null =>
      cases hitems
      exact fun port hport => absurd hport List.not_mem_nil
  | @list ports hports =>
      have hlist : (Value.list ports).orElse (.list []) = .list ports := by
        cases ports <;> rfl
      rw [hlist] at hitems
      cases hitems
      exact hports

theorem IsPorts.elements {ports : Value} (h : IsPorts ports) :
    ∃ items, elements? (ports.orElse (.list [])) = some items := by
  cases h with
  | null => exact ⟨[], rfl⟩
  | @list ports _ =>
      cases ports with
      | nil => exact ⟨[], rfl⟩
      | cons port rest => exact ⟨port :: rest, rfl⟩

theorem within_formatPorts (ports : Value) :
    Within (fun _ => True) (Fault.Without (IsPorts ports))
      (formatPorts (ports.orElse (.list []))) := by
  unfold formatPorts
  split
  · rename_i hnone
    refine ⟨rfl, fun h => ?_⟩
    rcases h.elements with ⟨items, hitems⟩
    cases hnone.symm.trans hitems
  · rename_i items hitems
    exact within_map ((within_portTexts items).without fun h => h.isPort hitems)

/-!
# Containers
-/

theorem within_toContainer (summary : Value) :
    Within (fun _ => True) (Fault.Without (IsSummary summary)) (toContainer summary) := by
  cases summary with
  | table entries =>
      have hentry : ∀ {value : Value},
          ((∀ entry ∈ entries, entry.2.CanShow) → value.CanShow) →
          Within (fun _ => True) (Fault.Without (IsSummary (.table entries))) value.shown := by
        intro value hvalue
        apply (within_shown value).without
        rintro ⟨hshown⟩
        exact hvalue hshown
      have htext : ∀ key,
          Within (fun _ => True) (Fault.Without (IsSummary (.table entries)))
            (textOf entries key) :=
        fun key => hentry fun hshown => canShow_orElse (canShow_entry hshown key) []
      apply within_bind ((within_firstName _).without fun h => by cases h; assumption)
      intro name _
      apply within_bind (hentry fun hshown => canShow_foundD hshown ⟨_, rfl⟩)
      intro id _
      apply within_bind (htext _)
      intro state _
      apply within_bind (htext _)
      intro image _
      apply within_bind (htext _)
      intro status _
      apply within_bind ((within_formatPorts _).without fun h => by cases h; assumption)
      intro ports _
      trivial
  | _ => exact ⟨rfl, nofun⟩

theorem within_toContainers (summaries : List Value) :
    Within (fun _ => True) (Fault.Without (∀ summary ∈ summaries, IsSummary summary))
      (toContainers summaries) := by
  induction summaries with
  | nil => trivial
  | cons summary rest ih =>
      rw [List.forall_mem_cons]
      apply within_bind ((within_toContainer summary).without And.left)
      intro first _
      apply within_bind (ih.without And.right)
      intro others _
      trivial

end Summary

end ContainerDesk
