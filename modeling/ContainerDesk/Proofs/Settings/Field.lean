import ContainerDesk.Proofs.Json.Readable
import ContainerDesk.Settings.Schema

/-!
# What fields accept

The fields of the schema come in five forms, and the values that a field of each form
accepts can be listed.  Every field accepts its default value, an accepted list may
grow by integers, and all that is accepted can be written to a file and read back.
-/

namespace ContainerDesk

theorem firstComplaint_eq_none {value : Value} {checks : List Check} :
    firstComplaint value checks = .ok none ↔
      ∀ check ∈ checks, check.complaint value = .ok none := by
  induction checks with
  | nil => exact ⟨fun _ check hcheck => absurd hcheck List.not_mem_nil, fun _ => rfl⟩
  | cons check rest ih =>
      rw [firstComplaint]
      constructor
      · intro h
        split at h
        · rename_i hfirst
          intro other hother
          rcases List.mem_cons.mp hother with rfl | hother
          · exact hfirst
          · exact ih.mp h other hother
        · rename_i hother
          exact absurd h (fun heq => hother heq)
      · intro h
        rw [h check List.mem_cons_self]
        exact ih.mpr fun other hother => h other (List.mem_cons_of_mem _ hother)

namespace Field

def Accepts (field : Field) (value : Value) : Prop :=
  field.complaint value = .ok none

theorem accepts_single {default value : Value} {check : Check} :
    Accepts ⟨default, [check]⟩ value ↔ check.complaint value = .ok none := by
  unfold Accepts complaint
  rw [firstComplaint_eq_none]
  exact ⟨fun h => h check List.mem_cons_self, fun h other hother => by
    rw [List.mem_singleton.mp hother, h]⟩

end Field

/-!
# Single checks
-/

namespace Check

theorem kindComplaint_eq_none {expected : Kind} {value : Value} :
    kindComplaint expected value = none ↔ value.kind = expected := by
  unfold kindComplaint
  by_cases h : value.kind = expected
  · rw [if_pos h]
    exact ⟨fun _ => h, fun _ => rfl⟩
  · rw [if_neg h]
    exact ⟨fun hsome => (nomatch hsome), fun heq => absurd heq h⟩

theorem itemComplaint_eq_none {expected : Kind} {items : List Value} :
    itemComplaint expected items = none ↔ ∀ item ∈ items, item.kind = expected := by
  induction items with
  | nil => exact ⟨fun _ item hitem => absurd hitem List.not_mem_nil, fun _ => rfl⟩
  | cons item rest ih =>
      rw [itemComplaint, List.forall_mem_cons, ← ih, ← kindComplaint_eq_none]
      cases kindComplaint expected item with
      | none => exact ⟨fun h => ⟨rfl, h⟩, fun h => h.2⟩
      | some complaint => exact ⟨fun h => (nomatch h), fun h => (nomatch h.1)⟩

theorem inRange_eq_none {low high : Int} {value : Value} :
    (inRange low high).complaint value = .ok none ↔
      ∃ n, value = .int n ∧ low ≤ n ∧ n ≤ high := by
  constructor
  · intro h
    unfold complaint at h
    dsimp only at h
    split at h
    · rename_i n
      split at h
      · rename_i hrange
        exact ⟨n, rfl, hrange⟩
      · split at h
        · exact nomatch Except.ok.inj h
        · cases h
    · rename_i hint
      have hkind := kindComplaint_eq_none.mp (Except.ok.inj h)
      cases value <;> cases hkind
      exact absurd rfl (hint _)
  · rintro ⟨n, rfl, hrange⟩
    unfold complaint
    dsimp only
    rw [if_pos hrange]

theorem same_text {value : Value} {t : Text} : value.same (.text t) = true ↔ value = .text t := by
  cases value <;> simp [Value.same, Value.sameAtom]

theorem oneOf_eq_none {allowed : List Text} {value : Value} :
    (oneOf (allowed.map .text)).complaint value = .ok none ↔
      ∃ t ∈ allowed, value = .text t := by
  have hone : value.isOneOf (allowed.map .text) = true ↔ ∃ t ∈ allowed, value = .text t := by
    simp only [Value.isOneOf, List.any_map, List.any_eq_true, Function.comp_apply, same_text]
  rw [← hone]
  unfold complaint
  dsimp only
  constructor
  · intro h
    split at h
    · assumption
    · split at h
      · exact nomatch Except.ok.inj h
      · cases h
  · intro h
    rw [if_pos h]

theorem address_eq_none {value : Value} :
    address.complaint value = .ok none ↔ ∃ t, value = .text t ∧ isAddress t = true := by
  constructor
  · intro h
    unfold complaint at h
    dsimp only at h
    split at h
    · rename_i t
      split at h
      · exact ⟨t, rfl, by assumption⟩
      · exact nomatch Except.ok.inj h
    · rename_i htext
      have hkind := kindComplaint_eq_none.mp (Except.ok.inj h)
      cases value <;> cases hkind
      exact absurd rfl (htext _)
  · rintro ⟨t, rfl, haddress⟩
    unfold complaint
    dsimp only
    rw [if_pos haddress]

theorem listOf_eq_none {kind : Kind} {value : Value} :
    (listOf kind).complaint value = .ok none ↔
      ∃ items, value = .list items ∧ ∀ item ∈ items, item.kind = kind := by
  constructor
  · intro h
    unfold complaint at h
    dsimp only at h
    split at h
    · rename_i items
      exact ⟨items, rfl, itemComplaint_eq_none.mp (Except.ok.inj h)⟩
    · rename_i hlist
      have hkind := kindComplaint_eq_none.mp (Except.ok.inj h)
      cases value <;> cases hkind
      exact absurd rfl (hlist _)
  · rintro ⟨items, rfl, hitems⟩
    unfold complaint
    dsimp only
    rw [itemComplaint_eq_none.mpr hitems]

theorem kind_eq_int {value : Value} : value.kind = .int ↔ ∃ n, value = .int n := by
  cases value <;> simp [Value.kind]

theorem kind_eq_bool {value : Value} : value.kind = .bool ↔ ∃ b, value = .bool b := by
  cases value <;> simp [Value.kind]

end Check

/-!
# The forms of fields
-/

namespace Field

/-- The forms that the fields of the schema have, each with an accepted default value.  Ranges have
bounds of at most five digits. -/
inductive HasForm : Field → Prop where
  | range {default low high : Int} (h : low ≤ default ∧ default ≤ high)
      (hlow : low.natAbs < 10 ^ 5) (hhigh : high.natAbs < 10 ^ 5) :
      HasForm (Schema.rangeField default low high)
  | flag (default : Bool) : HasForm (Schema.flagField default)
  | choice {default : Text} {allowed : List Text} (h : default ∈ allowed) :
      HasForm (Schema.choiceField default allowed)
  | address {default : Text} (h : isAddress default = true) :
      HasForm ⟨.text default, [.address]⟩
  | integers : HasForm ⟨.list [], [.listOf .int]⟩

theorem accepts_range {default low high : Int} {value : Value} :
    (Schema.rangeField default low high).Accepts value ↔
      ∃ n, value = .int n ∧ low ≤ n ∧ n ≤ high :=
  accepts_single.trans Check.inRange_eq_none

theorem accepts_flag {default : Bool} {value : Value} :
    (Schema.flagField default).Accepts value ↔ ∃ b, value = .bool b := by
  rw [← Check.kind_eq_bool, ← Check.kindComplaint_eq_none]
  exact accepts_single.trans ⟨Except.ok.inj, congrArg Except.ok⟩

theorem accepts_choice {default : Text} {allowed : List Text} {value : Value} :
    (Schema.choiceField default allowed).Accepts value ↔ ∃ t ∈ allowed, value = .text t :=
  accepts_single.trans Check.oneOf_eq_none

theorem accepts_address {default value : Value} :
    Accepts ⟨default, [.address]⟩ value ↔ ∃ t, value = .text t ∧ isAddress t = true :=
  accepts_single.trans Check.address_eq_none

theorem accepts_integers {default value : Value} :
    Accepts ⟨default, [.listOf .int]⟩ value ↔
      ∃ items, value = .list items ∧ ∀ item ∈ items, ∃ n, item = .int n := by
  simp only [← Check.kind_eq_int]
  exact accepts_single.trans Check.listOf_eq_none

namespace HasForm

variable {field : Field}

/-- Every default value is accepted. -/
theorem accepts_default (h : field.HasForm) : field.Accepts field.default := by
  cases h with
  | range h => exact accepts_range.mpr ⟨_, rfl, h⟩
  | flag default => exact accepts_flag.mpr ⟨default, rfl⟩
  | choice h => exact accepts_choice.mpr ⟨_, h, rfl⟩
  | address h => exact accepts_address.mpr ⟨_, rfl, h⟩
  | integers =>
      exact accepts_integers.mpr ⟨[], rfl, fun item hitem => absurd hitem List.not_mem_nil⟩

/-- A list that is accepted may grow by an integer. -/
theorem accepts_append (h : field.HasForm) {items : List Value} (n : Int)
    (haccepts : field.Accepts (.list items)) : field.Accepts (.list (items ++ [.int n])) := by
  cases h with
  | range h =>
      rcases accepts_range.mp haccepts with ⟨_, heq, _⟩
      cases heq
  | flag default =>
      rcases accepts_flag.mp haccepts with ⟨_, heq⟩
      cases heq
  | choice h =>
      rcases accepts_choice.mp haccepts with ⟨_, _, heq⟩
      cases heq
  | address h =>
      rcases accepts_address.mp haccepts with ⟨_, heq, _⟩
      cases heq
  | integers =>
      rcases accepts_integers.mp haccepts with ⟨_, heq, hitems⟩
      cases heq
      refine accepts_integers.mpr ⟨_, rfl, ?_⟩
      intro item hitem
      rcases List.mem_append.mp hitem with hitem | hitem
      · exact hitems item hitem
      · exact ⟨n, List.mem_singleton.mp hitem⟩

theorem isReadable (h : field.HasForm) {value : Value} (haccepts : field.Accepts value)
    (depth : Nat) : Json.IsReadable (depth + 1) value := by
  cases h with
  | range h =>
      rcases accepts_range.mp haccepts with ⟨n, rfl, _⟩
      exact .int n
  | flag default =>
      rcases accepts_flag.mp haccepts with ⟨b, rfl⟩
      exact .bool b
  | choice h =>
      rcases accepts_choice.mp haccepts with ⟨t, _, rfl⟩
      exact .text t
  | address h =>
      rcases accepts_address.mp haccepts with ⟨t, rfl, _⟩
      exact .text t
  | integers =>
      rcases accepts_integers.mp haccepts with ⟨items, rfl, hitems⟩
      apply Json.IsReadable.list
      intro item hitem
      rcases hitems item hitem with ⟨n, rfl⟩
      exact .int n

end HasForm

end Field

/-!
# The schema
-/

namespace Schema

theorem hasForm_of_mem {entry : Text × SectionSchema} (hentry : entry ∈ sections)
    {keyed : Text × Field} (hkeyed : keyed ∈ entry.2) : keyed.2.HasForm := by
  simp only [sections, List.mem_cons, List.not_mem_nil, or_false] at hentry
  rcases hentry with rfl | rfl | rfl | rfl | rfl
  all_goals simp only [List.mem_cons, List.not_mem_nil, or_false] at hkeyed
  · rcases hkeyed with rfl | rfl | rfl | rfl | rfl | rfl
    · exact .choice (by decide)
    · exact .range (by decide) (by decide) (by decide)
    · exact .range (by decide) (by decide) (by decide)
    · exact .range (by decide) (by decide) (by decide)
    · exact .range (by decide) (by decide) (by decide)
    · exact .flag false
  · rcases hkeyed with rfl | rfl | rfl | rfl
    · exact .flag true
    · exact .choice (by decide)
    · exact .range (by decide) (by decide) (by decide)
    · exact .range (by decide) (by decide) (by decide)
  · rcases hkeyed with rfl | rfl | rfl
    · exact .address rfl
    · exact .range (by decide) (by decide) (by decide)
    · exact .flag true
  · rcases hkeyed with rfl | rfl | rfl | rfl
    · exact .flag true
    · exact .range (by decide) (by decide) (by decide)
    · exact .flag true
    · exact .range (by decide) (by decide) (by decide)
  · rcases hkeyed with rfl | rfl
    · exact .flag false
    · exact .integers

theorem nodup_names : (sections.map (·.1)).Nodup := by
  decide

theorem versionKey_not_mem : versionKey ∉ sections.map (·.1) := by
  decide

theorem nodup_keys {entry : Text × SectionSchema} (hentry : entry ∈ sections) :
    (entry.2.map (·.1)).Nodup := by
  simp only [sections, List.mem_cons, List.not_mem_nil, or_false] at hentry
  rcases hentry with rfl | rfl | rfl | rfl | rfl
  all_goals decide

end Schema

end ContainerDesk
