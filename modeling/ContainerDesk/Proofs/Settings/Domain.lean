import ContainerDesk.Proofs.Settings.Store
import Mathlib.Data.List.Forall2

/-!
# The domains of settings

What a field may hold, told by the form of the field and not by its checks, and what an
address looks like.  The checks of a field accept exactly the values of its domain, so
a sound store has in each section the keys of the schema in order, each with a value of
its field's domain.
-/

namespace ContainerDesk

/-!
# Addresses
-/

def IsSolid (t : Text) : Prop :=
  t ≠ [] ∧ ∀ c ∈ t, c.isBlank = false

/-- The texts that the address pattern matches as a whole. -/
inductive HasAddressForm : Text → Prop where
  | nothing : HasAddressForm []
  | path {rest : Text} (h : IsSolid rest) : HasAddressForm (Text.of "/" ++ rest)
  | scheme {scheme rest : Text} (hscheme : scheme ∈ addressSchemes) (h : IsSolid rest) :
      HasAddressForm (scheme ++ Text.of "://" ++ rest)

theorem isSolid_eq_true {t : Text} : isSolid t = true ↔ IsSolid t := by
  simp [isSolid, IsSolid]

theorem solid_behind_iff {front t : Text} :
    (front.isPrefixOf t && isSolid (t.drop front.length)) = true ↔
      ∃ rest, t = front ++ rest ∧ IsSolid rest := by
  rw [Bool.and_eq_true, List.isPrefixOf_iff_prefix, isSolid_eq_true]
  constructor
  · rintro ⟨⟨rest, rfl⟩, h⟩
    rw [List.drop_left] at h
    exact ⟨rest, rfl, h⟩
  · rintro ⟨rest, rfl, h⟩
    rw [List.drop_left]
    exact ⟨⟨rest, rfl⟩, h⟩

theorem isAddress_eq_true {t : Text} : isAddress t = true ↔ HasAddressForm t := by
  have hpath : ((Text.of "/").isPrefixOf t && isSolid (t.drop 1)) = true ↔
      ∃ rest, t = Text.of "/" ++ rest ∧ IsSolid rest := solid_behind_iff
  unfold isAddress
  rw [Bool.or_eq_true, Bool.or_eq_true, hpath, List.isEmpty_iff, List.any_eq_true]
  constructor
  · rintro ((rfl | ⟨rest, rfl, h⟩) | ⟨scheme, hscheme, h⟩)
    · exact .nothing
    · exact .path h
    · rcases solid_behind_iff.mp h with ⟨rest, rfl, hrest⟩
      exact .scheme hscheme hrest
  · intro h
    cases h with
    | nothing => exact .inl (.inl rfl)
    | path h => exact .inl (.inr ⟨_, rfl, h⟩)
    | scheme hscheme h => exact .inr ⟨_, hscheme, solid_behind_iff.mpr ⟨_, rfl, h⟩⟩

/-!
# Fields
-/

namespace Field

inductive Admits : Field → Value → Prop where
  | range {default low high n : Int} (h : low ≤ n ∧ n ≤ high) :
      Admits (Schema.rangeField default low high) (.int n)
  | flag (default b : Bool) : Admits (Schema.flagField default) (.bool b)
  | choice {default t : Text} {allowed : List Text} (h : t ∈ allowed) :
      Admits (Schema.choiceField default allowed) (.text t)
  | address {default : Value} {t : Text} (h : HasAddressForm t) :
      Admits ⟨default, [.address]⟩ (.text t)
  | integers (default : Value) (numbers : List Int) :
      Admits ⟨default, [.listOf .int]⟩ (.list (numbers.map .int))

theorem exists_map_int {items : List Value} (h : ∀ item ∈ items, ∃ n, item = .int n) :
    ∃ numbers : List Int, items = numbers.map .int := by
  induction items with
  | nil => exact ⟨[], rfl⟩
  | cons item rest ih =>
      rcases h item List.mem_cons_self with ⟨n, rfl⟩
      rcases ih fun other hother => h other (List.mem_cons_of_mem _ hother) with ⟨numbers, rfl⟩
      exact ⟨n :: numbers, rfl⟩

theorem Admits.accepts {field : Field} {value : Value} (h : field.Admits value) :
    field.Accepts value := by
  cases h with
  | range h => exact accepts_range.mpr ⟨_, rfl, h⟩
  | flag default b => exact accepts_flag.mpr ⟨b, rfl⟩
  | choice h => exact accepts_choice.mpr ⟨_, h, rfl⟩
  | address h => exact accepts_address.mpr ⟨_, rfl, isAddress_eq_true.mpr h⟩
  | integers default numbers =>
      apply accepts_integers.mpr
      refine ⟨_, rfl, ?_⟩
      intro item hitem
      rcases List.mem_map.mp hitem with ⟨n, _, rfl⟩
      exact ⟨n, rfl⟩

/-- The checks of the schema's fields accept exactly what the fields may hold. -/
theorem HasForm.accepts_iff {field : Field} (hform : field.HasForm) {value : Value} :
    field.Accepts value ↔ field.Admits value := by
  constructor
  · intro h
    cases hform with
    | range =>
        rcases accepts_range.mp h with ⟨n, rfl, hrange⟩
        exact .range hrange
    | flag default =>
        rcases accepts_flag.mp h with ⟨b, rfl⟩
        exact .flag default b
    | choice =>
        rcases accepts_choice.mp h with ⟨t, ht, rfl⟩
        exact .choice ht
    | address =>
        rcases accepts_address.mp h with ⟨t, rfl, ht⟩
        exact .address (isAddress_eq_true.mp ht)
    | integers =>
        rcases accepts_integers.mp h with ⟨items, rfl, hitems⟩
        rcases exists_map_int hitems with ⟨numbers, rfl⟩
        exact .integers _ numbers
  · exact Admits.accepts

end Field

/-!
# Sections and editions
-/

/-- Has a section the name and, in order, the keys of an entry of the schema, each key with a value
that its field may hold? -/
structure Section.Fits (part : Section) (entry : Text × SectionSchema) : Prop where
  name : part.name = entry.1
  entries : List.Forall₂ (fun (held : Text × Value) (keyed : Text × Field) =>
    held.1 = keyed.1 ∧ keyed.2.Admits held.2) part.entries entry.2

theorem Section.IsSound.fits {part : Section} (h : part.IsSound) :
    part.Fits (part.name, part.schema) where
  name := rfl
  entries := by
    unfold Section.entries Section.schema
    rw [List.forall₂_map_left_iff, List.forall₂_map_right_iff, List.forall₂_same]
    intro setting hsetting
    exact ⟨rfl, (h.hasForm hsetting).accepts_iff.mp (h.accepts setting hsetting)⟩

theorem Edition.IsSound.fits {edition : Edition} (h : edition.IsSound) :
    List.Forall₂ Section.Fits edition Schema.sections := by
  rw [← h.schema, List.forall₂_map_right_iff, List.forall₂_same]
  intro part hpart
  exact (h.part hpart).fits

end ContainerDesk
