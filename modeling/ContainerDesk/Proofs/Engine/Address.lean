import ContainerDesk.Engine.Access
import ContainerDesk.Proofs.Settings.Domain
import ContainerDesk.Proofs.Text.Basic
import ContainerDesk.Proofs.Text.Casing

/-!
# Addresses in their normal form

The settings take three kinds of addresses: none at all, a path, and a scheme with something
behind it.  The engine is reached at the normal form of the address, in which a path is one
of a local socket; all else that the settings take is in its normal form already.

Any text has a normal form, taken by the settings or not: blanks around it go, and a path
becomes a socket.  A scheme stays as it is, in capital letters too, which the settings would
not take.
-/

namespace ContainerDesk

/-!
# Normal forms
-/

theorem namesTransport_path (rest : Text) : namesTransport (Text.of "/" ++ rest) = false := by
  have hstroke : (CodePoint.ofChar '/').lower = Text.of "/" := by decide +kernel
  have hlower : (Text.of "/" ++ rest).lower =
      Text.of "/" ++ Text.lowerAfter (Text.of "/") rest := by
    show Text.lowerAfter [] (CodePoint.ofChar '/' :: rest) = _
    rw [Text.lowerAfter, if_neg (by decide), hstroke]
    rfl
  unfold namesTransport
  rw [hlower]
  rfl

section NormalForms

variable {t : Text}

theorem normalizeAddress_of_path {rest : Text} (h : t.trim = Text.of "/" ++ rest) :
    normalizeAddress t = Text.of "unix://" ++ t.trim := by
  unfold normalizeAddress
  dsimp only
  rw [h, namesTransport_path, if_neg Bool.false_ne_true,
    if_pos (List.isPrefixOf_iff_prefix.mpr (List.prefix_append _ _))]

theorem normalizeAddress_of_not_path (h : ¬ Text.of "/" <+: t.trim) :
    normalizeAddress t = t.trim := by
  unfold normalizeAddress
  dsimp only
  rw [← List.isPrefixOf_iff_prefix] at h
  rw [if_neg h, ite_self]

/-- A normal form is its own normal form: a path has its transport then, and blanks are gone. -/
theorem normalizeAddress_normalizeAddress (raw : Text) :
    normalizeAddress (normalizeAddress raw) = normalizeAddress raw := by
  by_cases hpath : Text.of "/" <+: raw.trim
  · rcases hpath with ⟨rest, hrest⟩
    rw [normalizeAddress_of_path hrest.symm]
    have htrim : (Text.of "unix://" ++ raw.trim).trim = Text.of "unix://" ++ raw.trim := by
      apply Text.trim_eq_self.mpr
      constructor
      · intro c hc
        cases hc
        rfl
      · intro c hc
        rw [List.getLast?_append_of_ne_nil _ (by rw [← hrest]; exact List.cons_ne_nil _ _)] at hc
        exact (Text.trim_eq_self.mp (Text.trim_trim raw)).2 c hc
    have hmark : ¬ Text.of "/" <+: (Text.of "unix://" ++ raw.trim).trim := by
      rw [htrim]
      intro hprefix
      exact absurd (List.cons_prefix_cons.mp hprefix).1 (by decide)
    rw [normalizeAddress_of_not_path hmark, htrim]
  · rw [normalizeAddress_of_not_path hpath]
    have hagain : ¬ Text.of "/" <+: raw.trim.trim := by rwa [Text.trim_trim]
    rw [normalizeAddress_of_not_path hagain, Text.trim_trim]

end NormalForms

/-!
# Addresses that the settings take
-/

theorem hasAddressForm_iff {t : Text} :
    HasAddressForm t ↔
      t = [] ∨ (∃ rest, IsSolid rest ∧ t = Text.of "/" ++ rest) ∨
        ∃ scheme ∈ addressSchemes, ∃ rest, IsSolid rest ∧ t = scheme ++ Text.of "://" ++ rest := by
  constructor
  · intro h
    cases h with
    | nothing => exact .inl rfl
    | path hrest => exact .inr (.inl ⟨_, hrest, rfl⟩)
    | scheme hscheme hrest => exact .inr (.inr ⟨_, hscheme, _, hrest, rfl⟩)
  · rintro (rfl | ⟨rest, hrest, rfl⟩ | ⟨scheme, hscheme, rest, hrest, rfl⟩)
    · exact .nothing
    · exact .path hrest
    · exact .scheme hscheme hrest

namespace HasAddressForm

variable {t : Text} (h : HasAddressForm t)

include h

theorem isBlank_eq_false : ∀ c ∈ t, c.isBlank = false := by
  have hschemes : (addressSchemes.all fun scheme =>
      (scheme ++ Text.of "://").all fun c => !c.isBlank) = true := rfl
  cases h with
  | nothing => exact fun c hc => absurd hc List.not_mem_nil
  | path hrest => exact List.forall_mem_cons.mpr ⟨rfl, hrest.2⟩
  | scheme hscheme hrest =>
      have hfront := List.all_eq_true.mp (List.all_eq_true.mp hschemes _ hscheme)
      refine List.forall_mem_append.mpr ⟨fun c hc => ?_, hrest.2⟩
      rw [← Bool.not_eq_true', hfront c hc]

theorem trim_eq_self : t.trim = t :=
  Text.trim_of_forall h.isBlank_eq_false

theorem normalizeAddress_eq :
    normalizeAddress t = if Text.of "/" <+: t then Text.of "unix://" ++ t else t := by
  split
  · rename_i hpath
    rcases hpath with ⟨rest, rfl⟩
    rw [normalizeAddress_of_path (h.trim_eq_self), h.trim_eq_self]
  · rename_i hpath
    rw [← h.trim_eq_self] at hpath
    rw [normalizeAddress_of_not_path hpath, h.trim_eq_self]

theorem normalizeAddress : HasAddressForm (normalizeAddress t) := by
  rw [h.normalizeAddress_eq]
  split
  · rename_i hpath
    have hsolid : IsSolid t := by
      refine ⟨?_, h.isBlank_eq_false⟩
      rcases hpath with ⟨rest, rfl⟩
      exact List.cons_ne_nil _ _
    show HasAddressForm (Text.of "unix" ++ Text.of "://" ++ t)
    exact .scheme List.mem_cons_self hsolid
  · exact h

end HasAddressForm

theorem Access.address_of_text {settings : SettingsSource} {t : Text}
    (h : settings engineSection (Text.of "socket") = .ok (.text t)) :
    address settings = .ok (normalizeAddress t) := by
  unfold address
  rw [h]
  cases t with
  | nil => rfl
  | cons c rest => rfl

/-- The settings take as an address nothing, a path, or one of six schemes with something behind it,
without a blank anywhere, and no other value.  The engine is reached at the address as it was taken,
or for a path at the socket there; the settings would take that one too.  Whatever a text is, its
normal form is its own normal form. -/
theorem address_of_accepted :
    ∃ field, Schema.field? Access.engineSection (Text.of "socket") = some field ∧
      (∀ value, field.Accepts value ↔ ∃ t, value = .text t ∧
        (t = [] ∨ (∃ rest, IsSolid rest ∧ t = Text.of "/" ++ rest) ∨
          ∃ scheme ∈ ["unix", "tcp", "npipe", "http", "https", "ssh"].map Text.of,
            ∃ rest, IsSolid rest ∧ t = scheme ++ Text.of "://" ++ rest)) ∧
      (∀ (settings : SettingsSource) (value : Value),
        settings Access.engineSection (Text.of "socket") = .ok value → field.Accepts value →
          ∃ t address, value = .text t ∧ Access.address settings = .ok address ∧
            (address = [] ↔ t = []) ∧
            address = (if Text.of "/" <+: t then Text.of "unix://" ++ t else t) ∧
            field.Accepts (.text address)) ∧
      ∀ raw, normalizeAddress (normalizeAddress raw) = normalizeAddress raw := by
  have haccepts : ∀ value, Field.Accepts ⟨.text [], [.address]⟩ value ↔
      ∃ t, value = .text t ∧ HasAddressForm t := by
    intro value
    rw [Field.accepts_address]
    simp only [isAddress_eq_true]
  refine ⟨⟨.text [], [.address]⟩, rfl, ?_, ?_, normalizeAddress_normalizeAddress⟩
  · intro value
    rw [haccepts]
    simp only [hasAddressForm_iff]
    rfl
  · intro settings value hvalue haccepted
    rcases (haccepts value).mp haccepted with ⟨t, rfl, hform⟩
    refine ⟨t, normalizeAddress t, rfl, ?_, ?_, hform.normalizeAddress_eq,
      (haccepts _).mpr ⟨_, rfl, hform.normalizeAddress⟩⟩
    · exact Access.address_of_text hvalue
    · rw [hform.normalizeAddress_eq]
      split
      · rename_i hpath
        rcases hpath with ⟨rest, rfl⟩
        exact iff_of_false (List.cons_ne_nil _ _) (List.cons_ne_nil _ _)
      · rfl

end ContainerDesk
