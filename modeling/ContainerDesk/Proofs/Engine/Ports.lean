import ContainerDesk.Proofs.Engine.Summary

/-!
# How ports are shown

The ports of a container are shown in the order in which the engine first gives them, and
what reads the same is shown once.  A published port reads with the address that it is
bound to, so two bindings of it are one entry exactly if their addresses read the same.
The engine binds a port to all addresses of both kinds, and these two bindings do not: they
are shown as two entries.
-/

namespace ContainerDesk

theorem pairwise_idxOf_distinct {α : Type} [DecidableEq α] [BEq α] [LawfulBEq α] (xs : List α) :
    (distinct xs).Pairwise fun x y => xs.idxOf x < xs.idxOf y := by
  induction xs with
  | nil => exact List.Pairwise.nil
  | cons x rest ih =>
      have hlater : ∀ y ∈ (distinct rest).filter (· ≠ x),
          (x :: rest).idxOf y = rest.idxOf y + 1 := by
        intro y hy
        have hne : y ≠ x := by simpa using (List.mem_filter.mp hy).2
        rw [List.idxOf_cons, beq_false_of_ne (Ne.symm hne), cond_false]
      rw [distinct, List.pairwise_cons]
      constructor
      · intro y hy
        rw [hlater y hy, List.idxOf_cons_self]
        exact Nat.zero_lt_succ _
      · apply (ih.filter _).imp_of_mem
        intro y z hy hz hlt
        rw [hlater y hy, hlater z hz]
        exact Nat.succ_lt_succ hlt

/-- How a value reads; one that cannot be shown has nothing to read. -/
def Value.wording (value : Value) : Text :=
  value.display.getD []

theorem Value.shown_of_canShow {value : Value} (h : value.CanShow) :
    value.shown = .ok value.wording := by
  have hshown := within_shown value
  unfold shown wording at *
  cases hdisplay : value.display with
  | some t => rfl
  | none =>
      rw [hdisplay] at hshown
      exact absurd h hshown.2

namespace Summary

/-!
# Entries of the engine
-/

variable {entries a b : List (Text × Value)}

def portKind (entries : List (Text × Value)) : Value :=
  (found? entries "Type").getD (.text (Text.of "tcp"))

/-- The address of the host that a port is bound to; where there is none, all of IPv4. -/
def boundTo (entries : List (Text × Value)) : Value :=
  (entry entries "IP").orElse (.text everywhere)

def isPublished (entries : List (Text × Value)) : Bool :=
  (entry entries "PublicPort").isTruthy

/-- Are two entries about one port of the container, with one port of the host if any? -/
structure SamePort (a b : List (Text × Value)) : Prop where
  inner : entry a "PrivatePort" = entry b "PrivatePort"
  kind : portKind a = portKind b
  outer : entry a "PublicPort" = entry b "PublicPort"

theorem SamePort.isPublished (h : SamePort a b) : isPublished a = isPublished b := by
  unfold Summary.isPublished
  rw [h.outer]

/-- Is a port bound to all of IPv4, with that address, an empty one or none? -/
def BindsIPv4 (entries : List (Text × Value)) : Prop :=
  (entry entries "IP").isTruthy = false ∨ entry entries "IP" = .text everywhere

def BindsIPv6 (entries : List (Text × Value)) : Prop :=
  entry entries "IP" = .text (Text.of "::")

theorem BindsIPv4.boundTo (h : BindsIPv4 entries) : boundTo entries = .text everywhere := by
  unfold Summary.boundTo Value.orElse
  rcases h with hnone | hall
  · rw [hnone]
    rfl
  · rw [hall]
    rfl

theorem BindsIPv6.boundTo (h : BindsIPv6 entries) : boundTo entries = .text (Text.of "::") := by
  unfold Summary.boundTo
  rw [h]
  rfl

/-!
# How entries read
-/

def innerWording (entries : List (Text × Value)) : Text :=
  (entry entries "PrivatePort").wording ++ Text.of "/" ++ (portKind entries).wording

/-- How an entry reads: address and port of the host stand in front where it is published. -/
def portWording (entries : List (Text × Value)) : Text :=
  if isPublished entries then
    (boundTo entries).wording ++ Text.of ":" ++ (entry entries "PublicPort").wording ++
      Text.of "->" ++ innerWording entries
  else
    innerWording entries

theorem portText_table (hshown : ∀ entry ∈ entries, entry.2.CanShow) :
    portText (.table entries) = .ok (portWording entries) := by
  have hinner := Value.shown_of_canShow (canShow_entry hshown "PrivatePort")
  have hkind : (portKind entries).shown = .ok (portKind entries).wording :=
    Value.shown_of_canShow (canShow_foundD hshown ⟨_, rfl⟩)
  have haddress : (boundTo entries).shown = .ok (boundTo entries).wording :=
    Value.shown_of_canShow (canShow_orElse (canShow_entry hshown "IP") _)
  have houter := Value.shown_of_canShow (canShow_entry hshown "PublicPort")
  unfold portKind at hkind
  unfold boundTo at haddress
  unfold portText portWording innerWording portKind boundTo isPublished
  dsimp only
  simp only [hinner, hkind, haddress, houter, bind, Except.bind]
  split
  · rfl
  · rfl

theorem portTexts_tables {tables : List (List (Text × Value))}
    (h : ∀ entries ∈ tables, ∀ entry ∈ entries, entry.2.CanShow) :
    portTexts (tables.map .table) = .ok (tables.map portWording) := by
  induction tables with
  | nil => rfl
  | cons entries rest ih =>
      rw [List.forall_mem_cons] at h
      rw [List.map_cons, portTexts, portText_table h.1, ih h.2]
      rfl

theorem formatPorts_tables {tables : List (List (Text × Value))}
    (h : ∀ entries ∈ tables, ∀ entry ∈ entries, entry.2.CanShow) :
    formatPorts (.list (tables.map .table)) =
      .ok (Text.joinWith (Text.of ", ") (distinct (tables.map portWording))) := by
  unfold formatPorts elements?
  dsimp only
  rw [portTexts_tables h]
  rfl

theorem portWording_eq_iff (h : SamePort a b) (hpublished : isPublished a = true) :
    portWording a = portWording b ↔ (boundTo a).wording = (boundTo b).wording := by
  have hother : isPublished b = true := h.isPublished ▸ hpublished
  have hinner : innerWording a = innerWording b := by
    unfold innerWording
    rw [h.inner, h.kind]
  unfold portWording
  rw [if_pos hpublished, if_pos hother, h.outer, hinner]
  simp only [List.append_assoc, List.append_left_inj]

theorem portWording_eq_of_not_isPublished (h : SamePort a b) (hpublished : isPublished a = false) :
    portWording a = portWording b := by
  have hother : isPublished b = false := h.isPublished ▸ hpublished
  unfold portWording innerWording
  rw [hpublished, hother, h.inner, h.kind]
  rfl

/-!
# The list of ports
-/

/-- Does a list show each of some texts once, in the order in which they first come? -/
structure ShowsOnce (texts shown : List Text) : Prop where
  mem : ∀ t, t ∈ shown ↔ t ∈ texts
  once : shown.Nodup
  ordered : shown.Pairwise fun s t => texts.idxOf s < texts.idxOf t

theorem showsOnce_distinct (texts : List Text) : ShowsOnce texts (distinct texts) where
  mem := fun _ => mem_distinct
  once := nodup_distinct texts
  ordered := pairwise_idxOf_distinct texts

/-- All that reads the same is one entry, and entries keep the order in which they first come.
Two bindings of a published port are one entry exactly if their addresses read the same, so those to
all of IPv4 and to all of IPv6 are two; one that is not published is one entry. -/
theorem formatPorts_shows {tables : List (List (Text × Value))}
    (h : ∀ entries ∈ tables, ∀ entry ∈ entries, entry.2.CanShow) :
    ∃ shown, formatPorts (.list (tables.map .table)) =
        .ok (Text.joinWith (Text.of ", ") shown) ∧
      ShowsOnce (tables.map portWording) shown ∧
      ∀ a ∈ tables, ∀ b ∈ tables, SamePort a b →
        (isPublished a = true →
          (portWording a = portWording b ↔ (boundTo a).wording = (boundTo b).wording)) ∧
        (isPublished a = true → BindsIPv4 a → BindsIPv6 b → portWording a ≠ portWording b) ∧
        (isPublished a = false → portWording a = portWording b) := by
  refine ⟨distinct (tables.map portWording), formatPorts_tables h, showsOnce_distinct _, ?_⟩
  intro a _ b _ hsame
  refine ⟨portWording_eq_iff hsame, ?_, portWording_eq_of_not_isPublished hsame⟩
  intro hpublished hfour hsix
  rw [Ne, portWording_eq_iff hsame hpublished, hfour.boundTo, hsix.boundTo]
  decide

def published (address : String) : List (Text × Value) :=
  [(Text.of "IP", .text (Text.of address)), (Text.of "PrivatePort", .int 80),
    (Text.of "PublicPort", .int 8080), (Text.of "Type", .text (Text.of "tcp"))]

theorem canShow_published (address : String) :
    ∀ entry ∈ published address, entry.2.CanShow := by
  simp only [published, List.forall_mem_cons]
  exact ⟨⟨_, rfl⟩, Value.canShow_int (by decide +kernel), Value.canShow_int (by decide +kernel),
    ⟨_, rfl⟩, List.forall_mem_nil _⟩

theorem canShow_publishedTwice (first second : String) :
    ∀ entries ∈ [published first, published second], ∀ entry ∈ entries, entry.2.CanShow :=
  List.forall_mem_cons.mpr ⟨canShow_published first,
    List.forall_mem_singleton.mpr (canShow_published second)⟩

/-- A binding to all of IPv4 and one without an address are one entry. -/
theorem formatPorts_shows_addressless :
    (∀ entries ∈ [published "0.0.0.0", published ""], ∀ entry ∈ entries, entry.2.CanShow) ∧
    SamePort (published "0.0.0.0") (published "") ∧ isPublished (published "0.0.0.0") = true ∧
    ∃ shown, formatPorts (.list [.table (published "0.0.0.0"), .table (published "")]) =
        .ok (Text.joinWith (Text.of ", ") shown) ∧
      ShowsOnce [portWording (published "0.0.0.0"), portWording (published "")] shown ∧
      portWording (published "0.0.0.0") = portWording (published "") := by
  have hshown := canShow_publishedTwice "0.0.0.0" ""
  have hsame : SamePort (published "0.0.0.0") (published "") := ⟨rfl, rfl, rfl⟩
  rcases formatPorts_shows hshown with ⟨shown, hformat, honce, hmerged⟩
  have hone := (hmerged _ List.mem_cons_self _ (List.mem_cons_of_mem _ List.mem_cons_self) hsame).1
  exact ⟨hshown, hsame, rfl, shown, hformat, honce, (hone rfl).mpr rfl⟩

/-- The bindings of one port to all of IPv4 and to all of IPv6 are shown as two entries. -/
theorem formatPorts_bothKinds :
    SamePort (published "0.0.0.0") (published "::") ∧ isPublished (published "0.0.0.0") = true ∧
    BindsIPv4 (published "0.0.0.0") ∧ BindsIPv6 (published "::") ∧
    formatPorts (.list [.table (published "0.0.0.0"), .table (published "::")]) =
      .ok (Text.of "0.0.0.0:8080->80/tcp, :::8080->80/tcp") := by
  have hwording : Text.joinWith (Text.of ", ")
      (distinct [portWording (published "0.0.0.0"), portWording (published "::")]) =
        Text.of "0.0.0.0:8080->80/tcp, :::8080->80/tcp" := by decide +kernel
  exact ⟨⟨rfl, rfl, rfl⟩, rfl, .inr rfl, rfl,
    (formatPorts_tables (canShow_publishedTwice "0.0.0.0" "::")).trans
      (congrArg Except.ok hwording)⟩

end Summary

end ContainerDesk
