import Mathlib.Data.List.Forall2
import ReactiveContract.Document.Record
import ReactiveContract.Proofs.Document.Reading
/-! Documents that say the same in different words: what relates two of them, and readers that take
related documents to related values. -/
namespace ReactiveContract

/-- Two values of one form whose contents are related; a value of another form is left as it is. -/
inductive Json.Rel {α : Type} (form : α → Json) (S : α → α → Prop) : Json → Json → Prop
  | form {a b : α} (h : S a b) : Rel form S (form a) (form b)
  | other {j : Json} (h : ∀ a, j ≠ form a) : Rel form S j j

namespace Json

abbrev TextRel (S : String → String → Prop) : Json → Json → Prop := Rel .str S

/-- Lists of the same length with related items. -/
abbrev ListRel (S : Json → Json → Prop) : Json → Json → Prop := Rel .arr (List.Forall₂ S)

abbrev RecordRel (S : Fields → Fields → Prop) : Json → Json → Prop := Rel .obj S

end Json

namespace Document

theorem eq_of_optionRel {α : Type} {x y : Option α} (h : Option.Rel Eq x y) : x = y := by
  cases h with
  | none => rfl
  | some h => rw [h]

theorem optionRel_symm {α : Type} {R : α → α → Prop} (hR : ∀ a b, R a b → R b a) {x y : Option α}
    (h : Option.Rel R x y) : Option.Rel R y x := by
  cases h with
  | none => exact .none
  | some h => exact .some (hR _ _ h)

/-- Two readings with related values, or with faults each. -/
inductive Checked.Rel {α : Type} (R : α → α → Prop) : Checked α → Checked α → Prop
  | ok {a b : α} (h : R a b) : Rel R (.ok a) (.ok b)
  | rejected (fs gs : Faults) : Rel R (.rejected fs) (.rejected gs)

namespace Checked
variable {α β : Type} {R : α → α → Prop} {T : β → β → Prop}

theorem Rel.rfl {x : Checked α} : Rel Eq x x := by
  cases x with
  | ok a => exact .ok (Eq.refl a)
  | rejected fs => exact .rejected fs fs

theorem Rel.and_left {P : α → Prop} {x y : Checked α} (h : Rel R x y)
    (hP : ∀ a, x = .ok a → P a) : Rel (fun a b => R a b ∧ P a) x y := by
  cases h with
  | ok h => exact .ok ⟨h, hP _ (Eq.refl _)⟩
  | rejected fs gs => exact .rejected fs gs

theorem Rel.map {x y : Checked α} {f g : α → β} (hf : ∀ a b, R a b → T (f a) (g b))
    (h : Rel R x y) : Rel T (f <$> x) (g <$> y) := by
  cases h with
  | ok h => exact .ok (hf _ _ h)
  | rejected fs gs => exact .rejected fs gs

theorem Rel.seq {f g : Checked (α → β)} {x y : Checked α}
    (hf : Rel (fun f g => ∀ a b, R a b → T (f a) (g b)) f g) (h : Rel R x y) :
    Rel T (f <*> x) (g <*> y) := by
  cases hf with
  | ok hf =>
    cases h with
    | ok h => exact .ok (hf _ _ h)
    | rejected fs gs => exact .rejected fs gs
  | rejected fs gs =>
    cases h with
    | ok h => exact .rejected fs gs
    | rejected more others => exact .rejected (fs.append more) (gs.append others)

theorem Rel.under {x y : Checked α} (h : Rel R x y) (s t : Step) :
    Rel R (x.under s) (y.under t) := by
  cases h with
  | ok h => exact .ok h
  | rejected fs gs => exact .rejected (fs.under s) (gs.under t)

/-- A further check has to come to related values, or to a fault on either side. -/
theorem Rel.refine {f g : α → Except Cause β} {x y : Checked α} (h : Rel R x y)
    (hf : ∀ a b, R a b → (f a).toOption = (g b).toOption) :
    Rel Eq (x.refine f) (y.refine g) := by
  cases h with
  | rejected fs gs => exact .rejected fs gs
  | @ok a b h =>
    have hab := hf a b h
    simp only [Checked.refine]
    cases hfa : f a with
    | ok c =>
      cases hgb : g b with
      | ok d =>
        rw [hfa, hgb] at hab
        exact .ok (Option.some.inj hab)
      | error cause =>
        rw [hfa, hgb] at hab
        cases hab
    | error cause =>
      cases hgb : g b with
      | ok d =>
        rw [hfa, hgb] at hab
        cases hab
      | error other => exact .rejected _ _

end Checked

/-- A reader takes related documents to related values. -/
def Respects {α : Type} (S : Json → Json → Prop) (read : Json → Checked α) (R : α → α → Prop) :
    Prop :=
  ∀ ⦃j k : Json⦄, S j k → Checked.Rel R (read j) (read k)

namespace Respects
variable {α : Type} {S : Json → Json → Prop} {R : α → α → Prop} {read : Json → Checked α}

protected theorem eq : Respects Eq read Eq := by
  rintro j _ rfl
  exact .rfl

theorem text {S : String → String → Prop} : Respects (Json.TextRel S) Document.text S := by
  intro j k h
  cases h with
  | form h => exact .ok h
  | other h =>
    cases j with
    | str s => exact absurd rfl (h s)
    | _ => exact .rejected _ _

theorem elim (h : Respects S read R) {x y : Option Json} (hxy : Option.Rel S x y)
    {d : Checked α} (hd : Checked.Rel R d d) : Checked.Rel R (x.elim d read) (y.elim d read) := by
  cases hxy with
  | none => exact hd
  | some hjk => exact h hjk

/-- Null has to be related to nothing but itself. -/
theorem nullable (hS : ∀ j k, S j k → (j = .null ↔ k = .null)) (h : Respects S read R) :
    Respects S (Document.nullable read) (Option.Rel R) := by
  intro j k hjk
  have hread : Checked.Rel (Option.Rel R) (some <$> read j) (some <$> read k) :=
    (h hjk).map fun _ _ hab => .some hab
  have hsome : ∀ i : Json, i ≠ .null → Document.nullable read i = some <$> read i := by
    intro i hi
    cases i with
    | null => exact absurd rfl hi
    | _ => rfl
  by_cases hj : j = .null
  · obtain rfl := (hS j k hjk).mp hj
    subst hj
    exact .ok .none
  · have hk : k ≠ .null := fun hk => hj ((hS j k hjk).mpr hk)
    rw [hsome j hj, hsome k hk]
    exact hread

theorem itemsFrom (h : Respects S read R) {js ks : List Json} (hjk : List.Forall₂ S js ks)
    (i : Nat) :
    Checked.Rel (List.Forall₂ R) (itemsFrom read i js) (itemsFrom read i ks) := by
  induction hjk generalizing i with
  | nil => exact .ok .nil
  | cons hj _ ih =>
    have hhead := ((h hj).under (.index i) (.index i)).map (f := List.cons) (g := List.cons)
      (T := fun f g => ∀ as bs, List.Forall₂ R as bs → List.Forall₂ R (f as) (g bs))
      fun _ _ hab _ _ hrest => .cons hab hrest
    exact hhead.seq (ih (i + 1))

theorem list (h : Respects S read R) :
    Respects (Json.ListRel S) (Document.list read) (List.Forall₂ R) := by
  intro j k hjk
  cases hjk with
  | form hitems => exact h.itemsFrom hitems 0
  | other hother =>
    cases j with
    | arr items => exact absurd rfl (hother items)
    | _ => exact .rejected _ _

theorem record {S : Fields → Fields → Prop} {read : Fields → Checked α} {name : String}
    (h : ∀ f g, S f g → Checked.Rel R (read f) (read g)) :
    Respects (Json.RecordRel S) (Document.record name read) R := by
  intro j k hjk
  cases hjk with
  | form hfields => exact h _ _ hfields
  | other hother =>
    cases j with
    | obj fields => exact absurd rfl (hother fields)
    | _ => exact .rejected _ _

end Respects

theorem null_iff_of_textRel {S : String → String → Prop} {j k : Json} (h : Json.TextRel S j k) :
    j = .null ↔ k = .null := by
  cases h with
  | form h => simp
  | other h => rfl

namespace Key

/-- All the names that a field may have. -/
def names (key : Key) : List String := key.name :: key.alias?.toList

/-- The object gives the value, under one of the names and not under the other. -/
def Gives (key : Key) (fields : Fields) (j : Json) : Prop :=
  ∃ name ∈ key.names, Fields.get? fields name = some j
    ∧ ∀ other ∈ key.names, other ≠ name → Fields.get? fields other = none

/-- Two objects give related values, under whichever name, or they agree name by name. -/
inductive Rel (key : Key) (S : Json → Json → Prop) (f g : Fields) : Prop
  | given {j k : Json} (hf : key.Gives f j) (hg : key.Gives g k) (h : S j k)
  | alike (h : ∀ name ∈ key.names, Option.Rel S (Fields.get? f name) (Fields.get? g name))

/-- The value under the name that counts. -/
def value? (key : Key) (fields : Fields) : Option Json := (key.find? fields).map (·.2)

variable {key : Key} {S : Json → Json → Prop} {f g : Fields}

theorem value?_eq (key : Key) (fields : Fields) :
    key.value? fields
      = (key.alias?.bind (Fields.get? fields)).or (Fields.get? fields key.name) := by
  unfold value? find?
  cases key.alias? with
  | none => cases Fields.get? fields key.name <;> rfl
  | some a =>
    cases ha : Fields.get? fields a with
    | none => cases Fields.get? fields key.name <;> simp [ha]
    | some j => simp [ha]

theorem value?_of_gives {j : Json} (h : key.Gives f j) : key.value? f = some j := by
  obtain ⟨name, hname, hj, hother⟩ := h
  rw [value?_eq]
  cases ha : key.alias? with
  | none =>
    have hmain : name = key.name := by simpa [names, ha] using hname
    rw [← hmain, hj]
    rfl
  | some a =>
    by_cases hmain : name = a
    · rw [Option.bind_some, ← hmain, hj]
      rfl
    · have hkey : name = key.name := by simpa [names, ha, hmain] using hname
      have hnone : Fields.get? f a = none :=
        hother a (by simp [names, ha]) fun h => hmain h.symm
      rw [Option.bind_some, hnone, ← hkey, hj]
      rfl

theorem Rel.value? (h : key.Rel S f g) : Option.Rel S (key.value? f) (key.value? g) := by
  cases h with
  | given hf hg h =>
    rw [value?_of_gives hf, value?_of_gives hg]
    exact .some h
  | alike h =>
    have hname := h key.name (by simp [names])
    rw [value?_eq, value?_eq]
    cases ha : key.alias? with
    | none => exact hname
    | some a =>
      have halias := h a (by simp [names, ha])
      simp only [Option.bind_some]
      revert halias
      generalize Fields.get? f a = x
      generalize Fields.get? g a = y
      intro halias
      cases halias with
      | none => exact hname
      | some hjk => exact .some hjk

theorem Rel.absent (hf : ∀ name ∈ key.names, Fields.get? f name = none)
    (hg : ∀ name ∈ key.names, Fields.get? g name = none) : key.Rel S f g := by
  refine .alike fun name hname => ?_
  rw [hf name hname, hg name hname]
  exact .none

theorem Rel.of_get? (hkey : key.alias? = none)
    (h : Option.Rel S (Fields.get? f key.name) (Fields.get? g key.name)) : key.Rel S f g := by
  refine .alike fun name hname => ?_
  have hname' : name = key.name := by simpa [names, hkey] using hname
  rw [hname']
  exact h

/-- A field with one name is looked up under it. -/
theorem Rel.get?_eq (hkey : key.alias? = none) (h : key.Rel Eq f g) :
    Fields.get? f key.name = Fields.get? g key.name := by
  have hvalue := eq_of_optionRel h.value?
  rw [value?_eq, value?_eq, hkey] at hvalue
  exact hvalue

variable {α : Type} {R : α → α → Prop} {read : Json → Checked α}

theorem required_eq (key : Key) (read : Json → Checked α) (fields : Fields) :
    ∃ step, key.required read fields
      = ((key.value? fields).elim (Checked.fail .missing) read).under step := by
  unfold required Key.value?
  cases key.find? fields with
  | none => exact ⟨.key key.wireName, rfl⟩
  | some found => exact ⟨.key found.1, rfl⟩

theorem optional_eq (key : Key) (default : α) (read : Json → Checked α) (fields : Fields) :
    ∃ step, key.optional default read fields
      = ((key.value? fields).elim (.ok default) read).under step := by
  unfold optional Key.value?
  cases key.find? fields with
  | none => exact ⟨.key key.wireName, rfl⟩
  | some found => exact ⟨.key found.1, rfl⟩

theorem required_eq_ok {fields : Fields} {a : α} :
    key.required read fields = .ok a ↔ ∃ j, key.value? fields = some j ∧ read j = .ok a := by
  obtain ⟨step, hread⟩ := required_eq key read fields
  rw [hread, Checked.under_eq_ok]
  cases key.value? fields <;> simp [Checked.fail]

theorem optional_eq_ok {default a : α} {fields : Fields} :
    key.optional default read fields = .ok a
      ↔ key.value? fields = none ∧ default = a
        ∨ ∃ j, key.value? fields = some j ∧ read j = .ok a := by
  obtain ⟨step, hread⟩ := optional_eq key default read fields
  rw [hread, Checked.under_eq_ok]
  cases key.value? fields <;> simp

theorem rel_required (hr : Respects S read R) (h : Option.Rel S (key.value? f) (key.value? g)) :
    Checked.Rel R (key.required read f) (key.required read g) := by
  obtain ⟨s, hs⟩ := required_eq key read f
  obtain ⟨t, ht⟩ := required_eq key read g
  rw [hs, ht]
  exact (hr.elim h (.rejected _ _)).under s t

theorem rel_optional {default : α} (hr : Respects S read R) (hd : R default default)
    (h : Option.Rel S (key.value? f) (key.value? g)) :
    Checked.Rel R (key.optional default read f) (key.optional default read g) := by
  obtain ⟨s, hs⟩ := optional_eq key default read f
  obtain ⟨t, ht⟩ := optional_eq key default read g
  rw [hs, ht]
  exact (hr.elim h (.ok hd)).under s t

end Key
end Document
end ReactiveContract
