import ReactiveContract.Proofs.Abi.Extraction
import ReactiveContract.Proofs.Document.Relation
/-! Entries of interfaces that differ in the spelling of their types declare the same. -/
namespace ReactiveContract.Abi
open Document Outcome

namespace ValueType

/-- The text of an array or of a tuple. -/
def IsComposite (text : String) : Prop := '[' ∈ text.toList ∨ '(' ∈ text.toList

/-- Arrays and tuples are refused, however the types in them are spelled. -/
theorem ofText_of_isComposite {text : String} (h : IsComposite text) :
    (ofText text).toOption = none := by
  cases ht : ofText text with
  | error fault => rfl
  | ok t =>
    have halphanum := isAlphanum_of_ofText ht
    rcases h with h | h
    · exact absurd (halphanum _ h) (by decide)
    · exact absurd (halphanum _ h) (by decide)

/-- The same type, where the integers of 256 bits have a short and a long name. -/
inductive Respelled : String → String → Prop
  | same (text : String) : Respelled text text
  | uint {a b : String} (ha : a = "uint" ∨ a = "uint256") (hb : b = "uint" ∨ b = "uint256") :
    Respelled a b
  | int {a b : String} (ha : a = "int" ∨ a = "int256") (hb : b = "int" ∨ b = "int256") :
    Respelled a b
  | composite {a b : String} (ha : IsComposite a) (hb : IsComposite b) : Respelled a b

namespace Respelled
variable {a b : String}

theorem symm (h : Respelled a b) : Respelled b a := by
  cases h with
  | same => exact .same _
  | uint ha hb => exact .uint hb ha
  | int ha hb => exact .int hb ha
  | composite ha hb => exact .composite hb ha

/-- An address has one name only. -/
theorem eq_of_address (h : Respelled a b) (ha : a = "address") : b = "address" := by
  subst ha
  cases h with
  | same => rfl
  | uint ha => exact absurd ha (by decide)
  | int ha => exact absurd ha (by decide)
  | composite ha => exact absurd ha (by unfold IsComposite; decide)

private theorem ofText_eq (h : Respelled a b) : (ofText a).toOption = (ofText b).toOption := by
  have huint : ∀ text, text = "uint" ∨ text = "uint256" → ofText text = .ok (.uint 256) := by
    rintro text (rfl | rfl)
    · rfl
    · exact ofText_text (t := .uint 256) rfl
  have hint : ∀ text, text = "int" ∨ text = "int256" → ofText text = .ok (.int 256) := by
    rintro text (rfl | rfl)
    · rfl
    · exact ofText_text (t := .int 256) rfl
  cases h with
  | same => rfl
  | uint ha hb => rw [huint a ha, huint b hb]
  | int ha hb => rw [hint a ha, hint b hb]
  | composite ha hb => rw [ofText_of_isComposite ha, ofText_of_isComposite hb]

theorem ofText_ok (h : Respelled a b) {t : ValueType} (ha : ofText a = .ok t) :
    ofText b = .ok t := by
  have hab := h.ofText_eq
  rw [ha] at hab
  cases hb : ofText b with
  | ok u =>
    rw [hb] at hab
    exact congrArg Except.ok (Option.some.inj hab).symm
  | error fault =>
    rw [hb] at hab
    cases hab

end Respelled

private theorem ofText?_ok {p q : Option String} (h : Option.Rel Respelled p q) {t : ValueType}
    (hp : ofText? p = .ok t) : ofText? q = .ok t := by
  cases h with
  | none => exact hp
  | some h => exact h.ofText_ok hp

end ValueType

/-- Parameters that differ in the spelling of the type alone. -/
def Param.Rel (p q : Param) : Prop :=
  ∃ type, q = { p with type } ∧ Option.Rel ValueType.Respelled p.type type

/-- Entries that differ in the spelling of types alone. -/
def Entry.Rel (e d : Entry) : Prop :=
  ∃ inputs, d = { e with inputs } ∧ List.Forall₂ Param.Rel e.inputs inputs

/-- Documents of parameters that differ in the spelling of the type. -/
structure Param.Respelled (f g : Fields) : Prop where
  name : nameKey.Rel Eq f g
  type : typeKey.Rel (Json.TextRel ValueType.Respelled) f g
  indexed : indexedKey.Rel Eq f g

/-- Documents of entries that differ in the name of the field for their kind and in the spelling of
types. -/
structure Entry.Respelled (f g : Fields) : Prop where
  kind : kindKey.Rel Eq f g
  name : nameKey.Rel Eq f g
  inputs : inputsKey.Rel (Json.ListRel (Json.RecordRel Param.Respelled)) f g
  stateMutability : stateMutabilityKey.Rel Eq f g
  anonymous : anonymousKey.Rel Eq f g
  constant : constantKey.Rel Eq f g
  payable : payableKey.Rel Eq f g

namespace Param

theorem Respelled.rel {f g : Fields} (h : Respelled f g) :
    Checked.Rel Param.Rel (ofFields f) (ofFields g) := by
  have htype : Respects (Json.TextRel ValueType.Respelled) (nullable text)
      (Option.Rel ValueType.Respelled) :=
    Respects.text.nullable fun _ _ => null_iff_of_textRel
  refine .seq (.seq (.map ?_ (Key.rel_optional .eq rfl h.name.value?))
    (Key.rel_optional htype .none h.type.value?)) (Key.rel_optional .eq rfl h.indexed.value?)
  rintro name _ rfl type type' htypes indexed _ rfl
  exact ⟨type', rfl, htypes⟩

theorem Rel.symm {p q : Param} (h : Rel p q) : Rel q p := by
  obtain ⟨type, rfl, htype⟩ := h
  exact ⟨p.type, rfl, optionRel_symm (fun _ _ => ValueType.Respelled.symm) htype⟩

end Param

namespace Entry

theorem Respelled.rel {f g : Fields} (h : Respelled f g) :
    Checked.Rel Entry.Rel (ofFields f) (ofFields g) := by
  have hinputs : Respects (Json.ListRel (Json.RecordRel Param.Respelled)) (list Param.ofJson)
      (List.Forall₂ Param.Rel) :=
    (Respects.record (S := Param.Respelled) fun _ _ h => h.rel).list
  refine .seq (.seq (.seq (.seq (.seq (.seq (.map ?_
    (Key.rel_optional .eq rfl h.kind.value?)) (Key.rel_optional .eq rfl h.name.value?))
    (Key.rel_optional hinputs .nil h.inputs.value?))
    (Key.rel_optional .eq rfl h.stateMutability.value?))
    (Key.rel_optional .eq rfl h.anonymous.value?)) (Key.rel_optional .eq rfl h.constant.value?))
    (Key.rel_optional .eq rfl h.payable.value?)
  rintro kind _ rfl name _ rfl inputs inputs' hparams mutability _ rfl anonymous _ rfl
    constant _ rfl payable _ rfl
  exact ⟨inputs', rfl, hparams⟩

theorem Rel.symm {e d : Entry} (h : Rel e d) : Rel d e := by
  obtain ⟨inputs, rfl, hinputs⟩ := h
  exact ⟨e.inputs, rfl, (hinputs.imp fun _ _ => Param.Rel.symm).flip⟩

/-- The canonical types are the same, beside parameters that differ as they did. -/
theorem canonicalTypes_rel {fault : Nat → TypeFault → Fault} {ps qs : List Param}
    (h : List.Forall₂ Param.Rel ps qs) :
    ∀ {position : Nat} {typed : List (Param × String)},
      canonicalTypes fault position ps = .ok typed →
      ∃ others, canonicalTypes fault position qs = .ok others
        ∧ List.Forall₂ (fun x y => Param.Rel x.1 y.1 ∧ x.2 = y.2) typed others := by
  induction h with
  | nil =>
    intro position typed htyped
    cases htyped
    exact ⟨[], rfl, .nil⟩
  | @cons p q ps qs hp _ ih =>
    intro position typed htyped
    have htype : ∀ {t}, ValueType.ofText? p.type = .ok t → ValueType.ofText? q.type = .ok t := by
      obtain ⟨type, rfl, htype⟩ := hp
      exact ValueType.ofText?_ok htype
    unfold canonicalTypes at htyped ⊢
    cases hpt : ValueType.ofText? p.type with
    | error fault => simp [hpt] at htyped
    | ok t =>
      simp only [hpt, map_eq_ok] at htyped
      obtain ⟨rest, hrest, rfl⟩ := htyped
      obtain ⟨others, hothers, hall⟩ := ih hrest
      refine ⟨(q, t.text) :: others, ?_, .cons ⟨hp, rfl⟩ hall⟩
      simp only [htype hpt, hothers, Except.map]

end Entry

/-- What is made of related parameters and their places is the same if it is on each of them. -/
private theorem zipIdx_map_eq {α : Type} {typed others : List (Param × String)}
    (h : List.Forall₂ (fun x y => Param.Rel x.1 y.1 ∧ x.2 = y.2) typed others)
    {make : (Param × String) × Nat → α}
    (hmake : ∀ x y i, Param.Rel x.1 y.1 → x.2 = y.2 → make (x, i) = make (y, i)) (start : Nat) :
    (typed.zipIdx start).map make = (others.zipIdx start).map make := by
  induction h generalizing start with
  | nil => rfl
  | cons hxy _ ih =>
    simp only [List.zipIdx_cons, List.map_cons]
    rw [hmake _ _ start hxy.1 hxy.2, ih]

private theorem map_snd_eq {typed others : List (Param × String)}
    (h : List.Forall₂ (fun x y => Param.Rel x.1 y.1 ∧ x.2 = y.2) typed others) :
    typed.map (·.2) = others.map (·.2) := by
  induction h with
  | nil => rfl
  | cons hxy _ ih => rw [List.map_cons, List.map_cons, hxy.2, ih]

theorem Event.ofEntry_rel {e d : Entry} {event : Event} (h : Entry.Rel e d)
    (he : ofEntry e = .ok event) : ofEntry d = .ok event := by
  obtain ⟨inputs, rfl, hinputs⟩ := h
  obtain ⟨typed, message, htyped, hmessage, rfl⟩ := ofEntry_eq_ok.mp he
  obtain ⟨others, hothers, hall⟩ := Entry.canonicalTypes_rel hinputs htyped
  rw [map_snd_eq hall] at hmessage
  refine ofEntry_eq_ok.mpr ⟨others, message, hothers, hmessage, ?_⟩
  rw [map_snd_eq hall, zipIdx_map_eq hall]
  rintro ⟨p, type⟩ ⟨q, _⟩ i ⟨_, rfl, -⟩ rfl
  rfl

theorem Callee.ofEntry_rel {e d : Entry} {callee : Callee} (h : Entry.Rel e d)
    (he : ofEntry e = .ok callee) : ofEntry d = .ok callee := by
  obtain ⟨inputs, rfl, hinputs⟩ := h
  obtain ⟨typed, htyped, rfl⟩ := ofEntry_eq_ok.mp he
  obtain ⟨others, hothers, hall⟩ := Entry.canonicalTypes_rel hinputs htyped
  refine ofEntry_eq_ok.mpr ⟨others, hothers, ?_⟩
  rw [map_snd_eq hall, zipIdx_map_eq hall]
  · rfl
  · rintro ⟨p, type⟩ ⟨q, _⟩ i ⟨_, rfl, -⟩ rfl
    rfl

end ReactiveContract.Abi
