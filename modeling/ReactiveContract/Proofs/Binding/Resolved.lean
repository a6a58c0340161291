import ReactiveContract.Proofs.Abi.Extraction
import ReactiveContract.Proofs.Binding.Resolution
/-! What holds of every binding that the resolver makes out of the entries of interfaces. -/
namespace ReactiveContract
open Abi Text Outcome

/-- A source in the form that the resolver leaves it in, for an argument of a type. -/
def Source.Settled (event : Event) (type : String) : Source → Prop
  | .fixed literal => ∃ given, Expression.Acceptable given ∧ literal = settledLiteral type given
  | .topic index =>
    (index = 1 ∨ index = 2 ∨ index = 3) ∧ index ≤ event.indexedInputs.length
      ∧ ∃ e, topicExpression type index = .ok e
  | .data field =>
    field ≠ "" ∧ ∃ p, event.inputs.find? (·.name = field) = some p
      ∧ p.indexed = false ∧ p.type = type
  | .unbound zero => ∃ t : ValueType, t.WellFormed ∧ t.text = type ∧ zero = some t.zero

/-- A mapping in the form that the resolver leaves it in. -/
structure Mapping.Settled (event : Event) (m : Mapping) (input : CalleeInput) : Prop where
  typed : m.type = input.type
  sourced : m.source.Settled event input.type

/-- A binding as the resolver makes it. -/
def Binding.Resolved (b : Binding) : Prop :=
  ∃ (source target : Entry) (event : Event) (callee : Callee) (mappings : List Mapping)
    (condition : Option String),
    Event.ofEntry source = .ok event ∧ Callee.ofEntry target = .ok callee
      ∧ Binding.resolve event callee mappings condition = .ok b

theorem Abi.ValueType.zero_ne_empty (t : ValueType) : t.zero ≠ "" := by
  cases t with
  | bytes size =>
    cases size with
    | none => decide
    | some size =>
      intro h
      have hl := congrArg String.toList h
      change (("bytes" ++ toString size) ++ "(0)").toList = _ at hl
      simp only [String.toList_append] at hl
      exact absurd hl (by simp)
  | _ => simp [zero]

theorem Abi.ValueType.exists_topicExpression {t : ValueType} (h : t.WellFormed)
    (hs : t.text ≠ "string") (hb : t.text ≠ "bytes") (index : Int) :
    ∃ e, topicExpression t.text index = .ok e := by
  have hn : ¬ t.topicExpr?.isNone = true := by
    rw [topicExpr?_isNone_iff]
    tauto
  cases he : t.topicExpr? with
  | none => simp [he] at hn
  | some e => exact ⟨e.render index, by simp [topicExpression, ofText_text h, he]⟩

/-- Settling a mapping that fits leaves it settled. -/
theorem Mapping.Fits.settled {event : Event} {m : Mapping} {input : CalleeInput}
    (h : m.Fits event input) : (m.settled input).Settled event input := by
  obtain ⟨⟨t, ht, htext⟩, -, hs⟩ := h
  have hw := ValueType.wellFormed_of_ofText ht
  refine ⟨rfl, ?_⟩
  unfold Mapping.settled
  cases hsource : m.source with
  | fixed literal =>
    rw [hsource] at hs
    exact ⟨literal, hs, rfl⟩
  | topic index =>
    rw [hsource] at hs
    obtain ⟨hr, hi, hstring, hbytes⟩ := hs
    rw [← htext] at hstring hbytes ⊢
    exact ⟨hr, hi, ValueType.exists_topicExpression hw hstring hbytes index⟩
  | data field =>
    rw [hsource] at hs
    exact hs
  | unbound zero =>
    refine ⟨t, hw, htext, ?_⟩
    rw [← htext, ValueType.zeroValue_text hw]
    rfl

private theorem Mapping.settled_of_fits {event : Event} {mappings : List Mapping}
    {inputs : List CalleeInput} (h : List.Forall₂ (Mapping.Fits event) mappings inputs) :
    List.Forall₂ (Mapping.Settled event) (List.zipWith Mapping.settled mappings inputs) inputs := by
  induction h with
  | nil => exact .nil
  | cons hm _ ih => exact .cons hm.settled ih

namespace Binding.Resolved
variable {b : Binding}

theorem event_declared (h : b.Resolved) : b.event.Declared := by
  obtain ⟨_, _, event, callee, mappings, condition, he, -, hb⟩ := h
  obtain ⟨-, rfl⟩ := resolve_eq_ok.mp hb
  exact Event.declared_of_ofEntry he

theorem callee_declared (h : b.Resolved) : b.callee.Declared := by
  obtain ⟨_, _, event, callee, mappings, condition, -, hc, hb⟩ := h
  obtain ⟨-, rfl⟩ := resolve_eq_ok.mp hb
  exact Callee.declared_of_ofEntry hc

theorem settled (h : b.Resolved) :
    List.Forall₂ (Mapping.Settled b.event) b.mappings b.callee.inputs := by
  obtain ⟨_, _, event, callee, mappings, condition, -, -, hb⟩ := h
  obtain ⟨ha, rfl⟩ := resolve_eq_ok.mp hb
  exact Mapping.settled_of_fits ha.fitting

/-- Each mapping is settled for some input of the function. -/
theorem exists_settled (h : b.Resolved) {m : Mapping} (hm : m ∈ b.mappings) :
    ∃ input ∈ b.callee.inputs, m.Settled b.event input := by
  obtain ⟨i, hi, rfl⟩ := List.getElem_of_mem hm
  have hi' : i < b.callee.inputs.length := by
    rw [← h.settled.length_eq]
    exact hi
  exact ⟨b.callee.inputs[i], List.getElem_mem hi', h.settled.get hi hi'⟩

theorem condition_acceptable (h : b.Resolved) {condition : String}
    (hc : b.condition = some condition) :
    ∃ given, Expression.Acceptable given ∧ condition = trim given := by
  obtain ⟨_, _, event, callee, mappings, given, -, -, hb⟩ := h
  obtain ⟨ha, rfl⟩ := resolve_eq_ok.mp hb
  obtain ⟨text, rfl, rfl⟩ := Option.map_eq_some_iff.mp hc
  exact ⟨text, ha.guarded text rfl, rfl⟩

end Binding.Resolved
end ReactiveContract
