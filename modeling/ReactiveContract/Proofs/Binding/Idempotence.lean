import ReactiveContract.Proofs.Binding.Respelling
import ReactiveContract.Proofs.Contract.Dispatch
import ReactiveContract.Proofs.Text.Blank
/-! What the resolver makes is in final form: it resolves to itself. -/
namespace ReactiveContract
open Abi Text Outcome

theorem Expression.Acceptable.trim {text : String} (h : Acceptable text) :
    Acceptable (Text.trim text) := by
  unfold Acceptable at h ⊢
  rwa [trim_trim]

private theorem Expression.acceptable_of_isAlphanum {text : String} (hne : text ≠ "")
    (h : ∀ c ∈ text.toList, c.isAlphanum = true) : Acceptable text := by
  unfold Acceptable
  rw [trim_of_isAlphanum h]
  exact ⟨hne, isSingle_of_isAlphanum h⟩

private theorem Address.text_ne_empty (a : Address) : a.text ≠ "" := by
  intro h
  have hnil := congrArg String.toList h
  rw [text, String.toList_ofList] at hnil
  cases hnil

private theorem Address.trim_text (a : Address) : trim a.text = a.text :=
  trim_of_isAlphanum fun _ => isAlphanum_text

namespace Source
variable {event : Event} {type literal : String} {source : Source}

/-- A settled literal is the given one without its blanks, or the checksummed text of an address. -/
theorem settledLiteral_cases (type literal : String) :
    settledLiteral type literal = trim literal
      ∨ ∃ a : Address, settledLiteral type literal = a.text := by
  unfold settledLiteral
  split
  · cases Address.read? (trim literal) with
    | none => exact .inl rfl
    | some a => exact .inr ⟨a, rfl⟩
  · exact .inl rfl

private theorem acceptable_settledLiteral (type : String) (h : Expression.Acceptable literal) :
    Expression.Acceptable (settledLiteral type literal) := by
  rcases settledLiteral_cases type literal with heq | ⟨a, heq⟩ <;> rw [heq]
  · exact h.trim
  · exact Expression.acceptable_of_isAlphanum a.text_ne_empty fun _ => Address.isAlphanum_text

/-- A checksummed text is read as the address that it is of, so it is settled already. -/
private theorem settledLiteral_settledLiteral (type literal : String) :
    settledLiteral type (settledLiteral type literal) = settledLiteral type literal := by
  by_cases htype : type = "address"
  · cases hread : Address.read? (trim literal) with
    | none =>
      have hgiven : settledLiteral type literal = trim literal := by
        simp only [settledLiteral, if_pos htype, hread]
      rw [hgiven, settledLiteral, if_pos htype, trim_trim, hread]
    | some a =>
      have hgiven : settledLiteral type literal = a.text := by
        simp only [settledLiteral, if_pos htype, hread]
      rw [hgiven, settledLiteral, if_pos htype, a.trim_text, Address.read?_text]
  · have hgiven (text : String) : settledLiteral type text = trim text := if_neg htype
    rw [hgiven, hgiven, trim_trim]

theorem settled_settled (type : String) (source : Source) :
    (source.settled type).settled type = source.settled type := by
  cases source with
  | fixed literal => exact congrArg fixed (settledLiteral_settledLiteral type literal)
  | topic index => rfl
  | data field => rfl
  | unbound zero => rfl

/-- Where an argument comes from still fits once it is settled. -/
theorem Fits.settled (h : source.Fits event type) : (source.settled type).Fits event type := by
  cases source with
  | fixed literal => exact acceptable_settledLiteral type h
  | topic index => exact h
  | data field => exact h
  | unbound zero => trivial

end Source

namespace Mapping
variable {event : Event} {m : Mapping} {input : CalleeInput}

private theorem topic?_settled (m : Mapping) (input : CalleeInput) :
    (m.settled input).topic? = m.topic? := by
  unfold settled topic?
  cases m.source <;> rfl

theorem settled_settled (m : Mapping) (input : CalleeInput) :
    (m.settled input).settled input = m.settled input := by
  unfold settled
  rw [Source.settled_settled]
  split <;> rfl

/-- The canonical spelling of a type is read as that type, and the name is the input's. -/
private theorem Fits.refits (h : m.Fits event input) : (m.settled input).Fits event input := by
  obtain ⟨⟨t, ht, htext⟩, -, hsourced⟩ := h
  refine ⟨⟨t, ?_, htext⟩, fun hname _ => if_pos hname, hsourced.settled⟩
  change ValueType.ofText input.type = .ok t
  rw [← htext]
  exact ValueType.ofText_text (ValueType.wellFormed_of_ofText ht)

end Mapping

namespace Binding
variable {event : Event} {callee : Callee} {mappings : List Mapping} {condition : Option String}
  {b : Binding}

/-- Position by position: settled mappings fit, claim the same topics and settle to themselves. -/
theorem zipWith_settled {inputs : List CalleeInput}
    (h : List.Forall₂ (Mapping.Fits event) mappings inputs) :
    List.Forall₂ (Mapping.Fits event) (List.zipWith Mapping.settled mappings inputs) inputs
      ∧ (List.zipWith Mapping.settled mappings inputs).filterMap Mapping.topic?
          = mappings.filterMap Mapping.topic?
      ∧ List.zipWith Mapping.settled (List.zipWith Mapping.settled mappings inputs) inputs
          = List.zipWith Mapping.settled mappings inputs := by
  induction h with
  | nil => exact ⟨.nil, rfl, rfl⟩
  | cons hm _ ih =>
    obtain ⟨hfits, htopics, hsettled⟩ := ih
    refine ⟨.cons hm.refits hfits, ?_, ?_⟩
    · rw [List.zipWith_cons_cons, List.filterMap_cons, List.filterMap_cons,
        Mapping.topic?_settled, htopics]
    · rw [List.zipWith_cons_cons, List.zipWith_cons_cons, Mapping.settled_settled, hsettled]

theorem Admissible.settled (h : Admissible event callee mappings condition) :
    Admissible event callee (List.zipWith Mapping.settled mappings callee.inputs)
      (condition.map trim) := by
  obtain ⟨hfits, htopics, -⟩ := zipWith_settled h.fitting
  refine ⟨hfits, by rw [htopics]; exact h.distinct, fun text htext => ?_⟩
  obtain ⟨given, hgiven, rfl⟩ := Option.map_eq_some_iff.mp htext
  exact (h.guarded given hgiven).trim

/-- A binding that the resolver has made resolves to itself. -/
theorem resolve_idempotent (h : resolve event callee mappings condition = .ok b) :
    resolve event callee b.mappings b.condition = .ok b := by
  obtain ⟨ha, rfl⟩ := resolve_eq_ok.mp h
  obtain ⟨-, -, hsettled⟩ := zipWith_settled ha.fitting
  have htrim : (condition.map trim).map trim = condition.map trim := by
    cases condition with
    | none => rfl
    | some text => exact congrArg some (trim_trim text)
  refine resolve_eq_ok.mpr ⟨ha.settled, ?_⟩
  rw [hsettled, htrim]

end Binding

/-- A credit of nothing to one account, with blanks around the texts and an argument left open. -/
def looseMappings : List Mapping :=
  [⟨"", "address", .fixed " 0X00000000000000000000000000000000000000eF\n"⟩,
    ⟨"amount", "uint", .unbound none⟩]

def emptyCredit : Binding :=
  { transferCredit with
    mappings := [
      ⟨"who", "address", .fixed (Address.text ⟨0xef⟩)⟩, ⟨"amount", "uint256", .unbound (some "0")⟩] }

private theorem resolve_looseMappings :
    Binding.resolve transferCredit.event transferCredit.callee looseMappings (some " value > 0\t")
      = .ok emptyCredit := by
  have hliteral : Source.settledLiteral "address" " 0X00000000000000000000000000000000000000eF\n"
      = Address.text ⟨0xef⟩ := by
    have hread : Address.read? (trim " 0X00000000000000000000000000000000000000eF\n")
        = some ⟨0xef⟩ := rfl
    rw [Source.settledLiteral, if_pos rfl, hread]
  have hzero : zeroValue "uint256" = .ok "0" := ValueType.zeroValue_text (t := .uint 256) rfl
  refine Binding.resolve_eq_ok.mpr ⟨⟨.cons ?_ (.cons ?_ .nil), by decide, ?_⟩, ?_⟩
  · exact ⟨⟨.address, ValueType.ofText?_address, rfl⟩, by decide, by decide, by decide⟩
  · exact ⟨⟨.uint 256, rfl, rfl⟩, by decide, trivial⟩
  · intro text htext
    cases htext
    exact ⟨by decide, by decide⟩
  · rw [emptyCredit, ← hliteral]
    have hunbound : Source.unbound (some "0") = (Source.unbound none).settled "uint256" := by
      rw [Source.settled, hzero]
      rfl
    rw [hunbound]
    rfl

theorem emptyCredit_idempotent :
    Binding.resolve transferCredit.event transferCredit.callee looseMappings (some " value > 0\t")
        = .ok emptyCredit
      ∧ Binding.resolve transferCredit.event transferCredit.callee emptyCredit.mappings
          emptyCredit.condition = .ok emptyCredit :=
  ⟨resolve_looseMappings, Binding.resolve_idempotent resolve_looseMappings⟩

end ReactiveContract
