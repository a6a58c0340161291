import ReactiveContract.Proofs.Contract.Decoding
import ReactiveContract.Proofs.Contract.Numbering
import ReactiveContract.Proofs.Contract.Scope
import ReactiveContract.Proofs.Solidity.Signature
/-! The reaction names those of its parameters that its body needs, and no others. -/
namespace ReactiveContract
open Abi Solidity

namespace Plan

/-- The text between the brackets of the reaction. -/
def signature (p : Plan) : String := joinLines (indent 2 p.reactParameters.render)

private theorem signature_within (p : Plan) :
    Within ["    function react(", p.signature, "    ) external override vmOnly \x7b"] p.render := by
  obtain ⟨before, after, hrender⟩ := p.reaction_within
  refine ⟨before, p.reaction.drop 3 ++ after, ?_⟩
  rw [hrender, List.append_assoc, List.append_assoc]
  rfl

theorem parameterNames_signature (p : Plan) :
    parameterNames p.signature = p.reactParameters.named :=
  ReactParameters.parameterNames_render _ 2

/-- Of the data, a binding needs what its arguments read and, with a guard, all that has a name. -/
private theorem neededFields_ne_nil {b : Binding} (h : b.Resolved) :
    neededFields b ≠ [] ↔ (∃ m ∈ b.mappings, ∃ field, m.source = .data field)
      ∨ (b.condition ≠ none ∧ ∃ p ∈ b.event.dataInputs, p.name ≠ "") := by
  have hsome : (decoding? b).isSome = true ↔ neededFields b ≠ [] := by
    unfold decoding?
    split <;> simp [*]
  rw [← hsome, decoding?_isSome h]
  unfold Binding.Needs
  constructor
  · rintro ⟨p, hp, ⟨m, hm, hs⟩ | ⟨hc, hname⟩⟩
    · exact .inl ⟨m, hm, p.name, hs⟩
    · exact .inr ⟨hc, p, hp, hname⟩
  · rintro (⟨m, hm, field, hs⟩ | ⟨hc, p, hp, hname⟩)
    · obtain ⟨p, hp, rfl⟩ := exists_dataInput h hm hs
      exact ⟨p, hp, .inl ⟨m, hm, hs⟩⟩
    · exact ⟨p, hp, .inr ⟨hc, hname⟩⟩

theorem exists_decode_iff {b : Binding} {index : Nat} {br : Branch}
    (hbr : branch index b = .ok br) :
    (∃ d, Statement.decode d ∈ br.statements) ↔ neededFields b ≠ [] := by
  simp only [decode_mem_statements hbr, decoding?_eq_some, exists_and_left, exists_eq, and_true]

/-- A topic that a resolved binding reads is one of the parameters. -/
private theorem topic_mem_all {b : Binding} (h : b.Resolved) {m : Mapping} (hm : m ∈ b.mappings)
    {k : Int} (hs : m.source = .topic k) : s!"topic_{k}" ∈ ReactParameters.all.map (·.2) := by
  obtain ⟨input, -, -, hsettled⟩ := h.exists_settled hm
  rw [hs] at hsettled
  obtain ⟨rfl | rfl | rfl, -⟩ := hsettled <;> decide

private theorem exists_decode_branches {bindings : List Binding} {branches : List Branch}
    (h : List.Forall₂ (fun p br => branch p.2 p.1 = .ok br) bindings.zipIdx branches) :
    (∃ br ∈ branches, ∃ d, Statement.decode d ∈ br.statements)
      ↔ ∃ b ∈ bindings, neededFields b ≠ [] := by
  constructor
  · rintro ⟨br, hbr, hdecode⟩
    obtain ⟨⟨b, i⟩, hmem, hbranch⟩ := exists_of_mem_right h hbr
    have hb : bindings[i]? = some b := List.mk_mem_zipIdx_iff_getElem?.mp hmem
    exact ⟨b, List.mem_of_getElem? hb, (exists_decode_iff hbranch).mp hdecode⟩
  · rintro ⟨b, hb, hneeded⟩
    obtain ⟨i, hi⟩ := List.getElem?_of_mem hb
    obtain ⟨br, hbr, hbranch⟩ := branch_getElem? h hi
    exact ⟨br, List.mem_of_getElem? hbr, (exists_decode_iff hbranch).mpr hneeded⟩

/-- What the branches use, taken together. -/
private theorem exists_usedParameters {bindings : List Binding} (hr : ∀ b ∈ bindings, b.Resolved)
    {name : String} :
    (∃ b ∈ bindings, name ∈ usedParameters b)
      ↔ (∃ b ∈ bindings, ∃ m ∈ b.mappings, ∃ k : Int, m.source = .topic k ∧ name = s!"topic_{k}")
        ∨ ((∃ b ∈ bindings, b.condition ≠ none) ∧ name ∈ guardParameters)
        ∨ ((∃ b ∈ bindings, neededFields b ≠ []) ∧ name = "data") := by
  have hused : ∀ b ∈ bindings, (name ∈ usedParameters b
      ↔ (∃ m ∈ b.mappings, ∃ k : Int, m.source = .topic k ∧ name = s!"topic_{k}")
        ∨ (b.condition ≠ none ∧ name ∈ guardParameters)
        ∨ (neededFields b ≠ [] ∧ name = "data")) := by
    intro b hb
    rw [mem_usedParameters, guard?_of_resolved (hr b hb)]
  constructor
  · rintro ⟨b, hb, hname⟩
    rcases (hused b hb).mp hname with htopic | ⟨hc, hseen⟩ | ⟨hn, hdata⟩
    · exact .inl ⟨b, hb, htopic⟩
    · exact .inr (.inl ⟨⟨b, hb, hc⟩, hseen⟩)
    · exact .inr (.inr ⟨⟨b, hb, hn⟩, hdata⟩)
  · rintro (⟨b, hb, htopic⟩ | ⟨⟨b, hb, hc⟩, hseen⟩ | ⟨⟨b, hb, hn⟩, hdata⟩)
    · exact ⟨b, hb, (hused b hb).mpr (.inl htopic)⟩
    · exact ⟨b, hb, (hused b hb).mpr (.inr (.inl ⟨hc, hseen⟩))⟩
    · exact ⟨b, hb, (hused b hb).mpr (.inr (.inr ⟨hn, hdata⟩))⟩

/-- A parameter of the reaction has a name in the source exactly if it is the topic that is
dispatched on, a topic that some mapping reads, the data where a branch takes it apart, the emitter
where a list of allowed addresses is asked for it, or something that the guard of a binding can see.
The code of the operation never has one. A branch takes the data apart exactly if an argument is
read from there, or if there is a guard and a field with a name. -/
theorem ofSpec_signature {spec : Spec} {plan : Plan} (hr : ∀ b ∈ spec.bindings, b.Resolved)
    (hp : (ofSpec spec).outcome = .ok plan) :
    Within ["    function react(", plan.signature, "    ) external override vmOnly \x7b"] plan.render
      ∧ (∀ name, name ∈ parameterNames plan.signature
          ↔ name = "topic_0"
            ∨ (∃ b ∈ spec.bindings, ∃ m ∈ b.mappings, ∃ k : Int,
                m.source = .topic k ∧ name = s!"topic_{k}")
            ∨ ((∃ br ∈ plan.dispatch.branches, ∃ d, Statement.decode d ∈ br.statements)
                ∧ name = "data")
            ∨ (spec.settings.applicable ≠ [] ∧ name = "_contract")
            ∨ ((∃ b ∈ spec.bindings, b.condition ≠ none)
                ∧ name ∈ ["chain_id", "_contract", "topic_1", "topic_2", "topic_3",
                  "block_number"]))
      ∧ "op_code" ∉ parameterNames plan.signature
      ∧ ∀ (i : Nat) (b : Binding) (br : Branch), spec.bindings[i]? = some b →
          plan.dispatch.branches[i]? = some br →
          ((∃ d, Statement.decode d ∈ br.statements)
            ↔ (∃ m ∈ b.mappings, ∃ field, m.source = .data field)
              ∨ (b.condition ≠ none ∧ ∃ p ∈ b.event.dataInputs, p.name ≠ "")) := by
  obtain ⟨-, origins, branches, -, hall, rfl⟩ := ofSpec_eq_ok.mp hp
  have hused : ∀ name, name ∈ (assemble spec origins branches).reactParameters.used
      ↔ name = "topic_0"
        ∨ (∃ b ∈ spec.bindings, ∃ m ∈ b.mappings, ∃ k : Int,
            m.source = .topic k ∧ name = s!"topic_{k}")
        ∨ ((∃ br ∈ branches, ∃ d, Statement.decode d ∈ br.statements) ∧ name = "data")
        ∨ (spec.settings.applicable ≠ [] ∧ name = "_contract")
        ∨ ((∃ b ∈ spec.bindings, b.condition ≠ none) ∧ name ∈ guardParameters) := by
    intro name
    rw [mem_used, exists_usedParameters hr, exists_decode_branches hall]
    simp only [or_assoc, or_left_comm, or_comm]
  refine ⟨signature_within _, ?_, ?_, ?_⟩
  · intro name
    rw [parameterNames_signature, ReactParameters.named, List.mem_filter, decide_eq_true_eq, hused]
    -- Whatever is used is a parameter.
    refine and_iff_right_of_imp ?_
    rintro (rfl | ⟨b, hb, m, hm, k, hs, rfl⟩ | ⟨-, rfl⟩ | ⟨-, rfl⟩ | ⟨-, hseen⟩)
    · decide
    · exact topic_mem_all (hr b hb) hm hs
    · decide
    · decide
    · have hguard : ∀ seen ∈ guardParameters, seen ∈ ReactParameters.all.map (·.2) := by decide
      exact hguard name hseen
  · rw [parameterNames_signature, ReactParameters.named, List.mem_filter, decide_eq_true_eq, hused]
    rintro ⟨-, heq | ⟨-, -, -, -, k, -, heq⟩ | ⟨-, heq⟩ | ⟨-, heq⟩ | ⟨-, hseen⟩⟩
    · exact absurd heq (by decide)
    · exact ne_topicParameter (by decide) k heq
    · exact absurd heq (by decide)
    · exact absurd heq (by decide)
    · exact absurd hseen (by decide)
  · intro i b br hb hbr
    obtain ⟨br', hbr', hbranch⟩ := branch_getElem? hall hb
    obtain rfl : br' = br := Option.some.inj (hbr'.symm.trans hbr)
    rw [exists_decode_iff hbranch, neededFields_ne_nil (hr b (List.mem_of_getElem? hb))]

end Plan

/-- A transfer that is passed on whatever is transferred. -/
def plainCredit : Binding := { transferCredit with condition := none }

def plainSpec : Spec := { transferSpec with bindings := [plainCredit] }

def plainBranch : Branch :=
  { transferBranch with
    statements := [
      .decode ⟨[("uint256", some "evt_value")]⟩,
      .emit ⟨"credit(address,uint256)", ["address(uint160(topic_1))", "evt_value"]⟩] }

def plainPlan : Plan := Plan.assemble plainSpec (Origins.ofAny 1) [plainBranch]

private theorem plainCredit_resolved : plainCredit.Resolved := by
  obtain ⟨hadmissible, -⟩ := Binding.resolve_eq_ok.mp resolve_transferCredit
  refine ⟨transferEntry, creditEntry, _, _, transferCredit.mappings, none,
    event_ofEntry_transferEntry, callee_ofEntry_creditEntry, Binding.resolve_eq_ok.mpr ⟨?_, rfl⟩⟩
  exact ⟨hadmissible.fitting, hadmissible.distinct, nofun⟩

private theorem Plan.ofSpec_plainSpec : (ofSpec plainSpec).outcome = .ok plainPlan := by
  refine ofSpec_eq_ok.mpr ⟨rfl, Origins.ofAny 1, [plainBranch], rfl, ?_, rfl⟩
  change List.Forall₂ _ [(plainCredit, 0)] [plainBranch]
  refine .cons (branch_eq_ok.mpr ⟨rfl, ["address(uint160(topic_1))", "evt_value"], ?_, rfl⟩) .nil
  exact arguments_eq_ok.mpr (.cons topicExpression_address (.cons rfl .nil))

/-- Without a guard, nothing has a name but the topics and the data that are read. -/
theorem plainPlan_signature :
    (∀ b ∈ plainSpec.bindings, b.Resolved) ∧ (Plan.ofSpec plainSpec).outcome = .ok plainPlan
      ∧ "topic_1" ∈ parameterNames plainPlan.signature
      ∧ "block_number" ∉ parameterNames plainPlan.signature := by
  have hr : ∀ b ∈ plainSpec.bindings, b.Resolved := by
    intro b hb
    rw [List.mem_singleton.mp hb]
    exact plainCredit_resolved
  obtain ⟨-, hnames, -⟩ := Plan.ofSpec_signature hr Plan.ofSpec_plainSpec
  refine ⟨hr, Plan.ofSpec_plainSpec, (hnames _).mpr ?_, fun h => ?_⟩
  · exact .inr (.inl ⟨plainCredit, List.mem_singleton_self _, _, List.mem_cons_self, 1, rfl, rfl⟩)
  · rcases (hnames _).mp h with heq | ⟨-, -, -, -, k, -, heq⟩ | ⟨-, heq⟩ | ⟨-, heq⟩
      | ⟨⟨b, hb, hcondition⟩, -⟩
    · exact absurd heq (by decide)
    · exact Plan.ne_topicParameter (by decide) k heq
    · exact absurd heq (by decide)
    · exact absurd heq (by decide)
    · rw [List.mem_singleton.mp hb] at hcondition
      exact hcondition rfl

end ReactiveContract
