import ReactiveContract.Proofs.Contract.Dispatch
/-! The local variables that a branch takes out of the data. They are named for the fields, so two
inputs of one name share a variable. -/
namespace ReactiveContract
open Abi Solidity

namespace Plan

/-- The only decoding of a branch is the one that its binding needs. -/
theorem decode_mem_statements {b : Binding} {index : Nat} {br : Branch}
    (hbr : branch index b = .ok br) {d : DataDecoding} :
    .decode d ∈ br.statements ↔ decoding? b = some d := by
  obtain ⟨-, args, -, rfl⟩ := branch_eq_ok.mp hbr
  have hguard : Statement.decode d ∉ guarding b := by
    unfold guarding
    split <;> simp
  simp only [decoding_eq, List.mem_append, hguard, List.mem_singleton, reduceCtorEq, or_false]
  cases decoding? b <;> simp [eq_comm]

theorem decoding?_eq_some {b : Binding} {d : DataDecoding} :
    decoding? b = some d ↔ neededFields b ≠ [] ∧ d = unpacking b := by
  unfold decoding?
  by_cases hn : neededFields b = [] <;> simp [hn, eq_comm]

/-- The locals are distinct exactly if no needed field stands twice among the inputs. -/
theorem nodup_locals_iff {b : Binding} (h : b.Resolved) :
    ((unpacking b).fields.filterMap (·.2)).Nodup
      ↔ b.event.dataInputs.Pairwise fun p q => p.name = q.name → ¬ b.Needs p.name := by
  rw [unpacking, List.filterMap_map, List.Nodup, List.pairwise_filterMap]
  refine List.Pairwise.iff_of_mem fun {p q} hp _ => ?_
  rw [← mem_neededFields h hp]
  constructor
  · intro hne hname hneeded
    have hlocal : localName p.name = localName q.name := congrArg localName hname
    have hq : q.name ∈ neededFields b := hname ▸ hneeded
    exact hne _ (if_pos hneeded) _ (if_pos hq) hlocal
  · intro hunneeded name hpn name' hqn heq
    obtain ⟨hneeded, rfl⟩ : p.name ∈ neededFields b ∧ localName p.name = name := by
      simpa using hpn
    obtain ⟨-, rfl⟩ : q.name ∈ neededFields b ∧ localName q.name = name' := by
      simpa using hqn
    exact hunneeded (localName_injective heq) hneeded

/-- The components that declare the local of a needed field are the inputs of its name. -/
private theorem filter_components {b : Binding} {field : String}
    (hneeded : field ∈ neededFields b) :
    (unpacking b).fields.filter (·.2 = some (localName field))
      = (b.event.dataInputs.filter (·.name = field)).map fun p =>
          (p.type, some (localName field)) := by
  have hsame : ∀ p : EventInput, decide ((if p.name ∈ neededFields b then some (localName p.name)
      else none) = some (localName field)) = decide (p.name = field) := fun p =>
    decide_eq_decide.mpr (component_eq_iff hneeded p)
  rw [unpacking, List.filter_map]
  simp only [Function.comp_def, hsame]
  refine List.map_congr_left fun p hp => ?_
  have hname : p.name = field := by simpa using (List.mem_filter.mp hp).2
  rw [hname, if_pos hneeded]

/-- What a mapping reads is declared by one component, and with the type of the mapping, exactly
if one input has the name of the field. -/
theorem declared_once_iff {b : Binding} (h : b.Resolved) {m : Mapping} {field : String}
    (hm : m ∈ b.mappings) (hs : m.source = .data field) :
    (unpacking b).fields.filter (·.2 = some (localName field))
        = [(m.type, some (localName field))]
      ↔ (b.event.dataInputs.filter (·.name = field)).length = 1 := by
  rw [filter_components (neededFields_of_source hm hs)]
  constructor
  · intro hone
    have hlen := congrArg List.length hone
    rwa [List.length_map] at hlen
  · intro hlen
    obtain ⟨p, hp⟩ := List.length_eq_one_iff.mp hlen
    have hfirst : b.event.dataInputs.find? (·.name = field) = some p := by
      rw [← List.head?_filter, hp]
      rfl
    -- The resolver has checked the first input of the name, which is the only one.
    obtain ⟨q, hq, htype⟩ := find?_read h hm hs
    obtain rfl : p = q := Option.some.inj (hfirst.symm.trans hq)
    rw [hp, List.map_singleton, htype]

/-- In the branch for a resolved binding, the locals of the decoding are distinct exactly if no
field that is needed has the name of another input in the data; and what a mapping reads is
declared once, with the type of the mapping, exactly if one such input has the name. -/
theorem ofSpec_declares_iff {spec : Spec} {plan : Plan} (hp : (ofSpec spec).outcome = .ok plan)
    {i : Nat} {b : Binding} (hb : spec.bindings[i]? = some b) (h : b.Resolved) :
    ∃ br, plan.dispatch.branches[i]? = some br
      ∧ (∀ d, .decode d ∈ br.statements →
        ((d.fields.filterMap (·.2)).Nodup
          ↔ b.event.dataInputs.Pairwise fun p q => p.name = q.name → ¬ b.Needs p.name))
      ∧ ∀ m ∈ b.mappings, ∀ field, m.source = .data field →
        ∃ d, .decode d ∈ br.statements
          ∧ (d.fields.filter (·.2 = some (localName field)) = [(m.type, some (localName field))]
            ↔ (b.event.dataInputs.filter (·.name = field)).length = 1) := by
  obtain ⟨-, origins, branches, -, hall, rfl⟩ := ofSpec_eq_ok.mp hp
  obtain ⟨br, hbr, hbranch⟩ := branch_getElem? hall hb
  refine ⟨br, hbr, fun d hd => ?_, fun m hm field hs => ?_⟩
  · obtain ⟨-, rfl⟩ := decoding?_eq_some.mp ((decode_mem_statements hbranch).mp hd)
    exact nodup_locals_iff h
  · have hneeded : neededFields b ≠ [] := List.ne_nil_of_mem (neededFields_of_source hm hs)
    have hdecoding : decoding? b = some (unpacking b) := decoding?_eq_some.mpr ⟨hneeded, rfl⟩
    exact ⟨unpacking b, (decode_mem_statements hbranch).mpr hdecoding, declared_once_iff h hm hs⟩

theorem transferPlan_declares :
    (ofSpec transferSpec).outcome = .ok transferPlan
      ∧ transferSpec.bindings[0]? = some transferCredit ∧ transferCredit.Resolved
      ∧ ∃ br d, transferPlan.dispatch.branches[0]? = some br ∧ .decode d ∈ br.statements
        ∧ (d.fields.filterMap (·.2)).Nodup
        ∧ d.fields.filter (·.2 = some "evt_value") = [("uint256", some "evt_value")] := by
  have hp := ofSpec_transferSpec
  obtain ⟨br, hbr, hdistinct, hread⟩ :=
    ofSpec_declares_iff (i := 0) hp rfl transferCredit_resolved
  have hm : ⟨"amount", "uint256", .data "value"⟩ ∈ transferCredit.mappings := by decide
  obtain ⟨d, hd, hone⟩ := hread _ hm "value" rfl
  have hsingle : transferCredit.event.dataInputs = [⟨"value", "uint256", false, 1⟩] := rfl
  refine ⟨hp, rfl, transferCredit_resolved, br, d, hbr, hd, ?_, hone.mpr rfl⟩
  rw [hdistinct d hd, hsingle]
  exact List.pairwise_singleton _ _

end Plan

/-- An event with two inputs of one name in its data, of which a function takes one. -/
def repeatedField : Binding :=
  { event := {
      name := "E"
      inputs := [⟨"a", "uint256", false, 0⟩, ⟨"a", "uint256", false, 1⟩]
      signature := "E(uint256,uint256)"
      topic0 := topicOf "E(uint256,uint256)".toUTF8.data.toList }
    callee := {
      name := "f"
      inputs := [⟨"x", "uint256", 0⟩]
      signature := "f(uint256)"
      mutability := "nonpayable" }
    mappings := [⟨"x", "uint256", .data "a"⟩] }

def repeatedEntry : Entry :=
  { kind := some "event", name := "E"
    inputs := [
      { name := "a", type := some "uint256" }, { name := "a", type := some "uint256" }] }

def takingEntry : Entry :=
  { kind := some "function", name := "f", inputs := [{ name := "x", type := some "uint256" }] }

private theorem repeatedField_resolved : repeatedField.Resolved := by
  have hevent : Event.ofEntry repeatedEntry = .ok repeatedField.event := by
    refine Event.ofEntry_eq_ok.mpr ⟨repeatedEntry.inputs.zip ["uint256", "uint256"], _, ?_,
      Text.utf8?_of_unmarked (by decide), rfl⟩
    simp only [Entry.canonicalTypes, repeatedEntry, ValueType.ofText?_uint256]
    rfl
  have hcallee : Callee.ofEntry takingEntry = .ok repeatedField.callee := by
    simp only [Callee.ofEntry, Entry.canonicalTypes, takingEntry, ValueType.ofText?_uint256]
    rfl
  have hresolve : Binding.resolve repeatedField.event repeatedField.callee repeatedField.mappings
      none = .ok repeatedField := by
    refine Binding.resolve_eq_ok.mpr ⟨⟨.cons ?_ .nil, by decide, by simp⟩, rfl⟩
    exact ⟨⟨.uint 256, ValueType.ofText?_uint256, rfl⟩, by decide, by decide, _, rfl, rfl, rfl⟩
  exact ⟨repeatedEntry, takingEntry, _, _, repeatedField.mappings, none, hevent, hcallee, hresolve⟩

def repeatedSpec : Spec := { settings := transferSpec.settings, bindings := [repeatedField] }

def repeatedDecoding : DataDecoding := ⟨[("uint256", some "evt_a"), ("uint256", some "evt_a")]⟩

def repeatedPlan : Plan :=
  Plan.assemble repeatedSpec (Origins.ofAny 1) [{
    topicConstant := "EVENT_0_TOPIC_0"
    statements := [.decode repeatedDecoding, .emit ⟨"f(uint256)", ["evt_a"]⟩] }]

/-- One local is declared twice for them. -/
theorem repeatedField_collides :
    repeatedField.Resolved ∧ (Plan.ofSpec repeatedSpec).outcome = .ok repeatedPlan
      ∧ repeatedPlan.dispatch.branches.map (·.statements)
        = [[.decode repeatedDecoding, .emit ⟨"f(uint256)", ["evt_a"]⟩]]
      ∧ ¬ (repeatedDecoding.fields.filterMap (·.2)).Nodup
      ∧ (repeatedDecoding.fields.filter (·.2 = some "evt_a")).length = 2
      ∧ repeatedDecoding.render
        = ["(uint256 evt_a, uint256 evt_a) = abi.decode(data, (uint256, uint256));"] := by
  refine ⟨repeatedField_resolved, Plan.ofSpec_eq_ok.mpr ⟨rfl, Origins.ofAny 1, _, rfl, ?_, rfl⟩,
    rfl, by decide, by decide, by decide⟩
  change List.Forall₂ _ [(repeatedField, 0)] _
  refine .cons (Plan.branch_eq_ok.mpr ⟨rfl, ["evt_a"], ?_, rfl⟩) .nil
  exact Plan.arguments_eq_ok.mpr (.cons rfl .nil)

end ReactiveContract
