import ReactiveContract.Proofs.Binding.Idempotence
import ReactiveContract.Proofs.Contract.Composition
import ReactiveContract.Proofs.Solidity.Layout
/-! The dispatch of a plan can be read back from its text: whatever stands in its statements, its
unindented lines are the heads of its branches, and what is below a head are the statements. -/
namespace ReactiveContract
open Abi Solidity Text

theorem Abi.unbroken_of_canonical {type : String} (h : Canonical type) : Unbroken type :=
  unbroken_of_isAlphanum h.isAlphanum

private theorem Abi.unbroken_signatureOf {name : String} {types : List String}
    (hname : Unbroken name)
    (htypes : ∀ t ∈ types, Canonical t) : Unbroken (signatureOf name types) := by
  have hjoined : Unbroken (",".intercalate types) :=
    unbroken_intercalate (by decide) fun t ht => unbroken_of_canonical (htypes t ht)
  exact ((hname.append (by decide)).append hjoined).append (by decide)

private theorem Source.unbroken_settledLiteral {literal : String}
    (h : Expression.Acceptable literal)
    (type : String) : Unbroken (settledLiteral type literal) := by
  rcases settledLiteral_cases type literal with heq | ⟨a, heq⟩ <;> rw [heq]
  · exact unbroken_of_isSingle h.2
  · exact unbroken_of_isAlphanum fun _ => Address.isAlphanum_text

/-- The names that a binding has from its interfaces have no line breaks. -/
structure Binding.NamesUnbroken (b : Binding) : Prop where
  callee : Unbroken b.callee.name
  fields : ∀ p ∈ b.event.inputs, Unbroken p.name

namespace Plan

/-- The line that a branch begins with. -/
def headLine (index : Nat) : String :=
  (if index = 0 then "if (" else "\x7d else if (") ++ s!"topic_0 == EVENT_{index}_TOPIC_0) \x7b"

theorem unbroken_localName {field : String} (h : Unbroken field) : Unbroken (localName field) := by
  have hstem : Unbroken "evt_" := by decide
  exact hstem.append h

/-- What is put into the statements of a branch has no line breaks: not the names, and nothing that
has been accepted or is made of types. -/
private theorem unbroken_statementTexts {b : Binding} (h : b.Resolved) (hn : b.NamesUnbroken) :
    ∀ text ∈ b.statementTexts, Unbroken text := by
  refine List.forall_mem_append.mpr ⟨List.forall_mem_append.mpr ⟨List.forall_mem_append.mpr
    ⟨?_, ?_⟩, fun text htext => ?_⟩, fun text htext => ?_⟩
  · rw [List.forall_mem_singleton, h.callee_declared.signature_eq]
    exact unbroken_signatureOf hn.callee (List.forall_mem_map.mpr h.callee_declared.canonical)
  · refine List.forall_mem_flatMap.mpr fun p hp => ?_
    have hinput : p ∈ b.event.inputs := List.mem_of_mem_filter hp
    exact List.forall_mem_cons.mpr ⟨unbroken_of_canonical (h.event_declared.canonical p hinput),
      List.forall_mem_singleton.mpr (unbroken_localName (hn.fields p hinput))⟩
  · obtain ⟨hcondition, -⟩ := Option.filter_eq_some_iff.mp (Option.mem_toList.mp htext)
    obtain ⟨given, hgiven, rfl⟩ := h.condition_acceptable hcondition
    exact unbroken_of_isSingle hgiven.2
  · obtain ⟨m, hm, htext⟩ := List.mem_filterMap.mp htext
    obtain ⟨input, -, -, hsource⟩ := h.exists_settled hm
    unfold Mapping.text? at htext
    cases hs : m.source with
    | fixed literal =>
      rw [hs] at hsource htext
      obtain ⟨given, hgiven, hliteral⟩ := hsource
      obtain rfl : literal = text := Option.some.inj htext
      rw [hliteral]
      exact Source.unbroken_settledLiteral hgiven input.type
    | topic index =>
      rw [hs] at htext
      cases htext
    | data field =>
      rw [hs] at hsource htext
      obtain ⟨-, p, hp, -⟩ := hsource
      obtain rfl : p.name = field := by simpa using List.find?_some hp
      rw [← Option.some.inj htext]
      exact unbroken_localName (hn.fields p (List.mem_of_find?_eq_some hp))
    | unbound zero =>
      rw [hs] at hsource htext
      obtain ⟨t, -, -, rfl⟩ := hsource
      rw [← Option.some.inj htext]
      exact t.composed_zero.unbroken

private theorem head_eq_headLine {b : Branch} {index : Nat}
    (h : b.topicConstant = eventConstantName index) :
    b.head (decide (index = 0)) = headLine index := by
  have hcondition : b.condition ++ ") \x7b" = s!"topic_0 == EVENT_{index}_TOPIC_0) \x7b" :=
    calc b.condition ++ ") \x7b"
        = "topic_0 == " ++ ("EVENT_" ++ toString index ++ "_TOPIC_0") ++ ") \x7b" := by
          rw [Branch.condition, h]
          rfl
      _ = ("topic_0 == " ++ "EVENT_") ++ toString index ++ ("_TOPIC_0" ++ ") \x7b") := by
          simp only [String.append_assoc]
      _ = s!"topic_0 == EVENT_{index}_TOPIC_0) \x7b" := rfl
  rw [Branch.head, String.append_assoc, hcondition, headLine]
  simp only [decide_eq_true_eq]

/-- The sections of a dispatch whose branches are numbered. -/
private theorem layout_numbered {branches : List Branch} (hne : branches ≠ [])
    (h : ∀ i b, branches[i]? = some b → b.topicConstant = eventConstantName i) :
    layout (Dispatch.mk branches).render
      = ([], (branches.zipIdx.map fun (b, i) => (headLine i, b.statements.flatMap Statement.render))
          ++ [("\x7d", [])]) := by
  obtain ⟨first, rest, rfl⟩ := List.exists_cons_of_ne_nil hne
  have hfirst : first.head true = headLine 0 := head_eq_headLine (h 0 first rfl)
  have hrest : rest.map (fun b => (b.head false, b.inner))
      = (rest.zipIdx 1).map fun (b, i) => (headLine i, b.inner) := by
    refine List.ext_getElem (by simp) fun i hi _ => ?_
    rw [List.length_map] at hi
    have hhead : rest[i].head false = headLine (1 + i) := by
      have hnonzero : decide (1 + i = 0) = false := decide_eq_false (by omega)
      have hi' : (first :: rest)[1 + i]? = some rest[i] := by
        rw [Nat.add_comm, List.getElem?_cons_succ, List.getElem?_eq_getElem hi]
      rw [← hnonzero, head_eq_headLine (h (1 + i) _ hi')]
    simp [hhead]
  rw [Dispatch.layout_render rfl, hfirst, hrest]
  rfl

/-- A dispatch is read back from its text. The unindented lines are one head for each branch in
order, and the closing brace; the lines below a head are those of the statements of the branch. -/
theorem ofSpec_layout {spec : Spec} {plan : Plan} (hr : ∀ b ∈ spec.bindings, b.Resolved)
    (hn : ∀ b ∈ spec.bindings, b.NamesUnbroken) (hp : (ofSpec spec).outcome = .ok plan) :
    linesOf (joinLines plan.dispatch.render) = plan.dispatch.render
      ∧ plan.dispatch.branches.length = spec.bindings.length
      ∧ plan.dispatch.render.filter (dedent? · = none)
        = (List.range spec.bindings.length).map headLine ++ ["\x7d"]
      ∧ layout plan.dispatch.render
        = ([], (plan.dispatch.branches.zipIdx.map fun (b, i) =>
            (headLine i, b.statements.flatMap Statement.render)) ++ [("\x7d", [])]) := by
  obtain ⟨hcheck, origins, branches, -, hall, rfl⟩ := ofSpec_eq_ok.mp hp
  have hlength := length_branches hall
  have hbranch : ∀ i br, branches[i]? = some br →
      ∃ b ∈ spec.bindings, branch i b = .ok br := by
    intro i br hbr
    obtain ⟨hi, rfl⟩ := List.getElem?_eq_some_iff.mp hbr
    have hlt : i < spec.bindings.length := hlength ▸ hi
    obtain ⟨br, hbr', hb⟩ := branch_getElem? hall (List.getElem?_eq_getElem hlt)
    rw [hbr] at hbr'
    exact ⟨_, List.getElem_mem hlt, Option.some.inj hbr' ▸ hb⟩
  have hnumbered : ∀ i br, branches[i]? = some br → br.topicConstant = eventConstantName i := by
    intro i br hbr
    obtain ⟨b, -, hb⟩ := hbranch i br hbr
    obtain ⟨-, args, -, rfl⟩ := branch_eq_ok.mp hb
    rfl
  have hne : branches ≠ [] := by
    rintro rfl
    have hnil : spec.bindings = [] := List.length_eq_zero_iff.mp hlength.symm
    rw [check, if_pos hnil] at hcheck
    cases hcheck
  have hlayout := layout_numbered hne hnumbered
  have hunbroken : ∀ line ∈ (Dispatch.mk branches).render, Unbroken line := by
    intro line hline
    refine (Dispatch.composed_render (fun br hbr => ?_) line hline).unbroken
    obtain ⟨i, hi⟩ := List.getElem?_of_mem hbr
    obtain ⟨b, hb, hbranch⟩ := hbranch i br hi
    have htexts := unbroken_statementTexts (hr b hb) (hn b hb)
    rw [hnumbered i br hi]
    exact ⟨composed_eventConstantName i,
      composed_texts_of_branch (fun text htext => .given (htexts text htext)) hbranch⟩
  have hrender : (Dispatch.mk branches).render ≠ [] := by
    intro hnil
    rw [hnil] at hlayout
    simp [layout] at hlayout
  refine ⟨linesOf_joinLines hrender hunbroken, hlength, ?_, hlayout⟩
  change (Dispatch.mk branches).render.filter _ = _
  rw [filter_unindented, hlayout, List.map_append, List.map_map]
  change branches.zipIdx.map (fun p => headLine p.2) ++ ["\x7d"] = _
  rw [map_zipIdx_index, hlength]

end Plan

/-- An amount that is taken from a text which looks like the head of a branch. -/
def headLiteral : String := "uint256(keccak256(\"\x7d else if (topic_0 == EVENT_1_TOPIC_0) \x7b\"))"

/-- A credit of this amount, with a brace in its guard. -/
def headCredit : Binding :=
  { transferCredit with
    mappings := [⟨"who", "address", .topic 1⟩, ⟨"amount", "uint256", .fixed headLiteral⟩]
    condition := some "topic_2 != uint256(keccak256(\"\x7d\"))" }

private theorem headCredit_resolved : headCredit.Resolved := by
  refine ⟨transferEntry, creditEntry, _, _, headCredit.mappings, headCredit.condition,
    event_ofEntry_transferEntry, callee_ofEntry_creditEntry, ?_⟩
  refine Binding.resolve_eq_ok.mpr ⟨⟨.cons ?_ (.cons ?_ .nil), by decide, ?_⟩, rfl⟩
  · exact ⟨⟨.address, ValueType.ofText?_address, rfl⟩, by decide, by decide, by decide, by decide,
      by decide⟩
  · exact ⟨⟨.uint 256, ValueType.ofText?_uint256, rfl⟩, by decide, by decide, rfl⟩
  · intro text htext
    cases htext
    exact ⟨by decide, rfl⟩

def headSpec : Spec := { transferSpec with bindings := [headCredit, transferCredit] }

def headPlan : Plan :=
  Plan.assemble headSpec (Origins.ofAny 2) [
    { topicConstant := "EVENT_0_TOPIC_0"
      statements := [
        .decode ⟨[("uint256", some "evt_value")]⟩,
        .require ⟨"topic_2 != uint256(keccak256(\"\x7d\"))", "Condition not met"⟩,
        .emit ⟨"credit(address,uint256)", ["address(uint160(topic_1))", headLiteral]⟩] },
    { transferBranch with topicConstant := "EVENT_1_TOPIC_0" }]

private theorem Plan.ofSpec_headSpec : (ofSpec headSpec).outcome = .ok headPlan := by
  refine ofSpec_eq_ok.mpr ⟨rfl, Origins.ofAny 2, _, rfl, ?_, rfl⟩
  change List.Forall₂ _ [(headCredit, 0), (transferCredit, 1)] _
  refine .cons ?_ (.cons (branch_transferCredit_index 1) .nil)
  refine branch_eq_ok.mpr ⟨rfl, ["address(uint160(topic_1))", headLiteral], ?_, rfl⟩
  exact arguments_eq_ok.mpr (.cons topicExpression_address (.cons rfl .nil))

/-- The amount does not pass for the head that it looks like. -/
theorem headPlan_layout :
    (∀ b ∈ headSpec.bindings, b.Resolved) ∧ (∀ b ∈ headSpec.bindings, b.NamesUnbroken)
      ∧ (Plan.ofSpec headSpec).outcome = .ok headPlan
      ∧ (linesOf (joinLines headPlan.dispatch.render)).filter (dedent? · = none)
        = ["if (topic_0 == EVENT_0_TOPIC_0) \x7b", "\x7d else if (topic_0 == EVENT_1_TOPIC_0) \x7b",
          "\x7d"]
      ∧ (layout (linesOf (joinLines headPlan.dispatch.render))).2[0]?
        = some ("if (topic_0 == EVENT_0_TOPIC_0) \x7b", [
            "uint256 evt_value = abi.decode(data, (uint256));",
            "require(topic_2 != uint256(keccak256(\"\x7d\")), \"Condition not met\");",
            "bytes memory payload = abi.encodeWithSignature(",
            "    \"credit(address,uint256)\",",
            "    address(uint160(topic_1)),",
            "    uint256(keccak256(\"\x7d else if (topic_0 == EVENT_1_TOPIC_0) \x7b\"))",
            ");",
            "emit Callback(DESTINATION_CHAIN_ID, DESTINATION_CONTRACT, CALLBACK_GAS_LIMIT, payload);"
            ]) := by
  have hr : ∀ b ∈ headSpec.bindings, b.Resolved :=
    List.forall_mem_cons.mpr
      ⟨headCredit_resolved, List.forall_mem_singleton.mpr transferCredit_resolved⟩
  have hn : ∀ b ∈ headSpec.bindings, b.NamesUnbroken :=
    List.forall_mem_cons.mpr
      ⟨⟨by decide, by decide⟩, List.forall_mem_singleton.mpr ⟨by decide, by decide⟩⟩
  obtain ⟨hlines, -, hheads, hlayout⟩ := Plan.ofSpec_layout hr hn Plan.ofSpec_headSpec
  refine ⟨hr, hn, Plan.ofSpec_headSpec, ?_, ?_⟩
  · rw [hlines, hheads]
    rfl
  · rw [hlines, hlayout]
    rfl

end ReactiveContract
