import ReactiveContract.Generation
import ReactiveContract.Proofs.Contract.Emission
import ReactiveContract.Proofs.Solidity.Literal
import ReactiveContract.Proofs.Text.Joined
/-! What the names of an interface do to the source that is generated. -/
namespace ReactiveContract
open Abi Solidity Text

namespace Solidity

private theorem isBland_of_isAlphanum {c : Char} (h : c.isAlphanum = true) : isBland c = true := by
  by_contra hn
  have hc : c = '"' ∨ c = '\\' ∨ c = '\n' ∨ c = '\r' := by
    simp only [isBland, Expression.isLineBreak, Bool.and_eq_true, bne_iff_ne, Bool.not_eq_true',
      Bool.or_eq_false_iff, decide_eq_false_iff_not] at hn
    tauto
  rcases hc with rfl | rfl | rfl | rfl <;> exact absurd h (by decide)

private theorem isBland_intercalate {types : List String}
    (h : ∀ t ∈ types, ∀ c ∈ t.toList, isBland c = true) :
    ∀ c ∈ (",".intercalate types).toList, isBland c = true := by
  have hcomma : ∀ c ∈ ",".toList, isBland c = true := by
    intro c hc
    obtain rfl : c = ',' := List.mem_singleton.mp hc
    decide
  rw [String.toList_intercalate]
  exact forall_mem_intercalate hcomma (List.forall_mem_map.mpr h)

end Solidity

/-- The quoted signature of a function is one literal exactly if its name can stand in one. -/
private theorem Abi.Callee.isLiteral_signature {f : Callee} (h : f.Declared) :
    IsLiteral ("\"" ++ f.signature ++ "\"") ↔ isQuotable f.name.toList = true := by
  have htypes : ∀ c ∈ (",".intercalate (f.inputs.map (·.type))).toList, isBland c = true := by
    apply isBland_intercalate
    intro t ht c hc
    obtain ⟨p, hp, rfl⟩ := List.mem_map.mp ht
    exact isBland_of_isAlphanum ((h.canonical p hp).isAlphanum c hc)
  have hrest : ∀ c ∈ (",".intercalate (f.inputs.map (·.type))).toList ++ [')'],
      isBland c = true := by
    intro c hc
    rcases List.mem_append.mp hc with hc | hc
    · exact htypes c hc
    · rw [List.mem_singleton.mp hc]
      decide
  have htext : f.signature.toList
      = f.name.toList ++ '(' :: ((",".intercalate (f.inputs.map (·.type))).toList ++ [')']) := by
    rw [h.signature_eq, signatureOf]
    simp only [String.toList_append, List.append_assoc]
    rfl
  exact isLiteral_iff (by decide) hrest htext

namespace Plan

/-- The local variables that statements declare. -/
def declaredLocals (statements : List Statement) : List String :=
  statements.flatMap fun s =>
    match s with
    | .decode d => d.fields.filterMap (·.2)
    | _ => []

/-- The local variables that the call of a binding passes on. -/
def passedLocals (b : Binding) : List String :=
  b.mappings.filterMap fun m =>
    match m.source with
    | .data field => some (localName field)
    | _ => none

theorem isName_localName (field : String) :
    isName (localName field) = field.toList.all isNameCharacter := by
  have hcs : (localName field).toList = 'e' :: 'v' :: 't' :: '_' :: field.toList := by
    rw [localName, String.toList_append]
    rfl
  unfold isName
  rw [hcs]
  rfl

theorem mem_declaredLocals {b : Binding} (h : b.Resolved) {index : Nat} {br : Branch}
    (hbr : branch index b = .ok br) {name : String} :
    name ∈ declaredLocals br.statements
      ↔ ∃ p ∈ b.event.dataInputs, b.Needs p.name ∧ name = localName p.name := by
  obtain ⟨-, args, -, rfl⟩ := branch_eq_ok.mp hbr
  -- Neither the guard nor the call declares anything.
  have hdeclared : declaredLocals (decoding b ++ guarding b ++ [.emit ⟨b.callee.signature, args⟩])
      = declaredLocals (decoding b) := by
    unfold declaredLocals
    rw [guarding_eq h, List.flatMap_append, List.flatMap_append]
    cases b.condition <;> simp
  rw [hdeclared, decoding_eq]
  cases hd : decoding? b with
  | none =>
    have hnone : ¬ ∃ p ∈ b.event.dataInputs, b.Needs p.name := by
      rw [← decoding?_isSome h, hd]
      simp
    simp only [declaredLocals, Option.map_none, Option.toList_none, List.flatMap_nil,
      List.not_mem_nil, false_iff]
    intro hp
    obtain ⟨p, hp, hneeds, -⟩ := hp
    exact hnone ⟨p, hp, hneeds⟩
  | some d =>
    have hunpack : d = unpacking b := by
      unfold decoding? at hd
      split at hd
      · simp at hd
      · exact (Option.some.inj hd).symm
    simp only [declaredLocals, hunpack, unpacking, Option.map_some, Option.toList_some,
      List.flatMap_cons, List.flatMap_nil, List.append_nil, List.filterMap_map, List.mem_filterMap,
      Function.comp_apply]
    refine exists_congr fun p => and_congr_right fun hp => ?_
    rw [← mem_neededFields h hp]
    by_cases hn : p.name ∈ neededFields b
    · simp [hn, eq_comm]
    · simp [hn]

/-- What a call passes on is declared. -/
private theorem mem_declaredLocals_of_passed {b : Binding} (h : b.Resolved) {index : Nat}
    {br : Branch} (hbr : branch index b = .ok br) {name : String} (hn : name ∈ passedLocals b) :
    name ∈ declaredLocals br.statements := by
  obtain ⟨m, hm, hname⟩ := List.mem_filterMap.mp hn
  cases hs : m.source with
  | data field =>
    simp only [hs, Option.some.injEq] at hname
    obtain ⟨p, hp, hfield⟩ := exists_dataInput h hm hs
    rw [mem_declaredLocals h hbr]
    refine ⟨p, hp, .inl ⟨m, hm, ?_⟩, ?_⟩
    · rw [hs, hfield]
    · rw [hfield, hname]
  | _ => simp [hs] at hname

/-- The locals of a branch are names exactly if the fields behind them could be parts of names. -/
theorem isName_locals_iff {b : Binding} (h : b.Resolved) {index : Nat} {br : Branch}
    (hbr : branch index b = .ok br) :
    (∀ name ∈ declaredLocals br.statements ++ passedLocals b, isName name = true)
      ↔ ∀ p ∈ b.event.dataInputs, b.Needs p.name → p.name.toList.all isNameCharacter = true := by
  constructor
  · intro hall p hp hneeds
    rw [← isName_localName]
    apply hall
    exact List.mem_append_left _ ((mem_declaredLocals h hbr).mpr ⟨p, hp, hneeds, rfl⟩)
  · intro hall name hname
    have hdeclared : name ∈ declaredLocals br.statements := by
      rcases List.mem_append.mp hname with hname | hname
      · exact hname
      · exact mem_declaredLocals_of_passed h hbr hname
    obtain ⟨p, hp, hneeds, rfl⟩ := (mem_declaredLocals h hbr).mp hdeclared
    rw [isName_localName]
    exact hall p hp hneeds

end Plan

namespace Submission

theorem generate_eq_ok {o : Options} {s : Submission} {g : Generated} :
    (generate o s).outcome = .ok g
      ↔ ∃ spec plan, (s.toSpec o.generator.callbackGasLimit).outcome = .ok spec
        ∧ (Plan.ofSpec spec).outcome = .ok plan
        ∧ g = {
            sourceText := plan.render, contractName := plan.contractName
            destinationSignatures := plan.destinationSignatures } := by
  unfold generate artifact
  simp only [Traced.outcome_bind_eq_ok, Traced.outcome_pure, Spec.emit_eq_ok, Except.ok.injEq]
  constructor
  · rintro ⟨-, ⟨spec, hspec, plan, hplan, rfl⟩, rfl⟩
    exact ⟨spec, plan, hspec, hplan, rfl⟩
  · rintro ⟨spec, plan, hspec, hplan, rfl⟩
    exact ⟨_, ⟨spec, hspec, plan, hplan, rfl⟩, rfl⟩

/-- Names are taken from an interface as they are. The signature in a call is one literal exactly
if the name of the function can stand in one, and the locals of a branch are names exactly if the
fields that they are for have only characters of names. -/
theorem generate_names_iff {o : Options} {s : Submission} {g : Generated}
    (h : (generate o s).outcome = .ok g) :
    ∃ spec plan, (s.toSpec o.generator.callbackGasLimit).outcome = .ok spec
      ∧ (Plan.ofSpec spec).outcome = .ok plan ∧ g.sourceText = plan.render
      ∧ plan.dispatch.branches.length = spec.bindings.length
      ∧ ∀ (i : Nat) (b : Binding) (br : Branch), spec.bindings[i]? = some b →
          plan.dispatch.branches[i]? = some br →
          (∃ c, br.statements.getLast? = some (.emit c)
            ∧ c.items.head? = some ("\"" ++ b.callee.signature ++ "\"")
            ∧ (IsLiteral ("\"" ++ b.callee.signature ++ "\"")
              ↔ isQuotable b.callee.name.toList = true))
          ∧ ((∀ name ∈ Plan.declaredLocals br.statements ++ Plan.passedLocals b,
                isName name = true)
              ↔ ∀ p ∈ b.event.dataInputs, b.Needs p.name →
                  p.name.toList.all isNameCharacter = true) := by
  obtain ⟨spec, plan, hspec, hplan, rfl⟩ := generate_eq_ok.mp h
  obtain ⟨-, origins, branches, -, hall, rfl⟩ := Plan.ofSpec_eq_ok.mp hplan
  have hresolved := resolved_of_toSpec hspec
  refine ⟨spec, _, hspec, hplan, rfl, ?_, ?_⟩
  · exact Plan.length_branches hall
  · intro i b br hb hbr
    have hr : b.Resolved := hresolved b (List.mem_of_getElem? hb)
    obtain ⟨br', hbr', hbranch⟩ := Plan.branch_getElem? hall hb
    have heq : br' = br := Option.some.inj (hbr'.symm.trans hbr)
    subst heq
    refine ⟨?_, Plan.isName_locals_iff hr hbranch⟩
    obtain ⟨-, args, -, rfl⟩ := Plan.branch_eq_ok.mp hbranch
    refine ⟨⟨b.callee.signature, args⟩, by simp, rfl, ?_⟩
    exact Callee.isLiteral_signature hr.callee_declared

end Submission

/-- A request for a function whose name has a quotation mark at its end. -/
def quotedDocument : Json := .obj [
  ("topology", .str "BLOCKCHAIN_WIDE"),
  ("origin_chain_id", .int 1),
  ("destination_chain_id", .int 2),
  ("destination_address", .str "0x0000000000000000000000000000000000000000"),
  ("bindings", .arr [.obj [
    ("event", .obj [("type", .str "event"), ("name", .str "E")]),
    ("function", .obj [("type", .str "function"), ("name", .str "f\"")])]])]

def quotedRequest : Request :=
  { settings := {
      topology := .blockchainWide, originChainId := 1, destinationChainId := 2
      destination := ⟨0⟩ }
    bindings := [{
      event := { kind := some "event", name := "E" }
      callee := { kind := some "function", name := "f\"" } }]
    setsGasLimit := false }

def quotedBinding : Binding :=
  { event := {
      name := "E", inputs := [], signature := signatureOf "E" []
      topic0 := topicOf "E()".toUTF8.data.toList }
    callee := {
      name := "f\"", inputs := [], signature := signatureOf "f\"" [], mutability := "nonpayable" }
    mappings := [] }

def quotedSpec : Spec := { settings := quotedRequest.settings, bindings := [quotedBinding] }

def quotedBranch : Branch :=
  { topicConstant := "EVENT_0_TOPIC_0", statements := [.emit ⟨signatureOf "f\"" [], []⟩] }

def quotedPlan : Plan := Plan.assemble quotedSpec (Origins.ofAny 1) [quotedBranch]

private theorem readDocument_quotedDocument :
    Submission.readDocument Request.recordName Request.ofFields quotedDocument
      = .ok quotedRequest := rfl

private theorem resolve_quotedRequest :
    (BindingRequest.resolveAll 0 quotedRequest.bindings).outcome = .ok [quotedBinding] := by
  rw [BindingRequest.resolveAll_eq_ok]
  refine .cons (BindingRequest.resolve_eq_ok.mpr ?_) .nil
  have hevent : Event.ofEntry { kind := some "event", name := "E" } = .ok quotedBinding.event :=
    Event.ofEntry_eq_ok.mpr ⟨[], _, rfl, utf8?_of_unmarked (by decide), rfl⟩
  exact ⟨rfl, rfl, quotedBinding.event, quotedBinding.callee, hevent, rfl, rfl⟩

private theorem toSpec_quotedDocument :
    ((Submission.document quotedDocument).toSpec (.whole 1000000)).outcome = .ok quotedSpec := by
  refine Traced.outcome_bind_eq_ok.mpr ⟨quotedRequest, readDocument_quotedDocument, ?_⟩
  exact Submission.describe_of_valid 1000000 rfl
    ⟨by decide, by decide, by decide, by decide, by decide⟩ resolve_quotedRequest

private theorem ofSpec_quotedSpec : (Plan.ofSpec quotedSpec).outcome = .ok quotedPlan := by
  refine Plan.ofSpec_eq_ok.mpr ⟨rfl, Origins.ofAny 1, [quotedBranch], rfl, ?_, rfl⟩
  change List.Forall₂ _ [(quotedBinding, 0)] [quotedBranch]
  exact .cons (Plan.branch_eq_ok.mpr ⟨rfl, [], rfl, rfl⟩) .nil

private theorem generate_quotedDocument :
    (Submission.generate {} (.document quotedDocument)).outcome = .ok {
      sourceText := quotedPlan.render, contractName := quotedPlan.contractName
      destinationSignatures := quotedPlan.destinationSignatures } :=
  Submission.generate_eq_ok.mpr
    ⟨quotedSpec, quotedPlan, toSpec_quotedDocument, ofSpec_quotedSpec, rfl⟩

theorem quotedDocument_names :
    ∃ g, (Submission.generate {} (.document quotedDocument)).outcome = .ok g
      ∧ ∃ spec plan, ((Submission.document quotedDocument).toSpec (.whole 1000000)).outcome = .ok spec
        ∧ (Plan.ofSpec spec).outcome = .ok plan ∧ g.sourceText = plan.render := by
  obtain ⟨spec, plan, hspec, hplan, htext, -⟩ :=
    Submission.generate_names_iff generate_quotedDocument
  exact ⟨_, generate_quotedDocument, spec, plan, hspec, hplan, htext⟩

/-- The name closes the literal that its signature stands in. -/
theorem quotedDocument_escapes :
    (Submission.generate {} (.document quotedDocument)).outcome = .ok {
        sourceText := quotedPlan.render, contractName := quotedPlan.contractName
        destinationSignatures := quotedPlan.destinationSignatures }
      ∧ ((Submission.document quotedDocument).toSpec (.whole 1000000)).outcome = .ok quotedSpec
      ∧ (Plan.ofSpec quotedSpec).outcome = .ok quotedPlan
      ∧ quotedPlan.dispatch.branches.map (·.statements)
        = [[.emit ⟨quotedBinding.callee.signature, []⟩]]
      ∧ "\"" ++ quotedBinding.callee.signature ++ "\"" = "\"f\"()\""
      ∧ ¬ IsLiteral "\"f\"()\"" := by
  refine ⟨generate_quotedDocument, toSpec_quotedDocument, ofSpec_quotedSpec, rfl, rfl, ?_⟩
  intro h
  obtain ⟨mode, hscan, hmode⟩ := h.within ['"', 'f', '"'] (by decide) (by decide) (by decide)
  have hclosed : Expression.scan .outside ['"', 'f', '"'] = some .outside := by decide
  exact hmode (Option.some.inj (hscan.symm.trans hclosed))

end ReactiveContract
