import ReactiveContract.Contract.Source
import ReactiveContract.Proofs.Contract.Bindable
/-! What is asked of a description whose bindings are resolved before its contract is emitted. -/
namespace ReactiveContract
open Abi Outcome Solidity

/-- What a description has to offer, in the order in which it is looked at. -/
inductive Demand where
  | bindings
  | contractName
  | owner
  | origins
  deriving DecidableEq, Repr

namespace Demand

def all : List Demand := [bindings, contractName, owner, origins]

/-- The field of a request that is at fault if there is no such thing. -/
def field : Demand → String
  | bindings => "bindings"
  | contractName => "contractName"
  | owner => "ownerAddress"
  | origins => "originAddresses"

/-- A binding, a name that is not taken, no owner without a pause, and as many origins as the
topology has use for. -/
def Met (spec : Spec) : Demand → Prop
  | bindings => spec.bindings ≠ []
  | contractName =>
    spec.settings.contractName ∉ libraryNames ∧ spec.settings.contractName ∉ keywords
      ∧ isSizedType spec.settings.contractName = false
  | owner => spec.settings.owner = none ∨ spec.settings.pausable = true
  | origins =>
    match spec.settings.topology with
    | .protocolToProtocol => spec.settings.origins.length = spec.bindings.length
    | .originToProtocol => spec.settings.origins.length = 1
    | .blockchainWide => spec.settings.origins.length = 0

instance (spec : Spec) : DecidablePred (Met spec) := fun d =>
  match d with
  | bindings => inferInstanceAs (Decidable (spec.bindings ≠ []))
  | contractName =>
    inferInstanceAs (Decidable (spec.settings.contractName ∉ libraryNames
      ∧ spec.settings.contractName ∉ keywords
      ∧ isSizedType spec.settings.contractName = false))
  | owner => inferInstanceAs (Decidable (spec.settings.owner = none ∨ spec.settings.pausable = true))
  | origins =>
    match h : spec.settings.topology with
    | .protocolToProtocol =>
      decidable_of_iff (spec.settings.origins.length = spec.bindings.length) (by simp [Met, h])
    | .originToProtocol => decidable_of_iff (spec.settings.origins.length = 1) (by simp [Met, h])
    | .blockchainWide => decidable_of_iff (spec.settings.origins.length = 0) (by simp [Met, h])

/-- The first demand that a description does not meet. -/
def firstUnmet? (spec : Spec) : Option Demand := all.find? fun d => ¬ d.Met spec

theorem isReserved_eq_false {spec : Spec} :
    isReserved spec.settings.contractName = false ↔ contractName.Met spec := by
  simp [isReserved, Met, and_assoc]

end Demand

namespace Plan

/-- What the checks before the origins come to. -/
theorem check_eq_ok {spec : Spec} :
    check spec = .ok () ↔ Demand.bindings.Met spec ∧ Demand.contractName.Met spec
      ∧ Demand.owner.Met spec := by
  rw [← Demand.isReserved_eq_false]
  unfold check Demand.Met
  by_cases hb : spec.bindings = []
  · simp [hb]
  · by_cases hn : isReserved spec.settings.contractName = true
    · simp [hb, hn]
    · cases spec.settings.owner <;> simp [hb, hn]

theorem check_eq_error {spec : Spec} {v : Violation} (h : check spec = .error v) :
    ∃ d, Demand.firstUnmet? spec = some d ∧ v.field = some d.field := by
  unfold check at h
  split at h
  · rename_i hb
    cases h
    exact ⟨.bindings, by simp [Demand.firstUnmet?, Demand.all, Demand.Met, hb], rfl⟩
  · rename_i hb
    split at h
    · rename_i hn
      cases h
      have hname : ¬ Demand.contractName.Met spec := by
        rw [← Demand.isReserved_eq_false, hn]
        simp
      have hbindings : Demand.bindings.Met spec := hb
      exact ⟨.contractName, by simp [Demand.firstUnmet?, Demand.all, hbindings, hname], rfl⟩
    · rename_i hn
      split at h
      · rename_i ho
        cases h
        have hname : Demand.contractName.Met spec :=
          Demand.isReserved_eq_false.mp (Bool.not_eq_true _ ▸ hn)
        have hbindings : Demand.bindings.Met spec := hb
        have howner : ¬ Demand.owner.Met spec := by
          unfold Demand.Met
          simpa [Option.isSome_iff_ne_none] using ho
        exact ⟨.owner, by simp [Demand.firstUnmet?, Demand.all, hbindings, hname, howner], rfl⟩
      · cases h

end Plan

namespace Origins

/-- Origins that fit give each binding its criterion. -/
theorem ofSpec_of_met {spec : Spec} (h : Demand.origins.Met spec) :
    ∃ origins, ofSpec spec = .ok origins ∧ origins.criteria.length = spec.bindings.length := by
  unfold ofSpec Origins.of
  unfold Demand.Met at h
  cases ht : spec.settings.topology with
  | protocolToProtocol =>
    simp only [ht] at h
    exact ⟨_, if_pos h, by simp [ofEach, h]⟩
  | originToProtocol =>
    simp only [ht] at h
    obtain ⟨origin, ho⟩ := List.length_eq_one_iff.mp h
    exact ⟨_, by rw [ho], by simp [ofShared]⟩
  | blockchainWide =>
    simp only [ht] at h
    have ho : spec.settings.origins = [] := List.length_eq_zero_iff.mp h
    exact ⟨_, by rw [ho], by simp [ofAny]⟩

theorem ofSpec_of_not_met {spec : Spec} (h : ¬ Demand.origins.Met spec) :
    ∃ v, ofSpec spec = .error v ∧ v.field = some Demand.origins.field := by
  unfold ofSpec Origins.of
  unfold Demand.Met at h
  cases ht : spec.settings.topology with
  | protocolToProtocol =>
    simp only [ht] at h
    exact ⟨_, if_neg h, rfl⟩
  | originToProtocol =>
    simp only [ht] at h
    cases ho : spec.settings.origins with
    | nil => exact ⟨_, rfl, rfl⟩
    | cons a rest =>
      cases rest with
      | nil => simp [ho] at h
      | cons b rest => exact ⟨_, rfl, rfl⟩
  | blockchainWide =>
    simp only [ht] at h
    cases ho : spec.settings.origins with
    | nil => simp [ho] at h
    | cons a rest => exact ⟨_, rfl, rfl⟩

end Origins

namespace Plan

/-- A settled mapping has an expression for its argument. -/
private theorem exists_argument {event : Event} {m : Mapping} {input : CalleeInput}
    (h : m.Settled event input) : ∃ a, argument m = .ok a := by
  obtain ⟨htype, hs⟩ := h
  unfold argument
  cases hsource : m.source with
  | fixed literal => exact ⟨literal, rfl⟩
  | data field => exact ⟨localName field, rfl⟩
  | topic index =>
    rw [hsource] at hs
    obtain ⟨-, -, e, he⟩ := hs
    exact ⟨e, by simpa [htype] using he⟩
  | unbound zero =>
    rw [hsource] at hs
    obtain ⟨t, -, -, rfl⟩ := hs
    exact ⟨t.zero, by simp [t.zero_ne_empty]⟩

private theorem exists_arguments {event : Event} {mappings : List Mapping}
    {inputs : List CalleeInput} (h : List.Forall₂ (Mapping.Settled event) mappings inputs) :
    ∃ args, arguments mappings = .ok args := by
  induction h with
  | nil => exact ⟨[], rfl⟩
  | @cons m input mappings inputs hm _ ih =>
    obtain ⟨a, ha⟩ := exists_argument hm
    obtain ⟨args, hargs⟩ := ih
    refine ⟨a :: args, ?_⟩
    simp only [arguments, bind_eq_ok, pure_eq_ok]
    exact ⟨a, ha, args, hargs, rfl⟩

/-- Whatever its index, a resolved binding has its branch. -/
theorem exists_branch {b : Binding} (h : b.Resolved) (index : Nat) :
    ∃ br, branch index b = .ok br := by
  obtain ⟨args, hargs⟩ := exists_arguments h.settled
  exact ⟨_, branch_eq_ok.mpr ⟨h.settled.length_eq, args, hargs, rfl⟩⟩

theorem exists_branchesFrom (all : List Binding) {bindings : List Binding}
    (h : ∀ b ∈ bindings, b.Resolved) (index : Nat) :
    ∃ branches, (branchesFrom all index bindings).outcome = .ok branches := by
  induction bindings generalizing index with
  | nil => exact ⟨[], rfl⟩
  | cons b bindings ih =>
    obtain ⟨br, hbr⟩ := exists_branch (h b (by simp)) index
    obtain ⟨branches, hbranches⟩ := ih (fun c hc => h c (by simp [hc])) (index + 1)
    rw [branchesFrom_eq_ok] at hbranches
    exact ⟨br :: branches, branchesFrom_eq_ok.mpr (.cons hbr hbranches)⟩

/-- Resolved bindings leave nothing to go wrong but what is demanded. -/
theorem exists_plan {spec : Spec} (hr : ∀ b ∈ spec.bindings, b.Resolved)
    (h : ∀ d : Demand, d.Met spec) : ∃ plan, (ofSpec spec).outcome = .ok plan := by
  obtain ⟨origins, ho, -⟩ := Origins.ofSpec_of_met (h .origins)
  obtain ⟨branches, hb⟩ := exists_branchesFrom spec.bindings hr 0
  have hc : check spec = .ok () := check_eq_ok.mpr ⟨h .bindings, h .contractName, h .owner⟩
  exact ⟨_, ofSpec_eq_ok.mpr ⟨hc, origins, branches, ho, branchesFrom_eq_ok.mp hb, rfl⟩⟩

theorem met_of_ofSpec {spec : Spec} {plan : Plan} (h : (ofSpec spec).outcome = .ok plan)
    (d : Demand) : d.Met spec := by
  obtain ⟨hc, origins, branches, ho, -, -⟩ := ofSpec_eq_ok.mp h
  obtain ⟨hb, hn, how⟩ := check_eq_ok.mp hc
  cases d with
  | bindings => exact hb
  | contractName => exact hn
  | owner => exact how
  | origins =>
    by_contra hnot
    obtain ⟨v, hv, -⟩ := Origins.ofSpec_of_not_met hnot
    rw [ho] at hv
    cases hv

/-- A plan that fails says which demand is the first that is not met. -/
theorem ofSpec_eq_error {spec : Spec} (hr : ∀ b ∈ spec.bindings, b.Resolved) {failure : Failure}
    (h : (ofSpec spec).outcome = .error failure) :
    ∃ v d, failure = .violation v ∧ Demand.firstUnmet? spec = some d
      ∧ v.field = some d.field := by
  simp only [ofSpec, Traced.outcome_bind_eq_error, Traced.outcome_ofExcept, Traced.outcome_pure,
    mapError_eq_error, mapError_eq_ok, reduceCtorEq, and_false, exists_false, or_false] at h
  rcases h with ⟨v, hv, rfl⟩ | ⟨⟨⟩, hc, ⟨v, hv, rfl⟩ | ⟨origins, ho, hb⟩⟩
  · obtain ⟨d, hd, hfield⟩ := check_eq_error hv
    exact ⟨v, d, rfl, hd, hfield⟩
  · obtain ⟨hbindings, hname, howner⟩ := check_eq_ok.mp hc
    have hnot : ¬ Demand.origins.Met spec := by
      intro hmet
      obtain ⟨origins, ho, -⟩ := Origins.ofSpec_of_met hmet
      rw [ho] at hv
      cases hv
    obtain ⟨w, hw, hfield⟩ := Origins.ofSpec_of_not_met hnot
    rw [hv, Except.error.injEq] at hw
    subst hw
    refine ⟨v, .origins, rfl, ?_, hfield⟩
    simp [Demand.firstUnmet?, Demand.all, hbindings, hname, howner, hnot]
  · obtain ⟨branches, hbranches⟩ := exists_branchesFrom spec.bindings hr 0
    rw [hb] at hbranches
    cases hbranches

/-- Every subscription of a plan has its origin, and an allow-list has something to list. -/
private theorem complete_of_ofSpec {spec : Spec} {plan : Plan}
    (h : (ofSpec spec).outcome = .ok plan) :
    plan.subscriptions.length = spec.bindings.length
      ∧ ∀ l, plan.allowList = some l → ∃ lines, l.render? = some lines := by
  have hmet := met_of_ofSpec h .origins
  obtain ⟨-, origins, branches, ho, -, rfl⟩ := ofSpec_eq_ok.mp h
  obtain ⟨fitting, hf, hlen⟩ := Origins.ofSpec_of_met hmet
  rw [ho, Except.ok.injEq] at hf
  subst hf
  refine ⟨by simpa [assemble, subscriptionsOf] using hlen, fun l hl => ?_⟩
  cases ha : spec.settings.applicable with
  | nil => simp [assemble, allowList?, ha] at hl
  | cons a rest =>
    simp only [assemble, allowList?, ha, reduceCtorEq, if_false, Option.some.injEq] at hl
    subst hl
    simp [AllowList.render?, AllowList.constants, List.eraseDups_cons]

end Plan

namespace Spec

/-- What is emitted is the text of the plan, with its name and the functions that it calls. -/
theorem emit_eq_ok {spec : Spec} {a : Artifact} :
    spec.emit.outcome = .ok a ↔ ∃ plan, (Plan.ofSpec spec).outcome = .ok plan
      ∧ a = {
          sourceText := plan.render
          contractName := plan.contractName
          destinationSignatures := plan.destinationSignatures } := by
  simp only [emit, Traced.outcome_bind_eq_ok, Traced.outcome_note, Traced.outcome_pure,
    Except.ok.injEq, exists_const, eq_comm (b := a)]
  simp

theorem exists_emit_iff {spec : Spec} :
    (∃ a, spec.emit.outcome = .ok a) ↔ ∃ plan, (Plan.ofSpec spec).outcome = .ok plan := by
  simp only [emit_eq_ok]
  constructor
  · rintro ⟨-, plan, hplan, -⟩
    exact ⟨plan, hplan⟩
  · rintro ⟨plan, hplan⟩
    exact ⟨_, plan, hplan, rfl⟩

theorem emit_eq_error {spec : Spec} {failure : Failure} :
    spec.emit.outcome = .error failure ↔ (Plan.ofSpec spec).outcome = .error failure := by
  simp [emit, Traced.outcome_bind_eq_error]

end Spec

namespace Binding.Resolved
variable {b : Binding}

/-- The target type of a mapping has a zero value. -/
private theorem exists_zeroValue (h : b.Resolved) {m : Mapping} (hm : m ∈ b.mappings) :
    ∃ zero, zeroValue m.type = .ok zero := by
  obtain ⟨input, hinput, hsettled⟩ := h.exists_settled hm
  obtain ⟨t, hw, ht⟩ := h.callee_declared.canonical input hinput
  refine ⟨t.zero, ?_⟩
  rw [hsettled.typed, ← ht, ValueType.zeroValue_text hw]

/-- The topic of a mapping can be read as its target type. -/
theorem exists_topicExpression (h : b.Resolved) {m : Mapping} (hm : m ∈ b.mappings) {index : Int}
    (hs : m.source = .topic index) : ∃ e, topicExpression m.type index = .ok e := by
  obtain ⟨input, -, htype, hsource⟩ := h.exists_settled hm
  rw [hs] at hsource
  obtain ⟨-, -, e, he⟩ := hsource
  exact ⟨e, by rw [htype, he]⟩

end Binding.Resolved

/-- A description that a submission leads to is emitted exactly if all demands are met, and is
refused for the first that is not. What is emitted is its plan as a text. Nothing else can go wrong:
neither the branch of a binding nor the expressions in it, nor the lines of a plan. -/
theorem Submission.emit_iff_demands {s : Submission} {gasLimit : Quantity} {spec : Spec}
    (h : (s.toSpec gasLimit).outcome = .ok spec) :
    ((∃ a, spec.emit.outcome = .ok a) ↔ ∀ d : Demand, d.Met spec)
      ∧ (∀ failure, spec.emit.outcome = .error failure →
          ∃ v d, failure = .violation v ∧ Demand.firstUnmet? spec = some d
            ∧ v.field = some d.field)
      ∧ (∀ a, spec.emit.outcome = .ok a ↔ ∃ plan, (Plan.ofSpec spec).outcome = .ok plan
          ∧ a = {
              sourceText := plan.render
              contractName := plan.contractName
              destinationSignatures := plan.destinationSignatures })
      ∧ (∀ (i : Nat) (b : Binding), spec.bindings[i]? = some b →
          (∃ br, Plan.branch i b = .ok br)
            ∧ ∀ m ∈ b.mappings, (∃ zero, zeroValue m.type = .ok zero)
              ∧ ∀ index, m.source = .topic index → ∃ e, topicExpression m.type index = .ok e)
      ∧ ∀ plan, (Plan.ofSpec spec).outcome = .ok plan →
          plan.subscriptions.length = spec.bindings.length
            ∧ ∀ l, plan.allowList = some l → ∃ lines, l.render? = some lines := by
  have hr := resolved_of_toSpec h
  refine ⟨?_, ?_, fun a => Spec.emit_eq_ok, ?_, fun plan => Plan.complete_of_ofSpec⟩
  · rw [Spec.exists_emit_iff]
    constructor
    · intro hplan
      obtain ⟨plan, hplan⟩ := hplan
      exact Plan.met_of_ofSpec hplan
    · exact Plan.exists_plan hr
  · intro failure hf
    exact Plan.ofSpec_eq_error hr (Spec.emit_eq_error.mp hf)
  · intro i b hb
    have hb' : b.Resolved := hr b (List.mem_of_getElem? hb)
    refine ⟨Plan.exists_branch hb' i, fun m hm => ⟨hb'.exists_zeroValue hm, ?_⟩⟩
    exact fun index hs => hb'.exists_topicExpression hm hs

/-- A request for the contract that credits transfers. -/
def transferDocument : Json := .obj [
  ("topology", .str "BLOCKCHAIN_WIDE"),
  ("originChainId", .int 1),
  ("destinationChainId", .int 2),
  ("destinationAddress", .str "0x0000000000000000000000000000000000000000"),
  ("bindings", .arr [.obj [
    ("event", transferJson),
    ("function", creditJson),
    ("inputMappings", .arr [
      .obj [
        ("targetParamName", .str "who"), ("targetType", .str "address"),
        ("source", .obj [("kind", .str "topic"), ("topicIndex", .int 1)])],
      .obj [
        ("targetParamName", .str "amount"), ("targetType", .str "uint256"),
        ("source", .obj [("kind", .str "data"), ("fieldName", .str "value")])]]),
    ("condition", .str "value > 0")]])]

def transferRequest : Request :=
  { settings := transferSpec.settings
    bindings := [{
      event := transferEntry, callee := creditEntry, mappings := transferCredit.mappings
      condition := some "value > 0" }]
    setsGasLimit := false }

private theorem readDocument_transferDocument :
    Submission.readDocument Request.recordName Request.ofFields transferDocument
      = .ok transferRequest := rfl

theorem resolveAll_transferRequest :
    (BindingRequest.resolveAll 0 transferRequest.bindings).outcome = .ok [transferCredit] := by
  refine BindingRequest.resolveAll_eq_ok.mpr (.cons (BindingRequest.resolve_eq_ok.mpr ?_) .nil)
  exact ⟨rfl, rfl, _, _, event_ofEntry_transferEntry, callee_ofEntry_creditEntry,
    resolve_transferCredit⟩

theorem toSpec_transferDocument :
    ((Submission.document transferDocument).toSpec (.whole 1000000)).outcome = .ok transferSpec := by
  refine Traced.outcome_bind_eq_ok.mpr ⟨transferRequest, readDocument_transferDocument, ?_⟩
  exact Submission.describe_of_valid 1000000 rfl
    ⟨by decide, by decide, by decide, by decide, by decide⟩ resolveAll_transferRequest

/-- The same without anything to listen to, under a name that the library has. -/
def idleRequest : Request :=
  { settings := { transferSpec.settings with contractName := "Callback" }
    bindings := []
    setsGasLimit := true }

private theorem toSpec_idleRequest :
    ((Submission.revised idleRequest []).toSpec (.whole 1000000)).outcome
      = .ok ⟨idleRequest.settings, []⟩ := by
  change (Submission.describe idleRequest [] (.whole (1000000 : Nat))).outcome = _
  exact Submission.describe_of_valid 1000000 rfl
    ⟨by decide, by decide, by decide, by decide, by decide⟩ rfl

/-- The first is emitted, the second refused for its bindings, although its name is taken too. -/
theorem transferDocument_emits :
    ((Submission.document transferDocument).toSpec (.whole 1000000)).outcome = .ok transferSpec
      ∧ (∃ a, transferSpec.emit.outcome = .ok a)
      ∧ ((Submission.revised idleRequest []).toSpec (.whole 1000000)).outcome
        = .ok ⟨idleRequest.settings, []⟩
      ∧ (¬ ∃ a, (Spec.emit ⟨idleRequest.settings, []⟩).outcome = .ok a)
      ∧ Demand.firstUnmet? ⟨idleRequest.settings, []⟩ = some .bindings
      ∧ ¬ Demand.contractName.Met ⟨idleRequest.settings, []⟩ := by
  refine ⟨toSpec_transferDocument, ?_, toSpec_idleRequest, ?_, by decide, by decide⟩
  · refine (Submission.emit_iff_demands toSpec_transferDocument).1.mpr fun d => ?_
    cases d <;> decide
  · intro h
    have hmet := (Submission.emit_iff_demands toSpec_idleRequest).1.mp h .bindings
    exact hmet rfl

end ReactiveContract
