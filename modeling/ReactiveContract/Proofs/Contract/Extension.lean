import ReactiveContract.Proofs.Contract.Emission
import ReactiveContract.Proofs.Contract.Numbering
import ReactiveContract.Proofs.Contract.Scope
/-! One more binding at the end of a description. Everything that is generated for the bindings
before it stays as it is. -/
namespace ReactiveContract
open Solidity

/-- Other origins, if each binding has its own. -/
def Settings.replaceOrigins (s : Settings) (f : List Address → List Address) : Settings :=
  { s with origins := match s.topology with
      | .protocolToProtocol => f s.origins
      | _ => s.origins }

/-- One more binding at the end, with its origin if each binding has its own. -/
def Spec.extend (spec : Spec) (b : Binding) (origin : Address) : Spec :=
  { settings := spec.settings.replaceOrigins (· ++ [origin])
    bindings := spec.bindings ++ [b] }

namespace Origins

/-- One more address adds its criterion, and a constant unless it has one. -/
private theorem record_extends (o : Origins) (a : Address) : ∃ further contract,
    o.record a = ⟨o.constants ++ further, o.criteria ++ [contract]⟩ ∧ further.length ≤ 1 := by
  unfold record
  split
  case h_1 c _ => exact ⟨[], c.name, by rw [List.append_nil], Nat.zero_le 1⟩
  case h_2 => exact ⟨[_], numberedName o.constants.length, rfl, Nat.le_refl 1⟩

/-- The origins of the bindings before it keep their constants and criteria. -/
private theorem ofSpec_extend {spec : Spec} {origins : Origins} (h : ofSpec spec = .ok origins)
    (b : Binding) (origin : Address) : ∃ further contract,
    ofSpec (spec.extend b origin)
        = .ok ⟨origins.constants ++ further, origins.criteria ++ [contract]⟩
      ∧ further.length ≤ 1 := by
  have hlength : (spec.extend b origin).bindings.length = spec.bindings.length + 1 := by
    simp [Spec.extend]
  rcases of_eq_ok.mp h with ⟨ht, hlen, rfl⟩ | ⟨ht, a, ha, rfl⟩ | ⟨ht, ha, rfl⟩
  · obtain ⟨further, contract, hrecord, hle⟩ := record_extends (ofEach spec.settings.origins) origin
    refine ⟨further, contract, of_eq_ok.mpr (.inl ⟨ht, ?_, ?_⟩), hle⟩
    · rw [hlength]
      simp [Spec.extend, Settings.replaceOrigins, ht, hlen]
    · rw [← hrecord, ← ofEach_append]
      simp [Spec.extend, Settings.replaceOrigins, ht]
  · refine ⟨[], sharedName, of_eq_ok.mpr (.inr (.inl ⟨ht, a, ?_, ?_⟩)), Nat.zero_le 1⟩
    · simp [Spec.extend, Settings.replaceOrigins, ht, ha]
    · simp only [hlength, ofShared, List.replicate_succ', List.append_nil]
  · refine ⟨[], anyContract, of_eq_ok.mpr (.inr (.inr ⟨ht, ?_, ?_⟩)), Nat.zero_le 1⟩
    · simp [Spec.extend, Settings.replaceOrigins, ht, ha]
    · simp only [hlength, ofAny, List.replicate_succ', List.append_nil]

end Origins

namespace Plan

/-- The subscription of the binding of an index. -/
def subscription (contract : String) (i : Nat) : Subscription :=
  { index := i
    criteria := { chainId := "ORIGIN_CHAIN_ID", contract, topic0 := eventConstantName i } }

private theorem subscriptionsOf_append (criteria : List String) (contract : String) :
    subscriptionsOf (criteria ++ [contract])
      = subscriptionsOf criteria ++ [subscription contract criteria.length] := by
  rw [subscriptionsOf, List.zipIdx_append, List.map_append, Nat.zero_add]
  rfl

private theorem eventConstantsOf_append (bindings : List Binding) (b : Binding) :
    eventConstantsOf (bindings ++ [b])
      = eventConstantsOf bindings
        ++ [⟨"uint256", eventConstantName bindings.length, b.event.topic0⟩] := by
  rw [eventConstantsOf, List.zipIdx_append, List.map_append, Nat.zero_add]
  rfl

/-- The checks ask nothing else of bindings than that there are some, and nothing of origins. -/
theorem check_replaceOrigins {spec : Spec} (h : check spec = .ok ())
    (f : List Address → List Address) {bindings : List Binding} (hne : bindings ≠ []) :
    check ⟨spec.settings.replaceOrigins f, bindings⟩ = .ok () := by
  obtain ⟨-, hname, howner⟩ := check_eq_ok.mp h
  exact check_eq_ok.mpr ⟨hne, hname, howner⟩

/-- What a plan has beyond another one for one more binding. -/
structure Extends (p p' : Plan) (b : Binding) : Prop where
  events : p'.eventConstants = p.eventConstants
    ++ [⟨"uint256", eventConstantName p.eventConstants.length, b.event.topic0⟩]
  dispatched : ∃ br, branch p.dispatch.branches.length b = .ok br
    ∧ p'.dispatch.branches = p.dispatch.branches ++ [br]
  called : p'.destinationSignatures = p.destinationSignatures ++ [b.callee.signature]
  /-- The table, if there is one, gets the subscription too. -/
  subscribed : ∃ contract,
    p'.subscriptions = p.subscriptions ++ [subscription contract p.subscriptions.length]
      ∧ p'.pausableTable = p.pausableTable.map fun t =>
        ⟨t.entries ++ [(subscription contract p.subscriptions.length).criteria]⟩
  origins : ∃ further, p'.originConstants = p.originConstants ++ further ∧ further.length ≤ 1
  named : p.reactParameters.named ⊆ p'.reactParameters.named
  /-- Nothing else is different. -/
  kept : p' = { p with
    eventConstants := p'.eventConstants, dispatch := p'.dispatch
    destinationSignatures := p'.destinationSignatures, subscriptions := p'.subscriptions
    pausableTable := p'.pausableTable, originConstants := p'.originConstants
    reactParameters := p'.reactParameters }

section Assembled
variable {spec : Spec} {origins : Origins} {branches : List Branch}

/-- A plan is extended if its origins and its branches are. -/
private theorem extends_assemble
    (hall : List.Forall₂ (fun p br => branch p.2 p.1 = .ok br) spec.bindings.zipIdx branches)
    {b : Binding} {br : Branch} (hbr : branch spec.bindings.length b = .ok br) (origin : Address)
    {further : List Constant} (hle : further.length ≤ 1) (contract : String) :
    Extends (assemble spec origins branches)
      (assemble (spec.extend b origin)
        ⟨origins.constants ++ further, origins.criteria ++ [contract]⟩ (branches ++ [br])) b := by
  have hadded : subscriptionsOf (origins.criteria ++ [contract]) = subscriptionsOf origins.criteria
      ++ [subscription contract (subscriptionsOf origins.criteria).length] := by
    have hlength : (subscriptionsOf origins.criteria).length = origins.criteria.length := by
      simp [subscriptionsOf]
    rw [subscriptionsOf_append, hlength]
  constructor
  case events =>
    have hlength : (eventConstantsOf spec.bindings).length = spec.bindings.length := by
      simp [eventConstantsOf]
    have hevents := eventConstantsOf_append spec.bindings b
    rw [← hlength] at hevents
    exact hevents
  case dispatched =>
    refine ⟨br, ?_, rfl⟩
    change branch branches.length b = .ok br
    rw [length_branches hall, hbr]
  case called => exact List.map_append
  case subscribed =>
    refine ⟨contract, ?_, ?_⟩
    · exact hadded
    · change (if spec.settings.pausable then some (SubscriptionTable.mk
          ((subscriptionsOf (origins.criteria ++ [contract])).map (·.criteria))) else none)
        = Option.map _ (if spec.settings.pausable then some (SubscriptionTable.mk
          ((subscriptionsOf origins.criteria).map (·.criteria))) else none)
      rw [hadded]
      split
      · rw [List.map_append]
        rfl
      · rfl
  case origins => exact ⟨further, rfl, hle⟩
  case named =>
    apply ReactParameters.named_subset
    intro name hname
    rw [mem_used] at hname ⊢
    rcases hname with htopic | ⟨c, hc, hneeded⟩ | hcontract
    · exact .inl htopic
    · exact .inr (.inl ⟨c, List.mem_append_left _ hc, hneeded⟩)
    · exact .inr (.inr hcontract)
  case kept => rfl

end Assembled

/-- A description that is accepted is accepted with one more binding, and nothing that was
generated for the others is different. -/
theorem ofSpec_extends {spec : Spec} {plan : Plan} (hp : (ofSpec spec).outcome = .ok plan)
    {b : Binding} (hb : b.Resolved) (origin : Address) :
    ∃ plan', (ofSpec (spec.extend b origin)).outcome = .ok plan' ∧ plan.Extends plan' b := by
  obtain ⟨hc, origins, branches, ho, hall, rfl⟩ := ofSpec_eq_ok.mp hp
  obtain ⟨further, contract, ho', hle⟩ := Origins.ofSpec_extend ho b origin
  obtain ⟨br, hbr⟩ := exists_branch hb spec.bindings.length
  have hlast : List.Forall₂ (fun p br => branch p.2 p.1 = .ok br)
      ([b].zipIdx (0 + spec.bindings.length)) [br] := by
    rw [Nat.zero_add]
    exact .cons hbr .nil
  have hall' : List.Forall₂ (fun p br => branch p.2 p.1 = .ok br)
      (spec.extend b origin).bindings.zipIdx (branches ++ [br]) := by
    change List.Forall₂ _ (spec.bindings ++ [b]).zipIdx _
    rw [List.zipIdx_append]
    exact List.rel_append hall hlast
  have hc' : check (spec.extend b origin) = .ok () := check_replaceOrigins hc _
    (List.append_ne_nil_of_right_ne_nil spec.bindings (List.cons_ne_nil b []))
  exact ⟨_, ofSpec_eq_ok.mpr ⟨hc', _, _, ho', hall', rfl⟩,
    extends_assemble hall hbr origin hle contract⟩

/-- A fourth transfer, of a third origin. -/
theorem listedPlan_extends :
    (ofSpec listedSpec).outcome = .ok listedPlan ∧ transferCredit.Resolved
      ∧ ∃ plan, (ofSpec (listedSpec.extend transferCredit ⟨5⟩)).outcome = .ok plan
        ∧ listedPlan.Extends plan transferCredit
        ∧ plan.eventConstants.map (·.name) = (List.range 4).map eventConstantName := by
  obtain ⟨plan, hplan, hext⟩ := ofSpec_extends ofSpec_listedSpec transferCredit_resolved ⟨5⟩
  refine ⟨ofSpec_listedSpec, transferCredit_resolved, plan, hplan, hext, ?_⟩
  rw [hext.events]
  rfl

end Plan
end ReactiveContract
