import ReactiveContract.Proofs.Contract.Dispatch
import ReactiveContract.Proofs.Contract.Origins
import ReactiveContract.Proofs.Contract.Source
import ReactiveContract.Proofs.Solidity.Subscription
import ReactiveContract.Proofs.Text.Hexadecimal
/-! The subscriptions that a contract makes, and those that its pause undoes and renews, as they
are read in its source. -/
namespace ReactiveContract
open Solidity Text

theorem Address.isWord_text (a : Address) : IsWord a.text := by
  refine ⟨fun h => ?_, fun c hc => ?_⟩
  · have hl := congrArg String.toList h
    rw [text, String.toList_ofList] at hl
    cases hl
  · simp [isNameCharacter, isAlphanum_text hc]

namespace Origins

private theorem isWord_sharedName : IsWord sharedName := by decide

private theorem isWord_numberedName (i : Nat) : IsWord (numberedName i) :=
  IsWord.append (s := sharedName ++ "_") (by decide) (isWord_toString i)

private theorem isItem_anyContract : IsItem anyContract :=
  ⟨by decide, by decide, by decide⟩

variable {topology : Topology} {addresses : List Address} {bindings : Nat} {origins : Origins}

theorem isWord_of_mem_names (h : of topology addresses bindings = .ok origins) {name : String}
    (hname : name ∈ origins.constants.map (·.name)) : IsWord name := by
  rcases names_eq h with hshared | ⟨n, hnumbered⟩
  · rw [hshared, List.mem_singleton] at hname
    exact hname ▸ isWord_sharedName
  · rw [hnumbered] at hname
    obtain ⟨i, -, rfl⟩ := List.mem_map.mp hname
    exact isWord_numberedName i

theorem isItem_of_mem_criteria (h : of topology addresses bindings = .ok origins) {c : String}
    (hc : c ∈ origins.criteria) : IsItem c := by
  rcases criterion_declared h hc with rfl | hname
  · exact isItem_anyContract
  · exact (isWord_of_mem_names h hname).isItem

end Origins

namespace Plan

theorem isWord_eventConstantName (i : Nat) : IsWord (eventConstantName i) := by
  have hnumber : IsWord ("EVENT_" ++ toString i) := IsWord.append (by decide) (isWord_toString i)
  exact hnumber.append (by decide)

/-- What the constructor does before, in and after its subscriptions. -/
def instructions (p : Plan) : List Instruction :=
  (if p.pausableTable.isSome then [.assign "paused" [.word "false"]] else [])
  ++ (p.owner.map fun a => Instruction.assign "owner" [.word a.text]).toList
  ++ [.declare "bool" "subscription_failed" [.word "false"]]
  ++ p.subscriptions.flatMap Subscription.instructions
  ++ [.assign "vm" [.word "subscription_failed"]]

private theorem writes_constructorBody {p : Plan} (h : ∀ s ∈ p.subscriptions,
    IsWord s.resultName ∧ ∀ a ∈ s.criteria.arguments, IsItem a) :
    Writes p.constructorBody p.instructions := by
  have hnone : Writes [] [] := ⟨by simp, rfl, by simp⟩
  have hpaused : Writes (if p.pausableTable.isSome then ["paused = false;"] else [])
      (if p.pausableTable.isSome then [.assign "paused" [.word "false"]] else []) := by
    split
    · exact .line (by decide) (by decide) (Instruction.readable_assign (by decide))
    · exact hnone
  have hfailed : Writes ["bool subscription_failed = false;"]
      [.declare "bool" "subscription_failed" [.word "false"]] :=
    .line (by decide) (by decide) (Instruction.readable_declare (by decide))
  have hsubscriptions : Writes p.subscriptionLines
      (p.subscriptions.flatMap Subscription.instructions) :=
    .flatMap fun s hs => (Subscription.writes (h s hs).1 (h s hs).2).blank
  have hvm : Writes ["", "vm = subscription_failed;"]
      [.assign "vm" [.word "subscription_failed"]] :=
    (Writes.line (by decide) (by decide) (Instruction.readable_assign (by decide))).blank
  refine (((hpaused.append ?_).append hfailed).append hsubscriptions).append hvm
  cases p.owner with
  | none => exact hnone
  | some a =>
    have hsur : Surrounds "owner = " ";" := by decide
    refine .line (closed_surrounded hsur a.isWord_text) (tokens_surrounded hsur a.isWord_text)
      (Instruction.readable_assign ?_)
    simp [Instruction.IsPlain, semicolon]

/-- What is asked of the instructions but not of assignments: the declaration, then the calls. -/
theorem filterMap_instructions {β : Type} {f : Instruction → Option β}
    (hf : ∀ name value, f (.assign name value) = none) (p : Plan) :
    p.instructions.filterMap f
      = (f (.declare "bool" "subscription_failed" [.word "false"])).toList
        ++ p.subscriptions.filterMap fun s =>
          f (.call s.resultName subscribeSignature (s.criteria.arguments.map tokens)) := by
  have hsubscriptions : ∀ l : List Subscription,
      (l.flatMap Subscription.instructions).filterMap f = l.filterMap fun s =>
        f (.call s.resultName subscribeSignature (s.criteria.arguments.map tokens)) := by
    intro l
    induction l with
    | nil => rfl
    | cons s l ih =>
      rw [List.flatMap_cons, List.filterMap_append, ih, Subscription.instructions,
        List.filterMap_cons (l := l)]
      cases hs : f (.call s.resultName subscribeSignature (s.criteria.arguments.map tokens)) <;>
        simp [hs, hf]
  have hpaused : (if p.pausableTable.isSome then [Instruction.assign "paused" [.word "false"]]
      else []).filterMap f = [] := by
    split <;> simp [hf]
  have howner : ((p.owner.map fun a => Instruction.assign "owner" [.word a.text]).toList).filterMap
      f = [] := by
    cases p.owner <;> simp [hf]
  simp only [instructions, List.filterMap_append, hsubscriptions, hpaused, howner]
  cases hd : f (.declare "bool" "subscription_failed" [.word "false"]) <;> simp [hd, hf]

/-- The test of an address is not read as a table. -/
private theorem read?_allowList {l : AllowList} {lines : List String} (h : l.render? = some lines) :
    SubscriptionTable.read? (joinLines (indent 1 lines)) = none := by
  obtain ⟨rest, hlines⟩ : ∃ rest, indent 1 lines
      = ("    " ++ "function isApplicableAddress(address addr) private pure returns (bool) \x7b")
        :: rest := by
    unfold AllowList.render? at h
    split at h
    · cases h
    · rw [← Option.some.inj h]
      exact ⟨_, rfl⟩
  have hclosed : Closed ("    "
      ++ "function isApplicableAddress(address addr) private pure returns (bool) \x7b") := by
    decide +kernel
  have hhead : (tokens ("    "
      ++ "function isApplicableAddress(address addr) private pure returns (bool) \x7b")).take 2
      = [.word "function", .word "isApplicableAddress"] := by decide +kernel
  obtain ⟨ts, hts⟩ := exists_tokens_joinLines hclosed hhead rest
  rw [SubscriptionTable.read?, hlines, hts]
  rfl

/-- The only table among the functions is the one that a pause needs. -/
private theorem tables_functionTexts (p : Plan) :
    p.functionTexts.filterMap SubscriptionTable.read?
      = p.pausableTable.toList.filterMap fun t =>
          SubscriptionTable.read? (joinLines (indent 1 t.render)) := by
  have htests : ((p.allowList.bind AllowList.render?).toList.map
      fun lines => joinLines (indent 1 lines)).filterMap SubscriptionTable.read? = [] := by
    cases hr : p.allowList.bind AllowList.render? with
    | none => rfl
    | some lines =>
      obtain ⟨l, -, hl⟩ := Option.bind_eq_some_iff.mp hr
      simp [read?_allowList hl]
  unfold functionTexts helperBlocks
  rw [List.map_append, List.filterMap_append, htests, List.append_nil]
  cases p.pausableTable <;> rfl

/-- The arguments of the subscription of an index to a contract. -/
def subscriptionArguments (contract : String) (i : Nat) : List (List Token) :=
  ["ORIGIN_CHAIN_ID", contract, eventConstantName i, anyTopic, anyTopic, anyTopic].map tokens

theorem arguments_subscriptionsOf {criteria : List String} (h : ∀ c ∈ criteria, IsItem c) :
    ∀ s ∈ subscriptionsOf criteria, IsWord s.resultName ∧ ∀ a ∈ s.criteria.arguments, IsItem a := by
  intro s hs
  obtain ⟨⟨c, i⟩, hc, rfl⟩ := List.mem_map.mp hs
  have hcontract : IsItem c := h c (List.fst_mem_of_mem_zipIdx hc)
  have hchain : IsWord "ORIGIN_CHAIN_ID" := by decide
  have hany : IsWord anyTopic := by decide
  have hname : IsWord ("subscribed_" ++ toString i) := IsWord.append (by decide) (isWord_toString i)
  have htopic := isWord_eventConstantName i
  refine ⟨hname, ?_⟩
  simp only [Criteria.arguments, List.forall_mem_cons, hcontract, hchain.isItem, hany.isItem,
    htopic.isItem, true_and]
  simp

section Assembled
variable {spec : Spec} {origins : Origins} {branches : List Branch}

/-- The calls of the constructor, one for each criterion. -/
theorem calls_assemble :
    (assemble spec origins branches).instructions.filterMap Instruction.call?
      = origins.criteria.zipIdx.map fun (c, i) =>
          (subscribeSignature, subscriptionArguments c i) := by
  have hsubscriptions : (assemble spec origins branches).subscriptions
      = subscriptionsOf origins.criteria := rfl
  rw [filterMap_instructions fun _ _ => rfl, hsubscriptions, subscriptionsOf, List.filterMap_map]
  exact congrFun List.filterMap_eq_map _

theorem readInstructions?_assemble (ho : Origins.ofSpec spec = .ok origins) :
    readInstructions? (assemble spec origins branches).constructorText
      = some (assemble spec origins branches).instructions := by
  have hargs := arguments_subscriptionsOf fun c hc => Origins.isItem_of_mem_criteria ho hc
  exact readInstructions?_eq_some (writes_constructorBody hargs) 2

/-- The table of a plan that has one. -/
theorem read?_table (ho : Origins.ofSpec spec = .ok origins) {t : SubscriptionTable}
    (ht : (assemble spec origins branches).pausableTable = some t) :
    SubscriptionTable.read? (joinLines (indent 1 t.render))
      = some {
          size := toString spec.bindings.length
          entries := origins.criteria.zipIdx.map fun (c, i) =>
            (toString i, subscriptionArguments c i) } := by
  have hentries : t.entries = (subscriptionsOf origins.criteria).map (·.criteria) := by
    obtain ⟨-, hsome⟩ := Option.ite_none_right_eq_some.mp ht
    cases hsome
    rfl
  have hitems : ∀ c ∈ t.entries, ∀ a ∈ c.arguments, IsItem a := by
    rw [hentries, List.forall_mem_map]
    intro s hs
    exact (arguments_subscriptionsOf (fun c hc => Origins.isItem_of_mem_criteria ho hc) s hs).2
  have hsize : t.entries.length = spec.bindings.length := by
    rw [hentries, ← Origins.length_criteria ho]
    simp [subscriptionsOf]
  have hread : t.entries.zipIdx.map (fun e => (toString e.2, e.1.arguments.map tokens))
      = origins.criteria.zipIdx.map fun (c, i) => (toString i, subscriptionArguments c i) := by
    rw [hentries]
    apply List.ext_getElem
    · simp [subscriptionsOf]
    · intro i hi hi'
      simp [subscriptionsOf, subscriptionArguments, Criteria.arguments]
  rw [SubscriptionTable.read?_render hitems, hsize, ← hread]

end Assembled

/-- The constructor makes one subscription for each binding, to the origin of the binding. With a
pause, the one table of the contract lists the same subscriptions in the same order; without one,
there is no table. -/
theorem ofSpec_subscribes {spec : Spec} {plan : Plan} (hp : (ofSpec spec).outcome = .ok plan) :
    ∃ origins is, Origins.ofSpec spec = .ok origins
      ∧ origins.criteria.length = spec.bindings.length
      ∧ Within plan.constructorLines plan.render
      ∧ readInstructions? plan.constructorText = some is
      ∧ is.filterMap Instruction.call?
        = origins.criteria.zipIdx.map (fun (c, i) =>
          (subscribeSignature, subscriptionArguments c i))
      ∧ (∀ text ∈ plan.functionTexts, Within [text] plan.render)
      ∧ (spec.settings.pausable = true →
        plan.functionTexts.filterMap SubscriptionTable.read? = [{
          size := toString spec.bindings.length
          entries := origins.criteria.zipIdx.map fun (c, i) =>
            (toString i, subscriptionArguments c i) }])
      ∧ (spec.settings.pausable = false →
        plan.functionTexts.filterMap SubscriptionTable.read? = [] ∧ plan.pausableTable = none
          ∧ Within ["contract " ++ spec.settings.contractName ++ " is AbstractReactive \x7b"]
            plan.render) := by
  obtain ⟨-, origins, branches, ho, -, rfl⟩ := ofSpec_eq_ok.mp hp
  refine ⟨origins, _, ho, Origins.length_criteria ho, constructor_within _,
    readInstructions?_assemble ho, calls_assemble, fun text => function_within _, fun hpause => ?_,
    fun hpause => ?_⟩
  · have hsome : (assemble spec origins branches).pausableTable
        = some ⟨(subscriptionsOf origins.criteria).map (·.criteria)⟩ := if_pos hpause
    rw [tables_functionTexts, hsome, Option.toList_some, List.filterMap_cons,
      read?_table ho hsome, List.filterMap_nil]
  · have hnone : (assemble spec origins branches).pausableTable = none := by
      simp [assemble, hpause]
    have hbase : (assemble spec origins branches).baseContract = "AbstractReactive" := by
      simp [assemble, baseOf, hpause]
    have hhead := head_within (assemble spec origins branches)
    rw [hbase] at hhead
    refine ⟨?_, hnone, hhead⟩
    rw [tables_functionTexts, hnone]
    rfl

/-- Logs of two contracts that are passed on until the owner pauses that. -/
def pausableSpec : Spec :=
  { servedSpec with
    settings := { transferSpec.settings with
      topology := .protocolToProtocol, origins := [⟨1⟩, ⟨2⟩, ⟨1⟩], pausable := true
      owner := some ⟨1⟩ } }

def pausablePlan : Plan :=
  assemble pausableSpec (Origins.ofEach [⟨1⟩, ⟨2⟩, ⟨1⟩]) servedBranches

private theorem ofSpec_pausableSpec : (ofSpec pausableSpec).outcome = .ok pausablePlan :=
  ofSpec_eq_ok.mpr ⟨rfl, _, _, rfl, branches_servedSpec, rfl⟩

/-- The first and the last subscription have one contract for their origin. -/
theorem pausablePlan_subscribes :
    (ofSpec pausableSpec).outcome = .ok pausablePlan
      ∧ (∃ is, readInstructions? pausablePlan.constructorText = some is
        ∧ is.filterMap Instruction.call? = [
          (subscribeSignature, subscriptionArguments "ORIGIN_CONTRACT_0" 0),
          (subscribeSignature, subscriptionArguments "ORIGIN_CONTRACT_1" 1),
          (subscribeSignature, subscriptionArguments "ORIGIN_CONTRACT_0" 2)])
      ∧ pausablePlan.functionTexts.filterMap SubscriptionTable.read? = [⟨"3", [
        ("0", subscriptionArguments "ORIGIN_CONTRACT_0" 0),
        ("1", subscriptionArguments "ORIGIN_CONTRACT_1" 1),
        ("2", subscriptionArguments "ORIGIN_CONTRACT_0" 2)]⟩] := by
  obtain ⟨origins, is, ho, -, -, hread, hcalls, -, htable, -⟩ :=
    ofSpec_subscribes ofSpec_pausableSpec
  have horigins : origins = Origins.ofEach [⟨1⟩, ⟨2⟩, ⟨1⟩] := (Except.ok.inj ho).symm
  rw [horigins] at hcalls
  rw [htable rfl, horigins]
  exact ⟨ofSpec_pausableSpec, ⟨is, hread, hcalls⟩, rfl⟩

end Plan
end ReactiveContract
