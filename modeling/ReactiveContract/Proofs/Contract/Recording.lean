import ReactiveContract.Proofs.Contract.Scope
import ReactiveContract.Proofs.Solidity.Execution
/-! What the constructor of a contract records of its subscriptions: whether any of them failed. -/
namespace ReactiveContract.Plan
open Solidity Text

theorem resultName_ne {stem other : String} (h : Incomparable "subscribed_" stem)
    (hstem : stem.toList <+: other.toList) (i : Nat) : resultName i ≠ other :=
  ne_of_stems h (prefix_append "subscribed_" (toString i)) hstem

theorem isFresh_resultName (i : Nat) : Subscription.IsFresh (resultName i) := by
  have htrue : resultName i ≠ "true" := resultName_ne (by decide) List.prefix_rfl i
  have hfalse : resultName i ≠ "false" := resultName_ne (by decide) List.prefix_rfl i
  have hrecord : resultName i ≠ "subscription_failed" := resultName_ne (by decide) List.prefix_rfl i
  exact ⟨htrue, hfalse, hrecord⟩

theorem word_notMem_tokens {word name : String} (hw : IsWord word) (hne : name ≠ word) :
    .word name ∉ tokens word := by
  rw [hw.tokens_eq, List.mem_singleton]
  intro h
  exact hne (Token.word.inj h)

/-- What the constructor assigns before its subscriptions. -/
def prologue (p : Plan) : List Instruction :=
  (if p.pausableTable.isSome then [.assign "paused" [.word "false"]] else [])
  ++ (p.owner.map fun a => Instruction.assign "owner" [.word a.text]).toList

theorem instructions_eq (p : Plan) :
    p.instructions = p.prologue ++ ([.declare "bool" "subscription_failed" [.word "false"]]
      ++ (p.subscriptions.flatMap Subscription.instructions
        ++ [.assign "vm" [.word "subscription_failed"]])) := by
  simp only [instructions, prologue, List.append_assoc]

theorem mem_prologue {p : Plan} {i : Instruction} (h : i ∈ p.prologue) :
    i = .assign "paused" [.word "false"] ∨ ∃ a : Address, i = .assign "owner" [.word a.text] := by
  rcases List.mem_append.mp h with hpaused | howner
  · left
    split at hpaused
    · exact List.mem_singleton.mp hpaused
    · simp at hpaused
  · right
    obtain ⟨a, -, ha⟩ := Option.map_eq_some_iff.mp (Option.mem_toList.mp howner)
    exact ⟨a, ha.symm⟩

/-- Each call takes its outcome, and the contract keeps whether one of them is a failure. -/
private theorem execute?_constructor {p : Plan}
    (hnames : ∀ s ∈ p.subscriptions, Subscription.IsFresh s.resultName) (store : Store)
    {outcomes : List Bool} (hlen : outcomes.length = p.subscriptions.length) :
    ∃ store', execute? p.instructions (store, outcomes) = some (store', [])
      ∧ store' "vm" = some (outcomes.any not) := by
  have hassigns : ∀ i ∈ p.prologue, ∃ name value, i = .assign name value := by
    intro i hi
    rcases mem_prologue hi with rfl | ⟨a, rfl⟩
    · exact ⟨_, _, rfl⟩
    · exact ⟨_, _, rfl⟩
  obtain ⟨begun, hbegun⟩ := execute?_assignments hassigns store outcomes
  have hdeclared : (begun.set "subscription_failed" (some false)) "subscription_failed"
      = some false := begun.set_self "subscription_failed" (some false)
  obtain ⟨recorded, hrun, hrecord⟩ := Subscription.execute?_flatMap hnames hdeclared hlen
  rw [Bool.false_or] at hrecord
  refine ⟨recorded.set "vm" (recorded "subscription_failed"), ?_, ?_⟩
  · have hlast : execute? [.assign "vm" [.word "subscription_failed"]] (recorded, [])
        = some (recorded.set "vm" (recorded "subscription_failed"), []) := by
      have hvalue : recorded.value? [.word "subscription_failed"]
          = recorded "subscription_failed" := recorded.value?_word "subscription_failed"
      simp [execute?, Instruction.execute?, hvalue]
    rw [instructions_eq, execute?_append, hbegun, Option.bind_some, execute?_append]
    change execute? _ (begun.set "subscription_failed" (some false), outcomes) = _
    rw [execute?_append, hrun, Option.bind_some, hlast]
  · rw [Store.set_self, hrecord]

section Assembled
variable {spec : Spec} {origins : Origins} {branches : List Branch}

private theorem resultName_of_mem {s : Subscription} (h : s ∈ subscriptionsOf origins.criteria) :
    ∃ i, s.resultName = resultName i := by
  have hname : s.resultName ∈ (subscriptionsOf origins.criteria).map Subscription.resultName :=
    List.mem_map_of_mem h
  rw [resultNames_subscriptionsOf] at hname
  obtain ⟨i, -, hi⟩ := List.mem_map.mp hname
  exact ⟨i, hi.symm⟩

private theorem resultName_notMem_criterion (ho : Origins.ofSpec spec = .ok origins) {c : String}
    (hc : c ∈ origins.criteria) (i : Nat) : .word (resultName i) ∉ tokens c := by
  rcases Origins.criterion_declared ho hc with rfl | hname
  · have haddress : resultName i ≠ "address" := resultName_ne (by decide) List.prefix_rfl i
    have hzero : resultName i ≠ "0" := resultName_ne (by decide) List.prefix_rfl i
    have htokens : tokens Origins.anyContract
        = [.word "address", .symbol '(', .word "0", .symbol ')'] := by decide
    simp [htokens, haddress, hzero]
  · have hstem : Origins.sharedName.toList <+: c.toList := (family_origins ho).2 c hname
    have hne : resultName i ≠ c := resultName_ne (by decide) hstem i
    exact word_notMem_tokens (Origins.isWord_of_mem_names ho hname) hne

/-- No subscription has a result among its arguments. -/
private theorem resultName_notMem_arguments (ho : Origins.ofSpec spec = .ok origins) (i : Nat) :
    ∀ s ∈ subscriptionsOf origins.criteria, ∀ a ∈ s.criteria.arguments,
      .word (resultName i) ∉ tokens a := by
  intro s hs
  obtain ⟨⟨c, j⟩, hc, rfl⟩ := List.mem_map.mp hs
  have hcontract : .word (resultName i) ∉ tokens c :=
    resultName_notMem_criterion ho (List.fst_mem_of_mem_zipIdx hc) i
  have hchain : .word (resultName i) ∉ tokens "ORIGIN_CHAIN_ID" :=
    word_notMem_tokens (by decide) (resultName_ne (by decide) List.prefix_rfl i)
  have hignored : Incomparable "subscribed_" anyTopic := by decide
  have hany : .word (resultName i) ∉ tokens anyTopic :=
    word_notMem_tokens (by decide) (resultName_ne hignored List.prefix_rfl i)
  have htopic : .word (resultName i) ∉ tokens (eventConstantName j) :=
    word_notMem_tokens (isWord_eventConstantName j)
      (resultName_ne (by decide) (prefix_append "EVENT_" (toString j ++ "_TOPIC_0")) i)
  simp only [Criteria.arguments, List.forall_mem_cons, hcontract, hchain, hany, htopic,
    not_false_eq_true, true_and]
  simp

/-- What the constructor evaluates apart from its subscriptions has no result of one in it. -/
private theorem resultName_notMem_prologue (p : Plan) (i : Nat) :
    Token.word (resultName i) ∉ (p.prologue
      ++ [Instruction.declare "bool" "subscription_failed" [.word "false"]]).flatMap
        Instruction.reads := by
  have hfalse : resultName i ≠ "false" := (isFresh_resultName i).2.1
  rw [List.flatMap_append, List.mem_append, not_or]
  constructor
  · intro h
    obtain ⟨x, hx, hread⟩ := List.mem_flatMap.mp h
    rcases mem_prologue hx with rfl | ⟨a, rfl⟩
    · exact hfalse (Token.word.inj (List.mem_singleton.mp hread))
    · have hmark : a.text.toList = '0' :: 'x' :: a.checksumDigits := by
        rw [Address.text, String.toList_ofList]
      have hstem : "0x".toList <+: a.text.toList := ⟨a.checksumDigits, hmark.symm⟩
      have hne : resultName i ≠ a.text := resultName_ne (by decide) hstem i
      exact hne (Token.word.inj (List.mem_singleton.mp hread))
  · simp [Instruction.reads, hfalse]

/-- The result of each call is read once, and after the call. -/
private theorem reads_assemble (ho : Origins.ofSpec spec = .ok origins) {i : Nat}
    (hi : i < origins.criteria.length) :
    ReadsDeclared (resultName i) [] (assemble spec origins branches).instructions
      ∧ ((assemble spec origins branches).instructions.flatMap Instruction.reads).count
        (.word (resultName i)) = 1 := by
  have hargs := resultName_notMem_arguments ho i
  have hrecord := (isFresh_resultName i).2.2
  have hbefore := resultName_notMem_prologue (assemble spec origins branches) i
  have hafter : .word (resultName i) ∉ [Instruction.assign "vm"
      [.word "subscription_failed"]].flatMap Instruction.reads := by
    simp [Instruction.reads, hrecord]
  have hinstructions : (assemble spec origins branches).instructions
      = ((assemble spec origins branches).prologue
          ++ [.declare "bool" "subscription_failed" [.word "false"]])
        ++ ((subscriptionsOf origins.criteria).flatMap Subscription.instructions
          ++ [.assign "vm" [.word "subscription_failed"]]) := by
    rw [instructions_eq, ← List.append_assoc]
    rfl
  rw [hinstructions]
  constructor
  · rw [readsDeclared_append]
    constructor
    · exact readsDeclared_of_notMem hbefore _
    · rw [readsDeclared_append]
      constructor
      · exact Subscription.readsDeclared_flatMap hargs hrecord _
      · exact readsDeclared_of_notMem hafter _
  · have hnodup : ((List.range origins.criteria.length).map resultName).Nodup :=
      nodup_numbered (fun i j => append_toString_injective _) _
    have hmem : resultName i ∈ (List.range origins.criteria.length).map resultName :=
      List.mem_map_of_mem (List.mem_range.mpr hi)
    rw [List.flatMap_append, List.count_append, List.count_eq_zero.mpr hbefore, List.flatMap_append,
      List.count_append, List.count_eq_zero.mpr hafter, Subscription.count_reads hargs hrecord,
      resultNames_subscriptionsOf, List.count_eq_one_of_mem hnodup hmem]

end Assembled

/-- The constructor of every accepted plan declares the record of failures and a result for each
binding. Whatever the outcomes of its calls, it ends with the contract marked exactly if one of
them is a failure, and each result is read once, after it has been declared. -/
theorem ofSpec_records {spec : Spec} {plan : Plan} (hp : (ofSpec spec).outcome = .ok plan) :
    ∃ is, Within plan.constructorLines plan.render
      ∧ readInstructions? plan.constructorText = some is
      ∧ is.filterMap Instruction.local?
        = "subscription_failed" :: (List.range spec.bindings.length).map resultName
      ∧ (∀ (store : Store) (outcomes : List Bool), outcomes.length = spec.bindings.length →
        ∃ store', execute? is (store, outcomes) = some (store', [])
          ∧ store' "vm" = some (decide (false ∈ outcomes)))
      ∧ ∀ i < spec.bindings.length, ReadsDeclared (resultName i) [] is
        ∧ (is.flatMap Instruction.reads).count (.word (resultName i)) = 1 := by
  obtain ⟨-, origins, branches, ho, -, rfl⟩ := ofSpec_eq_ok.mp hp
  have hlen : origins.criteria.length = spec.bindings.length := Origins.length_criteria ho
  refine ⟨_, constructor_within _, readInstructions?_assemble ho, ?_, ?_, ?_⟩
  · rw [locals_assemble, hlen]
  · intro store outcomes houtcomes
    have hnames : ∀ s ∈ (assemble spec origins branches).subscriptions,
        Subscription.IsFresh s.resultName := by
      intro s hs
      obtain ⟨i, hi⟩ := resultName_of_mem hs
      rw [hi]
      exact isFresh_resultName i
    have hcalls : outcomes.length = (assemble spec origins branches).subscriptions.length := by
      rw [houtcomes, ← hlen]
      simp [assemble, subscriptionsOf]
    obtain ⟨store', hrun, hvm⟩ := execute?_constructor hnames store hcalls
    have hany : outcomes.any not = decide (false ∈ outcomes) := by
      rw [Bool.eq_iff_iff]
      simp
    exact ⟨store', hrun, hany ▸ hvm⟩
  · intro i hi
    exact reads_assemble ho (hlen ▸ hi)

/-- The second of three subscriptions fails. -/
theorem listedPlan_records :
    (ofSpec listedSpec).outcome = .ok listedPlan
      ∧ ∃ is, readInstructions? listedPlan.constructorText = some is
        ∧ is.filterMap Instruction.local?
          = ["subscription_failed", "subscribed_0", "subscribed_1", "subscribed_2"]
        ∧ ∀ store, ∃ store', execute? is (store, [true, false, true]) = some (store', [])
          ∧ store' "vm" = some true := by
  obtain ⟨is, -, hread, hlocals, hrun, -⟩ := ofSpec_records ofSpec_listedSpec
  refine ⟨ofSpec_listedSpec, is, hread, ?_, ?_⟩
  · rw [hlocals]
    rfl
  · intro store
    exact hrun store [true, false, true] rfl

end ReactiveContract.Plan
