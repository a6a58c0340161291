import ReactiveContract.Proofs.Contract.Subscription
import ReactiveContract.Proofs.Solidity.Condition
/-! The names of a contract: its constants and locals are distinct, and the constants that its
subscriptions, its table, its dispatch and its list of addresses use are declared. -/
namespace ReactiveContract
open Solidity Text

/-- Neither text begins the other. -/
def Incomparable (s t : String) : Prop := ¬ s.toList <+: t.toList ∧ ¬ t.toList <+: s.toList

instance : DecidableRel Incomparable := fun s t =>
  inferInstanceAs (Decidable (¬ s.toList <+: t.toList ∧ ¬ t.toList <+: s.toList))

/-- Names with stems that cannot be confused are different. -/
theorem ne_of_stems {s t name other : String} (h : Incomparable s t)
    (hs : s.toList <+: name.toList) (ht : t.toList <+: other.toList) : name ≠ other := by
  rintro rfl
  rcases List.prefix_or_prefix_of_prefix hs ht with hle | hle
  · exact h.1 hle
  · exact h.2 hle

/-- Families of names whose stems cannot be confused have no name in common. -/
theorem nodup_families {families : List (String × List String)}
    (hstems : families.Pairwise fun f g => Incomparable f.1 g.1)
    (h : ∀ f ∈ families, f.2.Nodup ∧ ∀ name ∈ f.2, f.1.toList <+: name.toList) :
    (families.flatMap (·.2)).Nodup := by
  rw [List.nodup_flatMap]
  refine ⟨fun f hf => (h f hf).1, ?_⟩
  refine hstems.imp_of_mem fun {f g} hf hg hfg => ?_
  intro name hnf hng
  exact ne_of_stems hfg ((h f hf).2 name hnf) ((h g hg).2 name hng) rfl

/-- The only item with a property is the first one. -/
theorem find?_eq_some_of_unique {α : Type} {p : α → Bool} {xs : List α} {x : α} (hx : x ∈ xs)
    (hp : p x = true) (hunique : ∀ y ∈ xs, p y = true → y = x) : xs.find? p = some x := by
  obtain ⟨y, hy⟩ := Option.isSome_iff_exists.mp (List.find?_isSome.mpr ⟨x, hx, hp⟩)
  rw [hy, hunique y (List.mem_of_find?_eq_some hy) (List.find?_some hy)]

/-- A constant whose name no other constant has is the first one of its name. -/
theorem Solidity.Constant.find?_of_mem {constants : List Constant}
    (hnames : (constants.map (·.name)).Nodup) {c : Constant} (hc : c ∈ constants) :
    constants.find? (·.name = c.name) = some c :=
  find?_eq_some_of_unique hc (decide_eq_true rfl) fun _ hd hname =>
    List.inj_on_of_nodup_map hnames hd hc (of_decide_eq_true hname)

namespace Plan

/-- All constants, in the order of their declarations. -/
def declarations (p : Plan) : List Constant :=
  [⟨"uint256", "ORIGIN_CHAIN_ID", toString p.originChainId⟩,
    ⟨"uint256", "DESTINATION_CHAIN_ID", toString p.destinationChainId⟩]
  ++ p.originConstants
  ++ [⟨"address", "DESTINATION_CONTRACT", p.destination.text⟩,
    ⟨"uint64", "CALLBACK_GAS_LIMIT", toString p.callbackGasLimit⟩]
  ++ p.constants

/-- There is exactly one constant of a name. -/
def Declares (p : Plan) (name : String) : Prop := (p.declarations.map (·.name)).count name = 1

/-- An argument of a subscription is any topic, any contract, or a constant of the contract. -/
def InScope (p : Plan) (argument : List Token) : Prop :=
  argument = tokens anyTopic ∨ argument = tokens Origins.anyContract
    ∨ ∃ name, argument = [.word name] ∧ p.Declares name

structure WellScoped (p : Plan) : Prop where
  /-- Apart from empty lines, declarations are all there is before the constructor. -/
  declared : ∃ lines rest,
    p.contractText = joinLines (s!"contract {p.contractName} is {p.baseContract} \x7b" :: lines
        ++ "    constructor() \x7b" :: rest)
      ∧ lines.filter (· ≠ "") = p.declarations.map fun c => indentUnit ++ c.render
  distinct : (p.declarations.map (·.name)).Nodup
  subscribed : ∃ is, readInstructions? p.constructorText = some is
    ∧ (is.filterMap Instruction.local?).Nodup
    ∧ ∀ call ∈ is.filterMap Instruction.call?, ∀ a ∈ call.2, p.InScope a
  tabled : ∀ t ∈ p.pausableTable, ∃ r,
    SubscriptionTable.read? (joinLines (indent 1 t.render)) = some r
      ∧ ∀ e ∈ r.entries, ∀ a ∈ e.2, p.InScope a
  dispatched : ∀ b ∈ p.dispatch.branches, ∀ first, ∃ name,
    readHead? (b.head first) = some name ∧ p.Declares name
  listed : ∀ l ∈ p.allowList, ∀ lines ∈ l.render?, ∃ names,
    AllowList.read? (joinLines (indent 1 lines)) = some names ∧ ∀ name ∈ names, p.Declares name

/-- Lines as they come out of joining them: no lines are one empty line. -/
theorem exists_lines (lines : List String) (h : ∀ line ∈ lines, line ≠ "") :
    ∃ lines', lines'.filter (· ≠ "") = lines
      ∧ ∀ before after, joinLines (before ++ [joinLines lines] ++ after)
        = joinLines (before ++ lines' ++ after) := by
  by_cases hnil : lines = []
  · subst hnil
    exact ⟨[""], rfl, fun _ _ => rfl⟩
  · exact ⟨lines, List.filter_eq_self.mpr (by simpa using h), fun _ _ => joinLines_joined hnil⟩

theorem render_ne_empty (c : Constant) : c.render ≠ "" := by
  intro h
  have hl : (c.type ++ " private constant " ++ c.name ++ " = " ++ c.value ++ ";").toList = [] :=
    congrArg String.toList h
  simp [String.toList_append] at hl

/-- The lines that declare constants. -/
def written (cs : List Constant) : List String := cs.map fun c => indentUnit ++ c.render

theorem indent_constants (cs : List Constant) : indent 1 (cs.map Constant.render) = written cs := by
  rw [indent, List.map_map]
  refine List.map_congr_left fun c _ => ?_
  exact if_neg (render_ne_empty c)

theorem ne_empty_of_mem_written {cs : List Constant} : ∀ line ∈ written cs, line ≠ "" := by
  rw [written, List.forall_mem_map]
  intro c _ h
  have hl := congrArg String.toList h
  rw [String.toList_append] at hl
  simp [indentUnit] at hl

private theorem filter_written (cs : List Constant) : (written cs).filter (· ≠ "") = written cs :=
  List.filter_eq_self.mpr fun line hline => decide_eq_true (ne_empty_of_mem_written line hline)

theorem render_eq_append {c : Constant} {opening : String}
    (h : indentUnit ++ (c.type ++ (" private constant " ++ (c.name ++ " = "))) = opening) :
    indentUnit ++ c.render = opening ++ c.value ++ ";" := by
  have hrender : c.render
      = c.type ++ " private constant " ++ c.name ++ " = " ++ c.value ++ ";" := rfl
  rw [← h, hrender]
  simp only [String.append_assoc]

/-- The constants before those of the origins. -/
def chainConstants (p : Plan) : List Constant := [
  ⟨"uint256", "ORIGIN_CHAIN_ID", toString p.originChainId⟩,
  ⟨"uint256", "DESTINATION_CHAIN_ID", toString p.destinationChainId⟩]

/-- The constants after those of the origins. -/
def callbackConstants (p : Plan) : List Constant := [
  ⟨"address", "DESTINATION_CONTRACT", p.destination.text⟩,
  ⟨"uint64", "CALLBACK_GAS_LIMIT", toString p.callbackGasLimit⟩]

theorem written_chainConstants (p : Plan) : written p.chainConstants = [
    "    uint256 private constant ORIGIN_CHAIN_ID = " ++ toString p.originChainId ++ ";",
    "    uint256 private constant DESTINATION_CHAIN_ID = " ++ toString p.destinationChainId
      ++ ";"] := by
  simp only [written, chainConstants, List.map_cons, List.map_nil]
  rw [render_eq_append rfl, render_eq_append rfl]
  rfl

theorem written_callbackConstants (p : Plan) : written p.callbackConstants = [
    "    address private constant DESTINATION_CONTRACT = " ++ p.destination.text ++ ";",
    "    uint64 private constant CALLBACK_GAS_LIMIT = " ++ toString p.callbackGasLimit
      ++ ";"] := by
  simp only [written, callbackConstants, List.map_cons, List.map_nil]
  rw [render_eq_append rfl, render_eq_append rfl]
  rfl

/-- The source up to its constructor. -/
private theorem contractText_written (p : Plan) : ∃ rest,
    p.contractText = joinLines ((s!"contract {p.contractName} is {p.baseContract} \x7b"
        :: written p.chainConstants) ++ [joinLines (written p.originConstants)]
      ++ (written p.callbackConstants ++ [""] ++ [joinLines (written p.constants)]
        ++ ("" :: "    constructor() \x7b" :: rest))) := by
  refine ⟨[p.constructorText, "    \x7d", "", "    receive() external payable \x7b\x7d", p.helpers]
    ++ p.reaction, ?_⟩
  rw [written_chainConstants, written_callbackConstants, ← indent_constants, ← indent_constants]
  rfl

private theorem declarations_only (p : Plan) : ∃ lines rest,
    p.contractText = joinLines (s!"contract {p.contractName} is {p.baseContract} \x7b" :: lines
        ++ "    constructor() \x7b" :: rest)
      ∧ lines.filter (· ≠ "") = p.declarations.map fun c => indentUnit ++ c.render := by
  obtain ⟨rest, htext⟩ := p.contractText_written
  obtain ⟨origins, horigins, hjoin⟩ :=
    exists_lines (written p.originConstants) ne_empty_of_mem_written
  obtain ⟨others, hothers, hjoin'⟩ := exists_lines (written p.constants) ne_empty_of_mem_written
  refine ⟨written p.chainConstants ++ origins ++ written p.callbackConstants ++ [""] ++ others
    ++ [""], rest, ?_, ?_⟩
  · have hnext := hjoin' ((s!"contract {p.contractName} is {p.baseContract} \x7b"
        :: written p.chainConstants) ++ origins ++ written p.callbackConstants ++ [""])
      ("" :: "    constructor() \x7b" :: rest)
    rw [htext, hjoin]
    simp only [List.append_assoc, List.cons_append, List.nil_append] at hnext ⊢
    exact hnext
  · have hdeclared : p.declarations.map (fun c => indentUnit ++ c.render)
        = written p.chainConstants ++ written p.originConstants ++ written p.callbackConstants
          ++ written p.constants := by
      simp only [written, ← List.map_append]
      rfl
    simp only [List.filter_append, horigins, hothers, filter_written, hdeclared]
    simp

/-- The name of the constant for an allowed address. -/
def addressName (i : Nat) : String := AllowList.constantName (toString i)

/-- The name of the variable for the result of a subscription. -/
def resultName (i : Nat) : String := "subscribed_" ++ toString i

theorem isWord_addressName (i : Nat) : IsWord (addressName i) :=
  IsWord.append (s := "APPLICABLE_ADDRESS_") (by decide) (isWord_toString i)

private theorem names_eventConstantsOf (bindings : List Binding) :
    (eventConstantsOf bindings).map (·.name)
      = (List.range bindings.length).map eventConstantName := by
  rw [eventConstantsOf, List.map_map, ← map_zipIdx_index]
  rfl

theorem names_allowList (l : AllowList) :
    l.constants.map (·.name) = (List.range l.addresses.length).map addressName := by
  rw [AllowList.constants, List.map_map, ← map_zipIdx_index]
  rfl

/-- The names of a plan's constants, by the stems that they begin with. -/
def families (p : Plan) : List (String × List String) := [
  ("ORIGIN_CHAIN_ID", ["ORIGIN_CHAIN_ID"]),
  ("DESTINATION_CHAIN_ID", ["DESTINATION_CHAIN_ID"]),
  (Origins.sharedName, p.originConstants.map (·.name)),
  ("DESTINATION_CONTRACT", ["DESTINATION_CONTRACT"]),
  ("CALLBACK_GAS_LIMIT", ["CALLBACK_GAS_LIMIT"]),
  ("EVENT_", p.eventConstants.map (·.name)),
  ("APPLICABLE_ADDRESS_", (p.allowList.map fun l => l.constants.map (·.name)).getD [])]

theorem names_declarations (p : Plan) :
    p.declarations.map (·.name) = p.families.flatMap (·.2) := by
  unfold declarations families constants
  cases p.allowList <;> simp

/-- What the names of the families begin with. -/
def stems : List String :=
  ["ORIGIN_CHAIN_ID", "DESTINATION_CHAIN_ID", Origins.sharedName, "DESTINATION_CONTRACT",
    "CALLBACK_GAS_LIMIT", "EVENT_", "APPLICABLE_ADDRESS_"]

private theorem pairwise_families (p : Plan) :
    p.families.Pairwise fun f g => Incomparable f.1 g.1 := by
  have hstems : stems.Pairwise Incomparable := by decide
  exact List.pairwise_map.mp hstems

theorem prefix_append (s t : String) : s.toList <+: (s ++ t).toList := by
  rw [String.toList_append]
  exact List.prefix_append _ _

theorem ne_topicParameter {name : String} (h : Incomparable "topic_" name) (k : Int) :
    name ≠ s!"topic_{k}" :=
  (ne_of_stems h (prefix_append "topic_" (toString k)) List.prefix_rfl).symm

theorem family_singleton (name : String) :
    [name].Nodup ∧ ∀ n ∈ [name], name.toList <+: n.toList :=
  ⟨List.nodup_singleton name, by simp⟩

theorem family_origins {topology : Topology} {addresses : List Address} {bindings : Nat}
    {origins : Origins} (h : Origins.of topology addresses bindings = .ok origins) :
    (origins.constants.map (·.name)).Nodup
      ∧ ∀ n ∈ origins.constants.map (·.name), Origins.sharedName.toList <+: n.toList := by
  refine ⟨Origins.names_nodup h, ?_⟩
  rcases Origins.names_eq h with hshared | ⟨k, hnumbered⟩
  · rw [hshared]
    exact List.forall_mem_singleton.mpr List.prefix_rfl
  · rw [hnumbered, List.forall_mem_map]
    intro i _
    exact prefix_append Origins.sharedName ("_" ++ toString i)

theorem family_events (bindings : List Binding) :
    ((eventConstantsOf bindings).map (·.name)).Nodup
      ∧ ∀ n ∈ (eventConstantsOf bindings).map (·.name), "EVENT_".toList <+: n.toList := by
  rw [names_eventConstantsOf]
  refine ⟨nodup_numbered (fun i j => eventConstantName_injective) _, ?_⟩
  rw [List.forall_mem_map]
  intro i _
  exact prefix_append "EVENT_" (toString i ++ "_TOPIC_0")

theorem family_addresses (l : AllowList) :
    (l.constants.map (·.name)).Nodup
      ∧ ∀ n ∈ l.constants.map (·.name), "APPLICABLE_ADDRESS_".toList <+: n.toList := by
  rw [names_allowList]
  refine ⟨nodup_numbered (fun i j => append_toString_injective _) _, ?_⟩
  rw [List.forall_mem_map]
  intro i _
  exact prefix_append "APPLICABLE_ADDRESS_" (toString i)

section Assembled
variable {spec : Spec} {origins : Origins} {branches : List Branch}

/-- Each family has different names, which begin with its stem. -/
theorem mem_families (ho : Origins.ofSpec spec = .ok origins) :
    ∀ f ∈ (assemble spec origins branches).families,
      f.2.Nodup ∧ ∀ name ∈ f.2, f.1.toList <+: name.toList := by
  refine List.forall_mem_cons.mpr ⟨family_singleton _, List.forall_mem_cons.mpr
    ⟨family_singleton _, List.forall_mem_cons.mpr ⟨family_origins ho, List.forall_mem_cons.mpr
      ⟨family_singleton _, List.forall_mem_cons.mpr ⟨family_singleton _, List.forall_mem_cons.mpr
        ⟨family_events spec.bindings, List.forall_mem_singleton.mpr ?_⟩⟩⟩⟩⟩⟩
  cases hl : (assemble spec origins branches).allowList with
  | none => simp
  | some l => exact family_addresses l

/-- The constants of a plan have different names. -/
theorem names_nodup (ho : Origins.ofSpec spec = .ok origins) :
    ((assemble spec origins branches).declarations.map (·.name)).Nodup := by
  rw [names_declarations]
  exact nodup_families (pairwise_families _) (mem_families ho)

/-- A name that begins with none of the stems is not declared. -/
theorem notMem_names (ho : Origins.ofSpec spec = .ok origins) {name : String}
    (h : ∀ stem ∈ stems, ¬ stem.toList <+: name.toList) :
    name ∉ (assemble spec origins branches).declarations.map (·.name) := by
  rw [names_declarations, List.mem_flatMap]
  intro hname
  obtain ⟨f, hf, hmem⟩ := hname
  have hstem : f.1 ∈ stems := List.mem_map_of_mem hf
  exact h f.1 hstem ((mem_families ho f hf).2 name hmem)

/-- The name of a constant is declared once. -/
theorem declares_of_mem (ho : Origins.ofSpec spec = .ok origins) {c : Constant}
    (h : c ∈ (assemble spec origins branches).declarations) :
    (assemble spec origins branches).Declares c.name :=
  List.count_eq_one_of_mem (names_nodup ho) (List.mem_map_of_mem h)

theorem mem_declarations_event {i : Nat} {b : Binding} (h : spec.bindings[i]? = some b) :
    ⟨"uint256", eventConstantName i, b.event.topic0⟩
      ∈ (assemble spec origins branches).declarations := by
  refine List.mem_append_right _ (List.mem_append_left _ ?_)
  exact List.mem_map.mpr ⟨(b, i), List.mk_mem_zipIdx_iff_getElem?.mpr h, rfl⟩

theorem declares_event (ho : Origins.ofSpec spec = .ok origins) {i : Nat}
    (hi : i < spec.bindings.length) :
    (assemble spec origins branches).Declares (eventConstantName i) :=
  declares_of_mem ho (mem_declarations_event (List.getElem?_eq_getElem hi))

private theorem declares_chain (ho : Origins.ofSpec spec = .ok origins) :
    (assemble spec origins branches).Declares "ORIGIN_CHAIN_ID" :=
  declares_of_mem (c := ⟨"uint256", "ORIGIN_CHAIN_ID", toString spec.settings.originChainId⟩) ho
    (List.mem_cons_self ..)

/-- The criterion of an origin is any contract or a constant. -/
private theorem inScope_criterion (ho : Origins.ofSpec spec = .ok origins) {c : String}
    (hc : c ∈ origins.criteria) : (assemble spec origins branches).InScope (tokens c) := by
  rcases Origins.criterion_declared ho hc with rfl | hname
  · exact .inr (.inl rfl)
  · obtain ⟨constant, hmem, rfl⟩ := List.mem_map.mp hname
    have hdeclared : constant ∈ (assemble spec origins branches).declarations := by
      refine List.mem_append_left _ (List.mem_append_left _ (List.mem_append_right _ hmem))
    have hword : IsWord constant.name := Origins.isWord_of_mem_names ho hname
    exact .inr (.inr ⟨constant.name, hword.tokens_eq, declares_of_mem ho hdeclared⟩)

theorem inScope_arguments (ho : Origins.ofSpec spec = .ok origins) {c : String} {i : Nat}
    (hc : (c, i) ∈ origins.criteria.zipIdx) :
    ∀ a ∈ subscriptionArguments c i, (assemble spec origins branches).InScope a := by
  have hi : i < spec.bindings.length := by
    rw [← Origins.length_criteria ho]
    exact (List.getElem?_eq_some_iff.mp (List.mk_mem_zipIdx_iff_getElem?.mp hc)).1
  have hchain : (assemble spec origins branches).InScope (tokens "ORIGIN_CHAIN_ID") :=
    .inr (.inr ⟨"ORIGIN_CHAIN_ID", by decide, declares_chain ho⟩)
  have htopic : (assemble spec origins branches).InScope (tokens (eventConstantName i)) :=
    .inr (.inr ⟨eventConstantName i, (isWord_eventConstantName i).tokens_eq, declares_event ho hi⟩)
  have hany : (assemble spec origins branches).InScope (tokens anyTopic) := .inl rfl
  have hcontract : (assemble spec origins branches).InScope (tokens c) :=
    inScope_criterion ho (List.fst_mem_of_mem_zipIdx hc)
  simp only [subscriptionArguments, List.map_cons, List.map_nil, List.forall_mem_cons, hchain,
    hcontract, htopic, hany, true_and]
  simp

theorem resultNames_subscriptionsOf (criteria : List String) :
    (subscriptionsOf criteria).map Subscription.resultName
      = (List.range criteria.length).map resultName := by
  rw [subscriptionsOf, List.map_map, ← map_zipIdx_index]
  rfl

/-- The locals of the constructor: the record of failures, then the result of each call. -/
theorem locals_assemble :
    (assemble spec origins branches).instructions.filterMap Instruction.local?
      = "subscription_failed" :: (List.range origins.criteria.length).map resultName := by
  have hsubscriptions : (assemble spec origins branches).subscriptions
      = subscriptionsOf origins.criteria := rfl
  have hcalls : (subscriptionsOf origins.criteria).filterMap (fun s => (Instruction.call
      s.resultName subscribeSignature (s.criteria.arguments.map tokens)).local?)
      = (subscriptionsOf origins.criteria).map Subscription.resultName :=
    congrFun List.filterMap_eq_map _
  rw [filterMap_instructions fun _ _ => rfl, hsubscriptions, hcalls, resultNames_subscriptionsOf]
  rfl

private theorem locals_nodup :
    ((assemble spec origins branches).instructions.filterMap Instruction.local?).Nodup := by
  have hlocals : (assemble spec origins branches).instructions.filterMap Instruction.local?
      = [("subscription_failed", ["subscription_failed"]),
          ("subscribed_", (List.range origins.criteria.length).map resultName)].flatMap (·.2) := by
    rw [locals_assemble, List.flatMap_cons, List.flatMap_singleton]
    rfl
  rw [hlocals]
  refine nodup_families ?_ ?_
  · have hstems : Incomparable "subscription_failed" "subscribed_" := by decide
    exact List.pairwise_pair.mpr hstems
  · refine List.forall_mem_cons.mpr ⟨family_singleton _, List.forall_mem_singleton.mpr ⟨?_, ?_⟩⟩
    · exact nodup_numbered (fun i j => append_toString_injective _) _
    · rw [List.forall_mem_map]
      exact fun i _ => prefix_append "subscribed_" (toString i)

private theorem declares_topicConstant (ho : Origins.ofSpec spec = .ok origins)
    (hall : List.Forall₂ (fun p br => branch p.2 p.1 = .ok br) spec.bindings.zipIdx branches)
    {b : Branch} (hb : b ∈ branches) :
    IsWord b.topicConstant ∧ (assemble spec origins branches).Declares b.topicConstant := by
  obtain ⟨i, hi, rfl⟩ := List.getElem_of_mem hb
  have hlt : i < spec.bindings.length := length_branches hall ▸ hi
  obtain ⟨br, hbr, hbranch⟩ := branch_getElem? hall (List.getElem?_eq_getElem hlt)
  obtain ⟨-, args, -, hbranch⟩ := branch_eq_ok.mp hbranch
  have hconstant : branches[i].topicConstant = eventConstantName i := by
    rw [List.getElem?_eq_getElem hi, Option.some.injEq] at hbr
    rw [hbr, hbranch]
  rw [hconstant]
  exact ⟨isWord_eventConstantName i, declares_event ho hlt⟩

end Assembled

/-- All names of an accepted plan are in scope, and the constant for the topic of each binding has
the topic for its value. -/
theorem ofSpec_wellScoped {spec : Spec} {plan : Plan} (hp : (ofSpec spec).outcome = .ok plan) :
    plan.WellScoped
      ∧ ∀ (i : Nat) (b : Binding), spec.bindings[i]? = some b →
        ⟨"uint256", eventConstantName i, b.event.topic0⟩ ∈ plan.declarations := by
  obtain ⟨-, origins, branches, ho, hall, rfl⟩ := ofSpec_eq_ok.mp hp
  refine ⟨⟨declarations_only _, names_nodup ho, ?_, ?_, ?_, ?_⟩,
    fun i b hb => mem_declarations_event hb⟩
  · refine ⟨_, readInstructions?_assemble ho, locals_nodup, ?_⟩
    rw [calls_assemble, List.forall_mem_map]
    exact fun p hp => inScope_arguments ho hp
  · intro t ht
    refine ⟨_, read?_table ho ht, ?_⟩
    dsimp only
    rw [List.forall_mem_map]
    exact fun p hp => inScope_arguments ho hp
  · intro b hb first
    obtain ⟨hword, hdeclared⟩ := declares_topicConstant ho hall hb
    exact ⟨b.topicConstant, readHead?_head hword first, hdeclared⟩
  · intro l hl lines hlines
    have hwords : ∀ c ∈ l.constants, IsWord c.name := by
      intro c hc
      have hname : c.name ∈ l.constants.map (·.name) := List.mem_map_of_mem hc
      rw [names_allowList] at hname
      obtain ⟨i, -, hi⟩ := List.mem_map.mp hname
      exact hi ▸ isWord_addressName i
    refine ⟨_, AllowList.read?_render hwords hlines 1, ?_⟩
    rw [List.forall_mem_map]
    intro c hc
    refine declares_of_mem ho (List.mem_append_right _ (List.mem_append_right _ ?_))
    rw [hl]
    exact hc

/-- Three transfers of two origins, with a pause and a list of allowed addresses. -/
def listedSpec : Spec :=
  { settings := { transferSpec.settings with
      topology := .protocolToProtocol, origins := [⟨1⟩, ⟨2⟩, ⟨1⟩], pausable := true
      applicable := [⟨3⟩, ⟨4⟩, ⟨3⟩] }
    bindings := [transferCredit, transferCredit, transferCredit] }

def listedPlan : Plan :=
  assemble listedSpec (Origins.ofEach [⟨1⟩, ⟨2⟩, ⟨1⟩]) ((List.range 3).map fun i =>
    { topicConstant := eventConstantName i, statements := transferBranch.statements })

theorem ofSpec_listedSpec : (ofSpec listedSpec).outcome = .ok listedPlan := by
  refine ofSpec_eq_ok.mpr ⟨rfl, _, _, rfl, ?_, rfl⟩
  change List.Forall₂ _ [(transferCredit, 0), (transferCredit, 1), (transferCredit, 2)] _
  exact .cons (branch_transferCredit_index 0) (.cons (branch_transferCredit_index 1)
    (.cons (branch_transferCredit_index 2) .nil))

theorem listedPlan_wellScoped :
    (ofSpec listedSpec).outcome = .ok listedPlan ∧ listedPlan.WellScoped
      ∧ listedPlan.declarations.map (·.name)
        = ["ORIGIN_CHAIN_ID", "DESTINATION_CHAIN_ID", "ORIGIN_CONTRACT_0", "ORIGIN_CONTRACT_1",
          "DESTINATION_CONTRACT", "CALLBACK_GAS_LIMIT", "EVENT_0_TOPIC_0", "EVENT_1_TOPIC_0",
          "EVENT_2_TOPIC_0", "APPLICABLE_ADDRESS_0", "APPLICABLE_ADDRESS_1"] :=
  ⟨ofSpec_listedSpec, (ofSpec_wellScoped ofSpec_listedSpec).1, rfl⟩

end Plan
end ReactiveContract
