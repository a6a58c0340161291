import ReactiveContract.Proofs.Binding.Resolved
import ReactiveContract.Proofs.Contract.Plan
import ReactiveContract.Proofs.Solidity.Dispatch
/-! The dispatch of a plan takes every log to the first binding of its topic, and the branch there
does what the binding says. -/
namespace ReactiveContract
open Abi Solidity Text

/-- A field that the branch of a binding takes out of the data: one that an argument reads or,
with a guard, any that has a name. -/
def Binding.Needs (b : Binding) (field : String) : Prop :=
  (∃ m ∈ b.mappings, m.source = .data field) ∨ (b.condition ≠ none ∧ field ≠ "")

/-- The topic of a declared event has all of its digits. -/
theorem Abi.Event.Declared.exists_topicText {e : Event} (h : e.Declared) :
    ∃ topic, e.topic0 = topicText topic := by
  obtain ⟨message, -, htopic⟩ := Option.map_eq_some_iff.mp h.topic0_eq
  rw [← htopic]
  exact ReactiveContract.exists_topicText message

namespace Plan

/-- A decoding that has each input of the data in its place, and keeps those that are needed. -/
def Unpacks (b : Binding) (d : DataDecoding) : Prop :=
  List.Forall₂ (fun (p : EventInput) (c : String × Option String) =>
      c.1 = p.type ∧ ∀ name, c.2 = some name ↔ b.Needs p.name ∧ name = localName p.name)
    b.event.dataInputs d.fields

/-- An argument of a type for its source. One that is read from the data is declared by the
decoding first where the field stands among the inputs, and with the type. -/
def Carries (event : Event) (decode : Option DataDecoding) (type : String) :
    Source → String → Prop
  | .topic index, a => topicExpression type index = .ok a
  | .fixed literal, a => a = literal
  | .unbound _, a => zeroValue type = .ok a
  | .data field, a =>
    a = localName field ∧ ∃ d k, decode = some d
      ∧ d.fields.findIdx? (·.2 = some a) = some k
      ∧ event.dataInputs.findIdx? (·.name = field) = some k
      ∧ d.fields[k]? = some (type, some a)

/-- The statements of a branch for a binding: the decoding if anything is needed of the data, the
guard if there is one, and the call of the function. -/
def Serves (b : Binding) (statements : List Statement) : Prop :=
  ∃ (decode : Option DataDecoding) (arguments : List String),
    statements = (decode.map Statement.decode).toList
        ++ (b.condition.map fun c => Statement.require ⟨c, "Condition not met"⟩).toList
        ++ [.emit ⟨b.callee.signature, arguments⟩]
      ∧ (decode.isSome = true ↔ ∃ p ∈ b.event.dataInputs, b.Needs p.name)
      ∧ (∀ d, decode = some d → Unpacks b d)
      ∧ arguments.length = b.callee.inputs.length
      ∧ ∀ (j : Nat) (m : Mapping) (input : CalleeInput) (a : String), b.mappings[j]? = some m →
          b.callee.inputs[j]? = some input → arguments[j]? = some a →
          Carries b.event decode input.type m.source a

theorem localName_injective {f g : String} (h : localName f = localName g) : f = g := by
  have hl := congrArg String.toList h
  simp only [localName, String.toList_append] at hl
  exact String.toList_injective (List.append_cancel_left hl)

theorem guard?_of_resolved {b : Binding} (h : b.Resolved) : guard? b = b.condition := by
  unfold guard?
  cases hc : b.condition with
  | none => rfl
  | some condition =>
    obtain ⟨given, hg, rfl⟩ := h.condition_acceptable hc
    simp [Option.filter, hg.1]

theorem mem_neededFields {b : Binding} (h : b.Resolved) {p : EventInput}
    (hp : p ∈ b.event.dataInputs) : p.name ∈ neededFields b ↔ b.Needs p.name := by
  unfold neededFields Binding.Needs
  rw [guard?_of_resolved h]
  dsimp only
  rw [List.mem_append]
  refine or_congr ?_ ?_
  · rw [List.mem_filterMap]
    refine exists_congr fun m => and_congr_right fun _ => ?_
    cases m.source <;> simp
  · cases b.condition with
    | none => simp
    | some condition =>
      simp only [List.mem_filter, List.mem_map, ne_eq, reduceCtorEq, not_false_eq_true, true_and,
        decide_eq_true_eq]
      constructor
      · exact And.right
      · exact fun hne => ⟨⟨p, hp, rfl⟩, hne⟩

/-- The first input of a name, if it travels in the data, is the first of the name there. -/
theorem find?_dataInputs {e : Event} {field : String} {p : EventInput}
    (h : e.inputs.find? (·.name = field) = some p) (hp : p.indexed = false) :
    e.dataInputs.find? (·.name = field) = some p := by
  rw [List.find?_eq_some_iff_append] at h ⊢
  obtain ⟨hname, before, after, hsplit, hbefore⟩ := h
  refine ⟨hname, before.filter (!·.indexed), after.filter (!·.indexed), ?_, ?_⟩
  · rw [Event.dataInputs, hsplit, List.filter_append, List.filter_cons]
    simp [hp]
  · exact fun q hq => hbefore q (List.mem_of_mem_filter hq)

theorem neededFields_of_source {b : Binding} {m : Mapping} {field : String} (hm : m ∈ b.mappings)
    (hs : m.source = .data field) : field ∈ neededFields b := by
  unfold neededFields
  refine List.mem_append_left _ (List.mem_filterMap.mpr ⟨m, hm, ?_⟩)
  rw [hs]

/-- An input declares the local of a needed field exactly if it has the name of the field. -/
theorem component_eq_iff {needed : List String} {field : String} (hf : field ∈ needed)
    (p : EventInput) :
    (if p.name ∈ needed then some (localName p.name) else none) = some (localName field)
      ↔ p.name = field := by
  by_cases hp : p.name = field
  · simp [hp, hf]
  · have hne : localName p.name ≠ localName field := fun he => hp (localName_injective he)
    by_cases hn : p.name ∈ needed <;> simp [hp, hn, hne]

/-- A needed field is declared first where it stands among the inputs. -/
private theorem findIdx?_components {inputs : List EventInput} {needed : List String}
    {field : String} (hf : field ∈ needed) :
    (inputs.map fun p =>
        (p.type, if p.name ∈ needed then some (localName p.name) else none)).findIdx?
      (·.2 = some (localName field)) = inputs.findIdx? (·.name = field) := by
  rw [List.findIdx?_map]
  congr 1
  funext p
  exact decide_eq_decide.mpr (component_eq_iff hf p)

/-- Each input of the data with the local variable of its field, if that is needed. -/
def unpacking (b : Binding) : DataDecoding :=
  ⟨b.event.dataInputs.map fun p =>
    (p.type, if p.name ∈ neededFields b then some (localName p.name) else none)⟩

/-- The decoding of a branch, if it has one. -/
def decoding? (b : Binding) : Option DataDecoding :=
  if neededFields b = [] then none else some (unpacking b)

theorem decoding_eq (b : Binding) : decoding b = ((decoding? b).map Statement.decode).toList := by
  unfold decoding decoding?
  dsimp only
  split <;> rfl

theorem guarding_eq {b : Binding} (h : b.Resolved) :
    guarding b = (b.condition.map fun c => Statement.require ⟨c, "Condition not met"⟩).toList := by
  unfold guarding
  rw [guard?_of_resolved h]
  cases b.condition <;> rfl

/-- A mapping reads a field whose first input in the data has the type of the mapping. -/
theorem find?_read {b : Binding} (h : b.Resolved) {m : Mapping} {field : String}
    (hm : m ∈ b.mappings) (hs : m.source = .data field) :
    ∃ p, b.event.dataInputs.find? (·.name = field) = some p ∧ p.type = m.type := by
  obtain ⟨input, -, htyped, hsettled⟩ := h.exists_settled hm
  rw [hs] at hsettled
  obtain ⟨-, p, hp, hi, htype⟩ := hsettled
  exact ⟨p, find?_dataInputs hp hi, htype.trans htyped.symm⟩

/-- A mapping reads a field that is among the inputs in the data. -/
theorem exists_dataInput {b : Binding} (h : b.Resolved) {m : Mapping} {field : String}
    (hm : m ∈ b.mappings) (hs : m.source = .data field) :
    ∃ p ∈ b.event.dataInputs, p.name = field := by
  obtain ⟨p, hp, -⟩ := find?_read h hm hs
  exact ⟨p, List.mem_of_find?_eq_some hp, by simpa using List.find?_some hp⟩

theorem decoding?_isSome {b : Binding} (h : b.Resolved) :
    (decoding? b).isSome = true ↔ ∃ p ∈ b.event.dataInputs, b.Needs p.name := by
  have hne : (decoding? b).isSome = true ↔ neededFields b ≠ [] := by
    unfold decoding?
    split <;> simp [*]
  rw [hne]
  constructor
  · intro hn
    obtain ⟨field, hfield⟩ := List.exists_mem_of_ne_nil _ hn
    have hp : ∃ p ∈ b.event.dataInputs, p.name = field := by
      rcases List.mem_append.mp hfield with hread | hseen
      · obtain ⟨m, hm, hs⟩ := List.mem_filterMap.mp hread
        apply exists_dataInput h hm
        cases hsource : m.source <;> simp_all
      · cases hg : guard? b with
        | none => simp [hg] at hseen
        | some condition =>
          simp only [hg, List.mem_filter, List.mem_map] at hseen
          exact hseen.1
    obtain ⟨p, hp, rfl⟩ := hp
    exact ⟨p, hp, (mem_neededFields h hp).mp hfield⟩
  · intro hexists hnil
    obtain ⟨p, hp, hneeds⟩ := hexists
    have hmem := (mem_neededFields h hp).mpr hneeds
    rw [hnil] at hmem
    simp at hmem

private theorem unpacks_decoding? {b : Binding} (h : b.Resolved) {d : DataDecoding}
    (hd : decoding? b = some d) : Unpacks b d := by
  unfold decoding? at hd
  split at hd
  · simp at hd
  · rw [Option.some.injEq] at hd
    subst hd
    unfold Unpacks unpacking
    rw [List.forall₂_map_right_iff, List.forall₂_same]
    intro p hp
    refine ⟨rfl, fun name => ?_⟩
    rw [← mem_neededFields h hp]
    by_cases hn : p.name ∈ neededFields b
    · simp [hn, eq_comm]
    · simp [hn]

/-- The local of a needed field is declared with its type, first where the field stands. -/
private theorem exists_declared {b : Binding} {field : String} {p : EventInput}
    (hneeded : field ∈ neededFields b) (hd : b.event.dataInputs.find? (·.name = field) = some p) :
    ∃ d k, decoding? b = some d
      ∧ d.fields.findIdx? (·.2 = some (localName field)) = some k
      ∧ b.event.dataInputs.findIdx? (·.name = field) = some k
      ∧ d.fields[k]? = some (p.type, some (localName field)) := by
  obtain ⟨hname, k, hk, hpk, hbefore⟩ := List.find?_eq_some_iff_getElem.mp hd
  have hfield : p.name = field := by simpa using hname
  have hidx : b.event.dataInputs.findIdx? (·.name = field) = some k := by
    rw [List.findIdx?_eq_some_iff_getElem]
    refine ⟨hk, by rw [hpk]; exact hname, fun j hj => ?_⟩
    simpa using hbefore j hj
  refine ⟨unpacking b, k, ?_, ?_, hidx, ?_⟩
  · unfold decoding?
    rw [if_neg (List.ne_nil_of_mem hneeded)]
  · exact (findIdx?_components hneeded).trans hidx
  · simp [unpacking, hk, hpk, hfield, hneeded]

/-- The expression of an argument is the one of its source. -/
private theorem carries_argument {b : Binding} {m : Mapping} {input : CalleeInput} {a : String}
    (hm : m ∈ b.mappings) (hsettled : m.Settled b.event input) (ha : argument m = .ok a) :
    Carries b.event (decoding? b) input.type m.source a := by
  obtain ⟨htype, hs⟩ := hsettled
  unfold argument at ha
  cases hsource : m.source with
  | fixed literal =>
    simp only [hsource, Except.ok.injEq] at ha
    exact ha.symm
  | topic index =>
    simp only [hsource, htype] at ha
    exact ha
  | unbound zero =>
    rw [hsource] at hs
    obtain ⟨t, hw, ht, rfl⟩ := hs
    simp only [hsource, ne_eq, t.zero_ne_empty, not_false_eq_true, if_true, Except.ok.injEq] at ha
    rw [Carries, ← ht, ValueType.zeroValue_text hw, ha]
  | data field =>
    simp only [hsource, Except.ok.injEq] at ha
    subst ha
    rw [hsource] at hs
    obtain ⟨-, p, hp, hi, htp⟩ := hs
    have hneeded : field ∈ neededFields b := neededFields_of_source hm hsource
    have hdeclared := exists_declared hneeded (find?_dataInputs hp hi)
    rw [htp] at hdeclared
    exact ⟨rfl, hdeclared⟩

private theorem serves_of_branch {b : Binding} (h : b.Resolved) {index : Nat} {br : Branch}
    (hbr : branch index b = .ok br) : Serves b br.statements := by
  obtain ⟨hlen, args, hargs, rfl⟩ := branch_eq_ok.mp hbr
  have hall := arguments_eq_ok.mp hargs
  refine ⟨decoding? b, args, ?_, decoding?_isSome h, fun d => unpacks_decoding? h, ?_, ?_⟩
  · rw [decoding_eq, guarding_eq h]
  · rw [← hall.length_eq, hlen]
  · intro j m input a hm hinput ha
    obtain ⟨hjm, rfl⟩ := List.getElem?_eq_some_iff.mp hm
    obtain ⟨hji, rfl⟩ := List.getElem?_eq_some_iff.mp hinput
    obtain ⟨hja, rfl⟩ := List.getElem?_eq_some_iff.mp ha
    exact carries_argument (List.getElem_mem hjm) (h.settled.get hjm hji) (hall.get hjm hja)

/-- The value of the constant of a binding is that of the text of its topic. -/
theorem valueOf?_eventConstantsOf {bindings : List Binding} {i : Nat} {b : Binding}
    (hb : bindings[i]? = some b) :
    Constant.valueOf? (eventConstantsOf bindings) (eventConstantName i)
      = hexLiteral? b.event.topic0 := by
  unfold Constant.valueOf?
  rw [find?_eventConstantsOf hb, Option.bind_some]

/-- Whether a topic has the value of the constant of a binding is whether the texts agree. -/
theorem valueOf?_eq_iff {bindings : List Binding} {i : Nat} {b : Binding}
    (hb : bindings[i]? = some b) (h : b.Resolved) (topic : BitVec 256) :
    Constant.valueOf? (eventConstantsOf bindings) (eventConstantName i) = some topic.toNat
      ↔ b.event.topic0 = topicText topic := by
  obtain ⟨t, ht⟩ := h.event_declared.exists_topicText
  rw [valueOf?_eventConstantsOf hb, ht, hexLiteral?_topicText, Option.some.injEq]
  constructor
  · intro hn
    rw [BitVec.eq_of_toNat_eq hn]
  · intro he
    rw [topicText_injective he]

theorem findIdx?_eq_of_forall₂ {α β : Type} {R : α → β → Prop} {p : α → Bool}
    {q : β → Bool} {as : List α} {bs : List β} (h : List.Forall₂ R as bs)
    (hpq : ∀ a ∈ as, ∀ b, R a b → p a = q b) : as.findIdx? p = bs.findIdx? q := by
  induction h with
  | nil => rfl
  | @cons a b as bs hab _ ih =>
    rw [List.findIdx?_cons, List.findIdx?_cons, hpq a (by simp) b hab,
      ih fun a' ha' => hpq a' (by simp [ha'])]

/-- A log of a topic is taken by the branch of the first binding whose event has the topic, and by
none if there is no such binding; each branch serves the binding of its index. -/
theorem ofSpec_dispatches {spec : Spec} {plan : Plan} (hr : ∀ b ∈ spec.bindings, b.Resolved)
    (hp : (ofSpec spec).outcome = .ok plan) :
    (∀ topic, plan.dispatch.taken? plan.eventConstants topic
        = spec.bindings.findIdx? (·.event.topic0 = topicText topic))
      ∧ plan.dispatch.branches.length = spec.bindings.length
      ∧ ∀ (i : Nat) (b : Binding) (br : Branch), spec.bindings[i]? = some b →
          plan.dispatch.branches[i]? = some br → Serves b br.statements := by
  obtain ⟨-, origins, branches, -, hall, rfl⟩ := ofSpec_eq_ok.mp hp
  refine ⟨?_, ?_, ?_⟩
  · intro topic
    have hfst : spec.bindings.findIdx? (·.event.topic0 = topicText topic)
        = spec.bindings.zipIdx.findIdx? (·.1.event.topic0 = topicText topic) := by
      have hmap := List.zipIdx_map_fst 0 spec.bindings
      conv_lhs => rw [← hmap, List.findIdx?_map]
      rfl
    rw [hfst]
    refine (findIdx?_eq_of_forall₂ hall ?_).symm
    intro ⟨b, i⟩ hmem br hbr
    have hb : spec.bindings[i]? = some b := List.mk_mem_zipIdx_iff_getElem?.mp hmem
    obtain ⟨-, args, -, rfl⟩ := branch_eq_ok.mp hbr
    exact (decide_eq_decide.mpr
      (valueOf?_eq_iff hb (hr b (List.mem_of_getElem? hb)) topic)).symm
  · exact length_branches hall
  · intro i b br hb hbr
    obtain ⟨br', hbr', hbranch⟩ := branch_getElem? hall hb
    rw [show (assemble spec origins branches).dispatch.branches = branches from rfl, hbr'] at hbr
    cases hbr
    exact serves_of_branch (hr b (List.mem_of_getElem? hb)) hbranch

end Plan

theorem Abi.ValueType.ofText?_address : ofText? (some "address") = .ok .address :=
  ofText_text (t := .address) trivial

theorem Abi.ValueType.ofText?_uint256 : ofText? (some "uint256") = .ok (.uint 256) :=
  ofText_text (t := .uint 256) rfl

/-- A transfer that is passed on as a credit, unless nothing is transferred. -/
def transferCredit : Binding :=
  { event := {
      name := "Transfer"
      inputs := [⟨"to", "address", true, 0⟩, ⟨"value", "uint256", false, 1⟩]
      signature := "Transfer(address,uint256)"
      topic0 := topicOf "Transfer(address,uint256)".toUTF8.data.toList }
    callee := {
      name := "credit"
      inputs := [⟨"who", "address", 0⟩, ⟨"amount", "uint256", 1⟩]
      signature := "credit(address,uint256)"
      mutability := "nonpayable" }
    mappings := [⟨"who", "address", .topic 1⟩, ⟨"amount", "uint256", .data "value"⟩]
    condition := some "value > 0" }

def transferSpec : Spec :=
  { settings := {
      topology := .blockchainWide, originChainId := 1, destinationChainId := 2
      destination := ⟨0⟩ }
    bindings := [transferCredit] }

def transferBranch : Branch :=
  { topicConstant := "EVENT_0_TOPIC_0"
    statements := [
      .decode ⟨[("uint256", some "evt_value")]⟩,
      .require ⟨"value > 0", "Condition not met"⟩,
      .emit ⟨"credit(address,uint256)", ["address(uint160(topic_1))", "evt_value"]⟩] }

def transferPlan : Plan := Plan.assemble transferSpec (Origins.ofAny 1) [transferBranch]

def transferEntry : Entry :=
  { kind := some "event", name := "Transfer"
    inputs := [
      { name := "to", type := some "address", indexed := true },
      { name := "value", type := some "uint256" }] }

def creditEntry : Entry :=
  { kind := some "function", name := "credit"
    inputs := [
      { name := "who", type := some "address" }, { name := "amount", type := some "uint256" }] }

theorem event_ofEntry_transferEntry : Event.ofEntry transferEntry = .ok transferCredit.event := by
  refine Event.ofEntry_eq_ok.mpr ⟨transferEntry.inputs.zip ["address", "uint256"], _, ?_,
    utf8?_of_unmarked (by decide), rfl⟩
  simp only [Entry.canonicalTypes, transferEntry, ValueType.ofText?_address,
    ValueType.ofText?_uint256]
  rfl

theorem callee_ofEntry_creditEntry : Callee.ofEntry creditEntry = .ok transferCredit.callee := by
  simp only [Callee.ofEntry, Entry.canonicalTypes, creditEntry, ValueType.ofText?_address,
    ValueType.ofText?_uint256]
  rfl

private theorem fits_transferCredit : List.Forall₂ (Mapping.Fits transferCredit.event)
    transferCredit.mappings transferCredit.callee.inputs := by
  refine .cons ?_ (.cons ?_ .nil)
  · exact ⟨⟨.address, ValueType.ofText?_address, rfl⟩, by decide, by decide, by decide, by decide,
      by decide⟩
  · exact ⟨⟨.uint 256, ValueType.ofText?_uint256, rfl⟩, by decide, by decide, _, rfl, rfl, rfl⟩

theorem resolve_transferCredit :
    Binding.resolve transferCredit.event transferCredit.callee transferCredit.mappings
      transferCredit.condition = .ok transferCredit := by
  refine Binding.resolve_eq_ok.mpr ⟨⟨fits_transferCredit, by decide, ?_⟩, rfl⟩
  intro text htext
  cases htext
  exact ⟨by decide, by decide⟩

theorem transferCredit_resolved : transferCredit.Resolved :=
  ⟨transferEntry, creditEntry, _, _, transferCredit.mappings, some "value > 0",
    event_ofEntry_transferEntry, callee_ofEntry_creditEntry, resolve_transferCredit⟩

theorem topicExpression_address :
    topicExpression "address" 1 = .ok "address(uint160(topic_1))" := by
  have h : ValueType.ofText "address" = .ok .address := ValueType.ofText?_address
  simp only [topicExpression, h]
  rfl

theorem Plan.branch_transferCredit_index (i : Nat) :
    branch i transferCredit
      = .ok { topicConstant := eventConstantName i, statements := transferBranch.statements } := by
  refine branch_eq_ok.mpr ⟨rfl, ["address(uint160(topic_1))", "evt_value"], ?_, rfl⟩
  exact arguments_eq_ok.mpr (.cons topicExpression_address (.cons rfl .nil))

theorem Plan.branch_transferCredit : branch 0 transferCredit = .ok transferBranch :=
  branch_transferCredit_index 0

theorem Plan.ofSpec_transferSpec : (ofSpec transferSpec).outcome = .ok transferPlan := by
  refine ofSpec_eq_ok.mpr ⟨rfl, Origins.ofAny 1, [transferBranch], rfl, ?_, rfl⟩
  change List.Forall₂ _ [(transferCredit, 0)] [transferBranch]
  exact .cons branch_transferCredit .nil

/-- A ping that is answered; nothing travels with it. -/
def pingPong : Binding :=
  { event := {
      name := "Ping", inputs := [], signature := "Ping()"
      topic0 := topicOf "Ping()".toUTF8.data.toList }
    callee := { name := "pong", inputs := [], signature := "pong()", mutability := "nonpayable" }
    mappings := []
    condition := none }

def pingEntry : Entry := { kind := some "event", name := "Ping" }

def pongEntry : Entry := { kind := some "function", name := "pong" }

theorem event_ofEntry_pingEntry : Event.ofEntry pingEntry = .ok pingPong.event :=
  Event.ofEntry_eq_ok.mpr ⟨[], _, rfl, utf8?_of_unmarked (by decide), rfl⟩

private theorem callee_ofEntry_pongEntry : Callee.ofEntry pongEntry = .ok pingPong.callee := rfl

private theorem pingPong_resolved : pingPong.Resolved :=
  ⟨pingEntry, pongEntry, _, _, [], none, event_ofEntry_pingEntry, callee_ofEntry_pongEntry,
    Binding.resolve_eq_ok.mpr ⟨⟨.nil, by decide, nofun⟩, rfl⟩⟩

/-- The transfer is passed on also if nothing is transferred. -/
def openCredit : Binding := { transferCredit with condition := none }

private theorem openCredit_resolved : openCredit.Resolved :=
  ⟨transferEntry, creditEntry, _, _, transferCredit.mappings, none, event_ofEntry_transferEntry,
    callee_ofEntry_creditEntry,
    Binding.resolve_eq_ok.mpr ⟨⟨fits_transferCredit, by decide, nofun⟩, rfl⟩⟩

/-- Two bindings for the logs of one topic, and a ping. -/
def servedSpec : Spec := { transferSpec with bindings := [transferCredit, openCredit, pingPong] }

def servedBranches : List Branch := [
  transferBranch,
  { topicConstant := "EVENT_1_TOPIC_0"
    statements := [
      .decode ⟨[("uint256", some "evt_value")]⟩,
      .emit ⟨"credit(address,uint256)", ["address(uint160(topic_1))", "evt_value"]⟩] },
  { topicConstant := "EVENT_2_TOPIC_0", statements := [.emit ⟨"pong()", []⟩] }]

def servedPlan : Plan := Plan.assemble servedSpec (Origins.ofAny 3) servedBranches

theorem Plan.branches_servedSpec :
    List.Forall₂ (fun p br => branch p.2 p.1 = .ok br) servedSpec.bindings.zipIdx
      servedBranches := by
  refine .cons branch_transferCredit (.cons ?_ (.cons ?_ .nil))
  · refine branch_eq_ok.mpr ⟨rfl, ["address(uint160(topic_1))", "evt_value"], ?_, rfl⟩
    exact arguments_eq_ok.mpr (.cons topicExpression_address (.cons rfl .nil))
  · exact branch_eq_ok.mpr ⟨rfl, [], rfl, rfl⟩

private theorem Plan.ofSpec_servedSpec : (ofSpec servedSpec).outcome = .ok servedPlan :=
  ofSpec_eq_ok.mpr ⟨rfl, Origins.ofAny 3, _, rfl, branches_servedSpec, rfl⟩

/-- A transfer goes to the first branch and never to the second, which serves its binding all the
same. A ping goes to the last. -/
theorem servedPlan_dispatches :
    (∀ b ∈ servedSpec.bindings, b.Resolved)
      ∧ (Plan.ofSpec servedSpec).outcome = .ok servedPlan
      ∧ (∀ topic, servedPlan.dispatch.taken? servedPlan.eventConstants topic
        = if transferCredit.event.topic0 = topicText topic then some 0
          else if pingPong.event.topic0 = topicText topic then some 2 else none)
      ∧ ∃ br, servedPlan.dispatch.branches[1]? = some br
        ∧ Plan.Serves openCredit br.statements := by
  have hr : ∀ b ∈ servedSpec.bindings, b.Resolved := by
    simp only [servedSpec, List.forall_mem_cons, List.not_mem_nil, false_implies, implies_true,
      and_true]
    exact ⟨transferCredit_resolved, openCredit_resolved, pingPong_resolved⟩
  obtain ⟨htaken, -, hserves⟩ := Plan.ofSpec_dispatches hr Plan.ofSpec_servedSpec
  refine ⟨hr, Plan.ofSpec_servedSpec, fun topic => ?_, _, rfl, hserves 1 openCredit _ rfl rfl⟩
  rw [htaken]
  simp only [servedSpec, openCredit, List.findIdx?_cons, List.findIdx?_nil, decide_eq_true_eq]
  split_ifs <;> rfl

end ReactiveContract
