import ReactiveContract.Proofs.Contract.Numbering
import ReactiveContract.Proofs.Contract.Scope
import ReactiveContract.Proofs.Solidity.Composition
/-! The source of a contract is put together from fixed texts, from numerals, addresses and names of
its own, and from the texts of its bindings. -/
namespace ReactiveContract
open Abi Solidity Text

/-- The text of a mapping that is an argument as it is. -/
def Mapping.text? (m : Mapping) : Option String :=
  match m.source with
  | .fixed literal => some literal
  | .topic _ => none
  | .data field => some (Plan.localName field)
  | .unbound zero => zero

/-- The texts of a binding that stand in the statements of its branch as they are. -/
def Binding.statementTexts (b : Binding) : List String :=
  [b.callee.signature]
  ++ (b.event.dataInputs.flatMap fun p => [p.type, Plan.localName p.name])
  ++ (Plan.guard? b).toList
  ++ b.mappings.filterMap Mapping.text?

/-- The texts of a binding that stand in the source as they are. -/
def Binding.texts (b : Binding) : List String := b.event.topic0 :: b.statementTexts

theorem plain_address (a : Address) : Plain a.text := by
  have htext : a.text = "0x" ++ String.ofList a.checksumDigits := by
    rw [Address.text, ← String.toList_inj]
    simp
  have hword : IsWord a.text := by
    refine ⟨fun h => ?_, fun c hc => ?_⟩
    · rw [htext] at h
      simp at h
    · simp [isNameCharacter, Address.isAlphanum_text hc]
  have hstem : "0x" ∈ nameStems := by simp [nameStems]
  rw [htext] at hword ⊢
  exact plain_of_stem hword hstem

theorem topicExpression_eq_ok {type a : String} {index : Int} :
    topicExpression type index = .ok a
      ↔ ∃ t e, ValueType.ofText type = .ok t ∧ t.topicExpr? = some e ∧ e.render index = a := by
  unfold topicExpression
  cases ValueType.ofText type with
  | error fault => simp
  | ok t => cases ht : t.topicExpr? <;> simp [ht]

theorem zeroValue_eq_ok {type a : String} :
    zeroValue type = .ok a ↔ ∃ t, ValueType.ofText type = .ok t ∧ t.zero = a := by
  unfold zeroValue
  cases ValueType.ofText type <;> simp

section Composed
variable {Given : String → Prop}

private theorem composed_topic (index : Int) : Composed Given s!"topic_{index}" := by
  cases index with
  | ofNat n =>
    have hword : IsWord ("topic_" ++ toString n) := IsWord.append (by decide) (isWord_toString n)
    have hstem : "topic_" ∈ nameStems := by simp [nameStems]
    exact .plain (plain_of_stem hword hstem)
  | negSucc n =>
    have hminus : Opener "-" := opener_of_mem (by simp [openers])
    have hnumber : Composed Given ("-" ++ toString (n + 1)) :=
      Composed.opened hminus (.plain (plain_toString (n + 1)))
    have hstem : Plain "topic_" := plain_of_mem (by simp [fixedTexts])
    have hform : toString (Int.negSucc n) = "-" ++ toString (n + 1) := rfl
    rw [hform]
    refine Composed.append (.plain hstem) hnumber (.inr ?_)
    intro c hc
    rw [String.toList_append] at hc
    obtain rfl : '-' = c := Option.some.inj hc
    decide

theorem TopicExpr.composed_render (index : Int) (e : TopicExpr) :
    Composed Given (e.render index) := by
  have hopening : Spacer "(" := spacer_of_mem (by simp [spacers])
  have hclosing : Spacer ")" := spacer_of_mem (by simp [spacers])
  have hsized {base : String} (hbase : IsWord base)
      (hstem : base ∈ nameStems) (n : Nat) {inner : String} (hinner : Composed Given inner) :
      Composed Given (base ++ toString n ++ "(" ++ inner ++ ")") := by
    have hname := plain_of_stem (hbase.append (isWord_toString n)) hstem
    exact ((Composed.plain hname).between hopening hinner).closed hclosing
  have hstems : "uint" ∈ nameStems ∧ "int" ∈ nameStems ∧ "bytes" ∈ nameStems := by
    simp [nameStems]
  induction e with
  | topic => exact composed_topic index
  | address e ih =>
    have haddress : Opener "address(" := opener_of_mem (by simp [openers])
    exact (ih.opened haddress).closed hclosing
  | uint bits e ih => exact hsized (by decide) hstems.1 bits ih
  | int bits e ih => exact hsized (by decide) hstems.2.1 bits ih
  | bytes size e ih => exact hsized (by decide) hstems.2.2 size ih
  | nonzero e ih =>
    have htest : Plain " != 0" := plain_of_mem (by simp [fixedTexts])
    exact ih.append (.plain htest) (.inr (by decide))

theorem Abi.ValueType.composed_zero (t : ValueType) : Composed Given t.zero := by
  have hempty : Composed Given "\"\"" := .fixed (by simp [fixedTexts])
  have hnumber : Composed Given "0" := .fixed (by simp [fixedTexts])
  cases t with
  | bytes size =>
    cases size with
    | none => exact hempty
    | some size =>
      have hzero : Spacer "(0)" := spacer_of_mem (by simp [spacers])
      have hstem : "bytes" ∈ nameStems := by simp [nameStems]
      have hname : Plain ("bytes" ++ toString size) :=
        plain_of_stem (IsWord.append (by decide) (isWord_toString size)) hstem
      exact (Composed.plain hname).closed hzero
  | bool suffix => exact .fixed (s := "false") (by simp [fixedTexts])
  | uint bits => exact hnumber
  | int bits => exact hnumber
  | address => exact .fixed (s := "address(0)") (by simp [fixedTexts])
  | string => exact hempty

end Composed

namespace Plan
section Branch
variable {Given : String → Prop} {b : Binding}

/-- An argument is made of the type and a topic, or it is a text of the binding. -/
private theorem composed_argument (h : ∀ text ∈ b.statementTexts, Composed Given text) {m : Mapping}
    (hm : m ∈ b.mappings) {a : String} (ha : argument m = .ok a) : Composed Given a := by
  have hgiven : ∀ text, m.text? = some text → Composed Given text := fun text htext =>
    h text (List.mem_append_right _ (List.mem_filterMap.mpr ⟨m, hm, htext⟩))
  unfold Mapping.text? at hgiven
  unfold argument at ha
  cases hs : m.source with
  | fixed literal =>
    rw [hs] at ha hgiven
    exact hgiven a (congrArg some (Except.ok.inj ha))
  | topic index =>
    rw [hs] at ha
    obtain ⟨t, e, -, -, rfl⟩ := topicExpression_eq_ok.mp ha
    exact e.composed_render index
  | data field =>
    rw [hs] at ha hgiven
    exact hgiven a (congrArg some (Except.ok.inj ha))
  | unbound zero =>
    rw [hs] at ha hgiven
    have hzero : zeroValue m.type = .ok a → Composed Given a := by
      intro hz
      obtain ⟨t, -, rfl⟩ := zeroValue_eq_ok.mp hz
      exact t.composed_zero
    cases zero with
    | none => exact hzero ha
    | some zero =>
      dsimp only at ha
      split at ha
      · exact hgiven a (congrArg some (Except.ok.inj ha))
      · exact hzero ha

/-- What the statements of a branch take in is made of texts of its binding. -/
theorem composed_texts_of_branch (h : ∀ text ∈ b.statementTexts, Composed Given text) {index : Nat}
    {br : Branch} (hbr : branch index b = .ok br) :
    ∀ s ∈ br.statements, ∀ text ∈ s.texts, Composed Given text := by
  obtain ⟨-, args, hargs, rfl⟩ := branch_eq_ok.mp hbr
  have hall := arguments_eq_ok.mp hargs
  refine List.forall_mem_append.mpr ⟨List.forall_mem_append.mpr ⟨?_, ?_⟩, ?_⟩
  · unfold decoding
    dsimp only
    split
    · simp
    · refine List.forall_mem_singleton.mpr (List.forall_mem_flatMap.mpr ?_)
      refine List.forall_mem_map.mpr fun p hp => ?_
      have hfield : ∀ text ∈ [p.type, localName p.name], Composed Given text := by
        intro text htext
        refine h text (List.mem_append_left _ (List.mem_append_left _ (List.mem_append_right _ ?_)))
        exact List.mem_flatMap.mpr ⟨p, hp, htext⟩
      obtain ⟨htype, hname⟩ := List.forall_mem_cons.mp hfield
      refine List.forall_mem_cons.mpr ⟨htype, fun name hn => ?_⟩
      obtain ⟨-, hlocal⟩ := Option.ite_none_right_eq_some.mp (Option.mem_toList.mp hn)
      rw [← Option.some.inj hlocal]
      exact hname _ List.mem_cons_self
  · unfold guarding
    cases hguard : guard? b with
    | none => simp
    | some condition =>
      have hcondition : Composed Given condition := by
        refine h condition (List.mem_append_left _ (List.mem_append_right _ ?_))
        rw [hguard]
        exact List.mem_singleton_self condition
      have hmessage : Plain "Condition not met" := plain_of_mem (by simp [fixedTexts])
      exact List.forall_mem_singleton.mpr (List.forall_mem_cons.mpr
        ⟨hcondition, List.forall_mem_singleton.mpr (.plain hmessage)⟩)
  · refine List.forall_mem_singleton.mpr (List.forall_mem_cons.mpr ⟨?_, fun a ha => ?_⟩)
    · exact h _ (by simp [Binding.statementTexts])
    · obtain ⟨m, hm, hargument⟩ := exists_of_mem_right hall ha
      exact composed_argument h hm hargument

theorem composed_eventConstantName (i : Nat) : Composed Given (eventConstantName i) := by
  have hname : eventConstantName i = "EVENT_" ++ (toString i ++ "_TOPIC_0") := String.append_assoc
  have hword := isWord_eventConstantName i
  have hstem : "EVENT_" ∈ nameStems := by simp [nameStems]
  rw [hname] at hword ⊢
  exact .plain (plain_of_stem hword hstem)

private theorem composed_resultName (i : Nat) : Composed Given (resultName i) := by
  have hstem : "subscribed_" ∈ nameStems := by simp [nameStems]
  exact .plain (plain_of_stem (IsWord.append (by decide) (isWord_toString i)) hstem)

private theorem composed_addressName (i : Nat) : Composed Given (addressName i) := by
  have hstem : "APPLICABLE_ADDRESS_" ∈ nameStems := by simp [nameStems]
  exact .plain (plain_of_stem (isWord_addressName i) hstem)

end Branch

section Assembled
variable {Given : String → Prop} {spec : Spec} {origins : Origins} {branches : List Branch}

theorem composed_joinLines (hbreak : Composed Given "\n") {lines : List String}
    (h : ∀ line ∈ lines, Composed Given line) : Composed Given (joinLines lines) :=
  Composed.lines hbreak h

theorem composed_originName (ho : Origins.ofSpec spec = .ok origins) {name : String}
    (h : name ∈ origins.constants.map (·.name)) : Composed Given name := by
  rcases Origins.names_eq ho with hshared | ⟨n, hnumbered⟩
  · rw [hshared, List.mem_singleton] at h
    rw [h]
    exact .plain (plain_of_mem (by simp [fixedTexts, Origins.sharedName]))
  · have hword := Origins.isWord_of_mem_names ho h
    rw [hnumbered] at h
    obtain ⟨i, -, rfl⟩ := List.mem_map.mp h
    have hstem : Origins.sharedName ∈ nameStems := by simp [nameStems, Origins.sharedName]
    exact .plain (plain_of_stem (s := "_" ++ toString i) hword hstem)

private theorem composed_criterion (ho : Origins.ofSpec spec = .ok origins) {c : String}
    (hc : c ∈ origins.criteria) : Composed Given c := by
  rcases Origins.criterion_declared ho hc with rfl | hname
  · exact .plain (plain_of_mem (by simp [fixedTexts, Origins.anyContract]))
  · exact composed_originName ho hname

private theorem composed_originConstant (ho : Origins.ofSpec spec = .ok origins) {c : Constant}
    (hc : c ∈ origins.constants) : Composed Given c.render := by
  have hform : c.type = "address" ∧ ∃ a : Address, c.value = a.text := by
    rcases Origins.of_eq_ok.mp ho with ⟨-, -, rfl⟩ | ⟨-, a, -, rfl⟩ | ⟨-, -, rfl⟩
    · obtain ⟨⟨a, i⟩, -, rfl⟩ := List.mem_map.mp hc
      exact ⟨rfl, a, rfl⟩
    · rw [List.mem_singleton.mp hc]
      exact ⟨rfl, a, rfl⟩
    · cases hc
  obtain ⟨htype, a, hvalue⟩ := hform
  refine Constant.composed_render ?_ (composed_originName ho (List.mem_map_of_mem hc)) ?_
  · rw [htype]
    exact .fixed (by simp [fixedTexts])
  · rw [hvalue]
    exact .plain (plain_address a)

private theorem composed_eventConstant
    (h : ∀ b ∈ spec.bindings, ∀ text ∈ b.texts, Composed Given text)
    {c : Constant} (hc : c ∈ eventConstantsOf spec.bindings) : Composed Given c.render := by
  obtain ⟨⟨b, i⟩, hb, rfl⟩ := List.mem_map.mp hc
  refine Constant.composed_render (.fixed (by simp [fixedTexts]))
    (composed_eventConstantName i) (h b (List.fst_mem_of_mem_zipIdx hb) _ ?_)
  exact List.mem_cons_self

/-- The constants for allowed addresses have a name of their own, and an address for a value. -/
theorem composed_addressConstant {applicable : List Address} {l : AllowList}
    (hl : allowList? applicable = some l) {c : Constant} (hc : c ∈ l.constants) :
    Composed Given c.name ∧ Composed Given c.render := by
  obtain ⟨⟨text, i⟩, htext, rfl⟩ := List.mem_map.mp hc
  have hname : Composed Given (AllowList.constantName (toString i)) := composed_addressName i
  unfold allowList? at hl
  obtain ⟨-, hl⟩ := Option.ite_none_left_eq_some.mp hl
  obtain rfl := Option.some.inj hl
  obtain ⟨a, -, rfl⟩ := List.mem_map.mp (List.fst_mem_of_mem_zipIdx htext)
  exact ⟨hname, Constant.composed_render (.fixed (by simp [fixedTexts])) hname
    (.plain (plain_address a))⟩

theorem composed_subscriptionArguments (ho : Origins.ofSpec spec = .ok origins) {s : Subscription}
    (hs : s ∈ subscriptionsOf origins.criteria) :
    Composed Given s.resultName ∧ ∀ a ∈ s.criteria.arguments, Composed Given a := by
  obtain ⟨⟨c, i⟩, hc, rfl⟩ := List.mem_map.mp hs
  have hany : Composed Given anyTopic := .fixed (by simp [fixedTexts])
  refine ⟨composed_resultName i, ?_⟩
  refine List.forall_mem_cons.mpr ⟨.fixed (by simp [fixedTexts]),
    List.forall_mem_cons.mpr ⟨composed_criterion ho (List.fst_mem_of_mem_zipIdx hc),
      List.forall_mem_cons.mpr ⟨composed_eventConstantName i, ?_⟩⟩⟩
  exact List.forall_mem_cons.mpr ⟨hany, List.forall_mem_cons.mpr ⟨hany,
    List.forall_mem_singleton.mpr hany⟩⟩

private theorem composed_constructorBody (ho : Origins.ofSpec spec = .ok origins) :
    ∀ line ∈ (assemble spec origins branches).constructorBody, Composed Given line := by
  refine List.forall_mem_append.mpr ⟨List.forall_mem_append.mpr ⟨List.forall_mem_append.mpr
    ⟨List.forall_mem_append.mpr ⟨?_, ?_⟩, ?_⟩, ?_⟩, ?_⟩
  · split
    · exact List.forall_mem_singleton.mpr (.fixed (by simp [fixedTexts]))
    · simp
  · split
    · rename_i a _
      have howner : Opener "owner = " := opener_of_mem (by simp [openers])
      have hend : Spacer ";" := spacer_of_mem (by simp [spacers])
      exact List.forall_mem_singleton.mpr
        (((Composed.plain (plain_address a)).opened howner).closed hend)
    · simp
  · exact List.forall_mem_singleton.mpr (.fixed (by simp [fixedTexts]))
  · refine List.forall_mem_flatMap.mpr fun s hs => ?_
    obtain ⟨hresult, harguments⟩ := composed_subscriptionArguments ho hs
    exact List.forall_mem_cons.mpr
      ⟨.fixed (by simp [fixedTexts]), s.composed_render hresult harguments⟩
  · exact List.forall_mem_cons.mpr ⟨.fixed (by simp [fixedTexts]),
      List.forall_mem_singleton.mpr (.fixed (by simp [fixedTexts]))⟩

private theorem composed_helperBlocks (ho : Origins.ofSpec spec = .ok origins) :
    ∀ lines ∈ (assemble spec origins branches).helperBlocks, ∀ line ∈ lines,
      Composed Given line := by
  refine List.forall_mem_append.mpr ⟨fun lines hlines => ?_, fun lines hlines => ?_⟩
  · obtain ⟨t, ht, rfl⟩ := Option.map_eq_some_iff.mp (Option.mem_toList.mp hlines)
    obtain ⟨-, ht⟩ := Option.ite_none_right_eq_some.mp ht
    obtain rfl := Option.some.inj ht
    refine SubscriptionTable.composed_render ?_
    rw [List.forall_mem_map]
    exact fun s hs => (composed_subscriptionArguments ho hs).2
  · obtain ⟨l, hl, hlines⟩ := Option.bind_eq_some_iff.mp (Option.mem_toList.mp hlines)
    exact l.composed_render (fun c hc => (composed_addressConstant hl hc).1) hlines

private theorem composed_reactBody (h : ∀ b ∈ spec.bindings, ∀ text ∈ b.texts, Composed Given text)
    (hall : List.Forall₂ (fun p br => branch p.2 p.1 = .ok br) spec.bindings.zipIdx branches) :
    ∀ line ∈ (assemble spec origins branches).reactBody, Composed Given line := by
  refine List.forall_mem_append.mpr ⟨?_, ?_⟩
  · split
    · have htest : Opener "isApplicableAddress(" := opener_of_mem (by simp [openers])
      have hclosing : Spacer ")" := spacer_of_mem (by simp [spacers])
      have hemitter : Composed Given "_contract" := .fixed (by simp [fixedTexts])
      have hmessage : Plain "Address not allowed" := plain_of_mem (by simp [fixedTexts])
      exact Requirement.composed_render ((hemitter.opened htest).closed hclosing) (.plain hmessage)
    · simp
  · refine Dispatch.composed_render fun br hbr => ?_
    obtain ⟨⟨b, i⟩, hb, hbranch⟩ := exists_of_mem_right hall hbr
    obtain ⟨-, hstatements⟩ := List.forall_mem_cons.mp (h b (List.fst_mem_of_mem_zipIdx hb))
    refine ⟨?_, composed_texts_of_branch hstatements hbranch⟩
    obtain ⟨-, args, -, rfl⟩ := branch_eq_ok.mp hbranch
    exact composed_eventConstantName i

/-- The line that declares the contract. -/
def declarationLine (p : Plan) : String := s!"contract {p.contractName} is {p.baseContract} \x7b"

/-- The contract after its first line. -/
def remainder (p : Plan) : List String :=
  p.heading.tail ++ p.constructorLines
  ++ ["", "    receive() external payable \x7b\x7d", p.helpers] ++ p.reaction

theorem contractText_declaration (p : Plan) :
    p.contractText = joinLines (p.declarationLine :: p.remainder) := rfl

theorem composed_written {cs : List Constant} (h : ∀ c ∈ cs, Composed Given c.render) :
    ∀ line ∈ written cs, Composed Given line := by
  have hunit : Spacer indentUnit := spacer_of_mem (by simp [spacers])
  exact List.forall_mem_map.mpr fun c hc => (h c hc).opened hunit.toOpener

private theorem composed_helpers (ho : Origins.ofSpec spec = .ok origins)
    (hbreak : Composed Given "\n") : Composed Given (assemble spec origins branches).helpers := by
  unfold helpers
  split
  · exact .empty
  · have hblocks : ∀ text ∈ (assemble spec origins branches).helperBlocks.map
        fun lines => joinLines (indent 1 lines), Composed Given text :=
      List.forall_mem_map.mpr fun lines hlines =>
        composed_joinLines hbreak (composed_indent (composed_helperBlocks ho lines hlines) 1)
    have hjoined := Composed.blocks hbreak hblocks
    exact (hbreak.append hjoined (.inl separates_break.ends)).append hbreak
      (.inr separates_break.begins)

private theorem composed_heading (h : ∀ b ∈ spec.bindings, ∀ text ∈ b.texts, Composed Given text)
    (ho : Origins.ofSpec spec = .ok origins) (hbreak : Composed Given "\n") :
    ∀ part ∈ (assemble spec origins branches).heading.tail, Composed Given part := by
  have hnumeral {type name : String} (ht : type ∈ fixedTexts) (hn : name ∈ fixedTexts) (n : Nat) :
      Composed Given (Constant.render ⟨type, name, toString n⟩) :=
    Constant.composed_render (.fixed ht) (.fixed hn) (.plain (plain_toString n))
  have hchains : ∀ line ∈ written (assemble spec origins branches).chainConstants,
      Composed Given line :=
    composed_written <| List.forall_mem_cons.mpr
      ⟨hnumeral (by simp [fixedTexts]) (by simp [fixedTexts]) _, List.forall_mem_singleton.mpr
        (hnumeral (by simp [fixedTexts]) (by simp [fixedTexts]) _)⟩
  have haddress : Composed Given (Constant.render
      ⟨"address", "DESTINATION_CONTRACT", (assemble spec origins branches).destination.text⟩) :=
    Constant.composed_render (.fixed (by simp [fixedTexts])) (.fixed (by simp [fixedTexts]))
      (.plain (plain_address _))
  have hcallbacks : ∀ line ∈ written (assemble spec origins branches).callbackConstants,
      Composed Given line :=
    composed_written <| List.forall_mem_cons.mpr ⟨haddress, List.forall_mem_singleton.mpr
      (hnumeral (by simp [fixedTexts]) (by simp [fixedTexts]) _)⟩
  have horigins := composed_joinLines hbreak
    (composed_written fun c hc => composed_originConstant ho hc)
  have hconstants : ∀ c ∈ (assemble spec origins branches).constants, Composed Given c.render := by
    refine List.forall_mem_append.mpr ⟨fun c hc => composed_eventConstant h hc, ?_⟩
    split
    · rename_i l hl
      exact fun c hc => (composed_addressConstant hl hc).2
    · simp
  have hothers := composed_joinLines hbreak (composed_written hconstants)
  rw [written_chainConstants] at hchains
  rw [written_callbackConstants] at hcallbacks
  rw [← indent_constants] at horigins hothers
  obtain ⟨horigin, hdestination⟩ := List.forall_mem_cons.mp hchains
  obtain ⟨hcontract, hlimit⟩ := List.forall_mem_cons.mp hcallbacks
  exact List.forall_mem_cons.mpr ⟨horigin, List.forall_mem_cons.mpr
    ⟨List.forall_mem_singleton.mp hdestination, List.forall_mem_cons.mpr ⟨horigins,
      List.forall_mem_cons.mpr ⟨hcontract, List.forall_mem_cons.mpr
        ⟨List.forall_mem_singleton.mp hlimit, List.forall_mem_cons.mpr ⟨.empty,
          List.forall_mem_cons.mpr ⟨hothers, List.forall_mem_singleton.mpr .empty⟩⟩⟩⟩⟩⟩⟩

/-- After its first line a contract is made of texts of its bindings. -/
theorem composed_remainder (h : ∀ b ∈ spec.bindings, ∀ text ∈ b.texts, Composed Given text)
    (ho : Origins.ofSpec spec = .ok origins)
    (hall : List.Forall₂ (fun p br => branch p.2 p.1 = .ok br) spec.bindings.zipIdx branches)
    (hbreak : Composed Given "\n") :
    Composed Given (joinLines (assemble spec origins branches).remainder) := by
  have hclosing : Composed Given "    \x7d" := .fixed (by simp [fixedTexts])
  refine composed_joinLines hbreak (List.forall_mem_append.mpr ⟨List.forall_mem_append.mpr
    ⟨List.forall_mem_append.mpr ⟨composed_heading h ho hbreak, ?_⟩, ?_⟩, ?_⟩)
  · have hbody : Composed Given (assemble spec origins branches).constructorText :=
      composed_joinLines hbreak (composed_indent (composed_constructorBody ho) 2)
    exact List.forall_mem_cons.mpr ⟨.fixed (by simp [fixedTexts]), List.forall_mem_cons.mpr
      ⟨hbody, List.forall_mem_singleton.mpr hclosing⟩⟩
  · exact List.forall_mem_cons.mpr ⟨.empty, List.forall_mem_cons.mpr
      ⟨.fixed (by simp [fixedTexts]), List.forall_mem_singleton.mpr (composed_helpers ho hbreak)⟩⟩
  · have hparameters := composed_joinLines hbreak
      (composed_indent (assemble spec origins branches).reactParameters.composed_render 2)
    have hbody : Composed Given (joinLines (indent 2 (assemble spec origins branches).reactBody)) :=
      composed_joinLines hbreak (composed_indent (composed_reactBody h hall) 2)
    exact List.forall_mem_cons.mpr ⟨.fixed (by simp [fixedTexts]), List.forall_mem_cons.mpr
      ⟨hparameters, List.forall_mem_cons.mpr ⟨.fixed (by simp [fixedTexts]),
        List.forall_mem_cons.mpr ⟨hbody, List.forall_mem_cons.mpr ⟨hclosing,
          List.forall_mem_cons.mpr ⟨.fixed (by simp [fixedTexts]),
            List.forall_mem_singleton.mpr .empty⟩⟩⟩⟩⟩⟩

end Assembled
end Plan
end ReactiveContract
