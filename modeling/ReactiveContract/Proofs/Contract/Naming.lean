import ReactiveContract.Proofs.Contract.Composition
import ReactiveContract.Proofs.Contract.Emission
import ReactiveContract.Proofs.Contract.Revalidation
import ReactiveContract.Proofs.Contract.Splice
import ReactiveContract.Proofs.Solidity.Naming
/-! What the name of a contract can clash with: the words of the language, and the names that its
source uses and does not declare. -/
namespace ReactiveContract
open Document Solidity Text

private theorem isWord_of_isIdentifier {name : String} (h : Settings.isIdentifier name = true) :
    IsWord name := by
  unfold Settings.isIdentifier at h
  have hstart : ∀ c, Settings.isNameStart c = true → isNameCharacter c = true := by
    intro c hc
    rw [Settings.isNameStart, Bool.or_eq_true, decide_eq_true_eq] at hc
    rcases hc with hc | hc <;> simp [isNameCharacter, Char.isAlphanum, hc]
  cases hname : name.toList with
  | nil => simp [hname] at h
  | cons c rest =>
    rw [hname, Bool.and_eq_true, List.all_eq_true] at h
    obtain ⟨hc, hrest⟩ := h
    refine ⟨fun hempty => ?_, fun d hd => ?_⟩
    · rw [String.toList_eq_nil_iff.mpr hempty] at hname
      cases hname
    · rw [hname] at hd
      rcases List.mem_cons.mp hd with rfl | hd
      · exact hstart d hc
      · rcases Bool.or_eq_true _ _ ▸ hrest d hd with hd | hd
        · exact hstart d hd
        · simp [isNameCharacter, Char.isAlphanum, hd]

/-- The lines of a part are lines of the whole. -/
theorem Within.linesOf_subset {part text : String} (h : Within [part] text) :
    linesOf part ⊆ linesOf text := by
  obtain ⟨before, after, rfl⟩ := h
  rw [linesOf_joined (by simp)]
  intro line hline
  exact List.mem_flatMap.mpr ⟨part, by simp, hline⟩

private theorem Spec.valid_of_ofJson {j : Json} {spec : Spec} (h : Spec.ofJson j = .ok spec) :
    spec.settings.Valid := by
  cases j with
  | obj fields =>
    obtain ⟨_, _, hread, -, rfl⟩ := Checked.seq_eq_ok.mp h
    obtain ⟨_, hsettings, rfl⟩ := Checked.map_eq_ok.mp hread
    exact Settings.valid_of_ofFields hsettings
  | _ => cases h

namespace Plan

/-- The source uses the name on a line other than the one that declares the contract. -/
def Uses (p : Plan) (name : String) : Prop :=
  ∃ line ∈ linesOf p.render, line ≠ p.declarationLine ∧ StandsIn line name

/-- The contract has the name of a declaration that its source relies on: of one in the library, or
of one that the language makes and that the source uses. -/
def Captures (p : Plan) : Prop :=
  p.contractName ∈ topLevelNames library
    ∨ p.contractName ∈ usedBuiltins ++ otherBuiltins ∧ p.Uses p.contractName

private theorem linesOf_render (p : Plan) : linesOf p.render
    = linesOf preamble ++ (linesOf p.declarationLine ++ linesOf (joinLines p.remainder)) := by
  have hremainder : p.remainder ≠ [] := by simp [remainder]
  have htext : p.render = joinLines [preamble, p.contractText] := rfl
  rw [htext, linesOf_joined (List.cons_ne_nil _ _), List.flatMap_cons, List.flatMap_singleton,
    contractText_declaration, linesOf_joined (List.cons_ne_nil _ _), List.flatMap_cons,
    ← linesOf_joined hremainder]

private theorem preamble_within (p : Plan) :
    Within [preamble] p.render := ⟨[], [p.contractText], rfl⟩

private theorem part_within {part : String} (h : part ∈ libraryParts) (p : Plan) :
    Within [part] p.render := by
  have hblocks : Within ["\n\n".intercalate libraryParts] library :=
    ⟨[], [""], by rw [library_eq, joinLines]; simp [String.intercalate_cons_cons]⟩
  have hlibrary : Within [library] preamble := ⟨["// SPDX-License-Identifier: GPL-2.0-or-later",
    s!"pragma solidity {pragma};", ""], [], rfl⟩
  have hne {text : String} : [text] ≠ [] := List.cons_ne_nil _ _
  exact ((((within_blocks h).trans hne hblocks).trans hne hlibrary).trans hne p.preamble_within)

/-- What precedes a contract is made of the parts of the library. -/
private theorem composed_preamble {Given : String → Prop} (hbreak : Composed Given "\n")
    (h : ∀ part ∈ libraryParts, Composed Given part) : Composed Given preamble := by
  have hlicense : Composed Given "// SPDX-License-Identifier: GPL-2.0-or-later" :=
    .long (by simp [longTexts])
  have hversion : Composed Given pragma := .fixed (by simp [pragma, fixedTexts])
  have hopening : Opener "pragma solidity " := opener_of_mem (by simp [openers])
  have hend : Spacer ";" := spacer_of_mem (by simp [spacers])
  refine composed_joinLines hbreak (List.forall_mem_cons.mpr ⟨hlicense, List.forall_mem_cons.mpr
    ⟨(hversion.opened hopening).closed hend, List.forall_mem_cons.mpr ⟨.empty,
      List.forall_mem_singleton.mpr (composed_library hbreak h)⟩⟩⟩)

private theorem head?_declarationLine (p : Plan) : p.declarationLine.toList.head? = some 'c' := by
  have hline : p.declarationLine
      = "contract " ++ p.contractName ++ " is " ++ p.baseContract ++ " \x7b" := rfl
  have hopening : "contract ".toList = 'c' :: "ontract ".toList := rfl
  simp only [hline, String.toList_append, hopening, List.cons_append, List.head?_cons]

private theorem unbroken_declarationLine {p : Plan}
    (h : Settings.isIdentifier p.contractName = true)
    (hb : Unbroken p.baseContract) : Unbroken p.declarationLine := by
  have hopening : Unbroken "contract " := by decide
  have hname : Unbroken p.contractName := unbroken_of_name (isWord_of_isIdentifier h).2
  exact (((hopening.append hname).append (by decide)).append hb).append (by decide)

theorem ne_declarationLine {line : String} (h : line.toList.head? = some ' ') (p : Plan) :
    line ≠ p.declarationLine := by
  rintro rfl
  rw [head?_declarationLine] at h
  cases h

/-- A line of the source that does not declare the contract is one of the library or of the
contract after its first line. -/
private theorem mem_linesOf_render {p : Plan} (h : Unbroken p.declarationLine) {line : String}
    (hline : line ∈ linesOf p.render) (hne : line ≠ p.declarationLine) :
    line ∈ linesOf preamble ∨ line ∈ linesOf (joinLines p.remainder) := by
  rw [linesOf_render, h.linesOf_eq, List.mem_append, List.mem_append, List.mem_singleton] at hline
  rcases hline with hline | hline | hline
  · exact .inl hline
  · exact absurd hline hne
  · exact .inr hline

theorem not_mentions_break {w : String} (h : w ∈ otherBuiltins) : ¬ Mentions "\n" w := by
  have hne : w.toList ≠ [] := fun hnil =>
    (builtin_shape w h).1.1 (String.toList_eq_nil_iff.mp hnil)
  have hsplit : "\n".toList.splitOnP (!isNameCharacter ·) = [[], []] := rfl
  rw [Mentions, hsplit]
  simp [hne]

private theorem silent_preamble {w : String} (h : w ∈ otherBuiltins) : ¬ Mentions preamble w := by
  intro hmentions
  have hcomposed : Composed (fun text => text = "\n" ∨ text ∈ libraryParts) preamble :=
    composed_preamble (.given (.inl rfl)) fun part hpart => .given (.inr hpart)
  obtain ⟨text, rfl | hpart, htext⟩ := hcomposed.mentions h hmentions
  · exact not_mentions_break h htext
  · exact silent_parts text hpart w h htext

section Uses
variable {spec : Spec} {plan : Plan}

/-- Another builtin that the source uses is mentioned in a text of a binding. -/
private theorem mentions_of_uses (hp : (ofSpec spec).outcome = .ok plan)
    (hname : Settings.isIdentifier plan.contractName = true) {w : String} (hw : w ∈ otherBuiltins)
    (h : plan.Uses w) : ∃ b ∈ spec.bindings, ∃ text ∈ b.texts, Mentions text w := by
  obtain ⟨-, origins, branches, ho, hall, rfl⟩ := ofSpec_eq_ok.mp hp
  obtain ⟨line, hline, hne, hstands⟩ := h
  have hmentions := hstands.mentions (builtin_shape w hw).1
  have hbase : Unbroken (baseOf spec.settings.pausable) := by
    unfold baseOf
    split <;> decide
  -- The library mentions none of them, so the use is in the contract.
  rcases mem_linesOf_render (unbroken_declarationLine hname hbase) hline hne with hline | hline
  · exact absurd (mentions_of_mem_linesOf hline hmentions) (silent_preamble hw)
  · have hcomposed : Composed (fun text => text = "\n" ∨ ∃ b ∈ spec.bindings, text ∈ b.texts)
        (joinLines (assemble spec origins branches).remainder) :=
      composed_remainder (fun b hb text htext => .given (.inr ⟨b, hb, htext⟩)) ho hall
        (.given (.inl rfl))
    obtain ⟨text, rfl | ⟨b, hb, htext⟩, hmentioned⟩ :=
      hcomposed.mentions hw (mentions_of_mem_linesOf hline hmentions)
    · exact absurd hmentioned (not_mentions_break hw)
    · exact ⟨b, hb, text, htext, hmentioned⟩

theorem uses_abi (hp : (ofSpec spec).outcome = .ok plan) : plan.Uses "abi" := by
  obtain ⟨hcheck, origins, branches, -, hall, rfl⟩ := ofSpec_eq_ok.mp hp
  have hbindings : spec.bindings ≠ [] := (check_eq_ok.mp hcheck).1
  obtain ⟨b, rest, hb⟩ := List.exists_cons_of_ne_nil hbindings
  obtain ⟨br, hbr, hbranch⟩ := branch_getElem? hall (i := 0) (b := b) (by rw [hb]; rfl)
  obtain ⟨-, args, -, rfl⟩ := branch_eq_ok.mp hbranch
  have hwithin := line_within (p := assemble spec origins branches) (List.mem_of_getElem? hbr)
    (List.mem_append_right _ (List.mem_singleton_self _)) (List.mem_cons_self ..) (by decide)
  have hunbroken : Unbroken
      (indentation 3 ++ "bytes memory payload = abi.encodeWithSignature(") := by decide
  have hline := hwithin.linesOf_subset (hunbroken.linesOf_eq ▸ List.mem_singleton_self _)
  have hsplit : "bytes memory payload = abi.encodeWithSignature("
      = "bytes memory payload = " ++ ("abi" ++ ".encodeWithSignature(") := rfl
  refine ⟨_, hline, ne_declarationLine (by decide) _,
    ⟨indentation 3 ++ "bytes memory payload = ", ".encodeWithSignature(", ?_, by decide, by decide,
      by decide, by decide⟩⟩
  rw [hsplit]
  simp only [String.append_assoc]

end Uses

set_option maxRecDepth 20000 in
/-- The library checks who calls. -/
theorem uses_check (p : Plan) : p.Uses "msg" ∧ p.Uses "require" := by
  have hpart : pausableContract ∈ libraryParts := by simp [libraryParts]
  have hline : "        require(msg.sender == owner, 'Unauthorized');" ∈ linesOf pausableContract :=
    mem_linesOf_of_chars rfl rfl (by decide +kernel)
  have hmem := (part_within hpart p).linesOf_subset hline
  have hne : "        require(msg.sender == owner, 'Unauthorized');" ≠ p.declarationLine :=
    ne_declarationLine (by decide) p
  exact ⟨⟨_, hmem, hne, "        require(", ".sender == owner, 'Unauthorized');", rfl, by decide,
      by decide, by decide, by decide⟩,
    _, hmem, hne, "        ", "(msg.sender == owner, 'Unauthorized');", rfl, by decide, by decide,
    by decide, by decide⟩

/-- An accepted plan has a name that is refused neither as an identifier nor as a word. -/
private theorem contractName_accepted {j : Json} {spec : Spec} {plan : Plan}
    (hj : Spec.ofJson j = .ok spec) (hp : (ofSpec spec).outcome = .ok plan) :
    Settings.isIdentifier plan.contractName = true ∧ isReserved plan.contractName = false := by
  obtain ⟨hcheck, _, _, -, -, rfl⟩ := ofSpec_eq_ok.mp hp
  obtain ⟨-, hname, -⟩ := check_eq_ok.mp hcheck
  exact ⟨(Spec.valid_of_ofJson hj).contractName_identifier, Demand.isReserved_eq_false.mpr hname⟩

private theorem notMem_topLevelNames {name : String} (h : isReserved name = false) :
    name ∉ topLevelNames library := by
  have hlisted : ∀ name ∈ topLevelNames library, name ∈ libraryNames := by
    rw [topLevelNames_library]
    decide
  intro hname
  simp [isReserved, hlisted name hname] at h

/-- The builtins whose names are accepted although every source uses them. -/
def unguardedBuiltins : List String := ["abi", "msg", "require"]

private theorem uses_unguarded {spec : Spec} {plan : Plan} (hp : (ofSpec spec).outcome = .ok plan) :
    ∀ name ∈ unguardedBuiltins, plan.Uses name :=
  List.forall_mem_cons.mpr ⟨uses_abi hp, List.forall_mem_cons.mpr
    ⟨(uses_check plan).1, List.forall_mem_singleton.mpr (uses_check plan).2⟩⟩

/-- Whatever name is accepted is an identifier. It is a word of the language exactly if it is one of
those that are not listed, and it takes the place of a declaration that the source relies on if it
is that of the calls, the messages or the guards; otherwise only if it is one of the other builtins
and a text of a binding mentions it. -/
theorem ofSpec_name_clashes {j : Json} {spec : Spec} {plan : Plan} (hj : Spec.ofJson j = .ok spec)
    (hp : (ofSpec spec).outcome = .ok plan) :
    Settings.isIdentifier plan.contractName = true
      ∧ (ReservedWord plan.contractName ↔ plan.contractName ∈ unlistedWords)
      ∧ (plan.contractName ∈ unguardedBuiltins → plan.Captures)
      ∧ (plan.Captures → plan.contractName ∈ unguardedBuiltins
          ∨ plan.contractName ∈ otherBuiltins
            ∧ ∃ b ∈ spec.bindings, ∃ text ∈ b.texts, Mentions text plan.contractName) := by
  obtain ⟨hidentifier, hreserved⟩ := contractName_accepted hj hp
  refine ⟨hidentifier, reservedWord_iff hreserved, fun h => ?_, fun h => ?_⟩
  · have hused : ∀ name ∈ unguardedBuiltins, name ∈ usedBuiltins := by decide
    exact .inr ⟨List.mem_append_left _ (hused _ h), uses_unguarded hp _ h⟩
  · rcases h with hdeclared | ⟨hbuiltin, huses⟩
    · exact absurd hdeclared (notMem_topLevelNames hreserved)
    · rcases List.mem_append.mp hbuiltin with hused | hother
      -- Of the builtins that every source uses, only those with refused names are guarded.
      · left
        have hlisted : ∀ name ∈ usedBuiltins, name ∈ unguardedBuiltins ∨ isReserved name = true := by
          decide
        rcases hlisted _ hused with h | h
        · exact h
        · rw [hreserved] at h
          cases h
      · exact .inr ⟨hother, mentions_of_uses hp hidentifier hother huses⟩

end Plan

/-- A configuration that answers an event without inputs, for a contract of the given name. -/
def pingDocument (name : String) : Json := .obj [
  ("topology", .str "BLOCKCHAIN_WIDE"),
  ("origin_chain_id", .int 1),
  ("destination_chain_id", .int 2),
  ("destination_address", .str "0x0000000000000000000000000000000000000000"),
  ("contract_name", .str name),
  ("bindings", .arr [.obj [
    ("event", .obj [
      ("name", .str "Ping"), ("inputs", .arr []), ("signature", .str "Ping()"),
      ("topic0",
        .str "0xca6e822df923f741dfe968d15d80a18abd25bd1e748bcb9ad81fea5bbb7386af")]),
    ("function", .obj [
      ("name", .str "pong"), ("inputs", .arr []), ("signature", .str "pong()")]),
    ("mappings", .arr [])]])]

def pingBinding : Binding :=
  { event := {
      name := "Ping", inputs := [], signature := "Ping()"
      topic0 := "0xca6e822df923f741dfe968d15d80a18abd25bd1e748bcb9ad81fea5bbb7386af" }
    callee := { name := "pong", inputs := [], signature := "pong()", mutability := "nonpayable" }
    mappings := [] }

def pingSpec (name : String) : Spec :=
  { settings := {
      topology := .blockchainWide, originChainId := 1, destinationChainId := 2
      destination := ⟨0⟩, contractName := name }
    bindings := [pingBinding] }

def pingPlan (name : String) : Plan :=
  .assemble (pingSpec name) (Origins.ofAny 1) [⟨"EVENT_0_TOPIC_0", [.emit ⟨"pong()", []⟩]⟩]

theorem Spec.ofJson_pingDocument {name : String} (h : Settings.isIdentifier name = true) :
    ofJson (pingDocument name) = .ok (pingSpec name) := by
  have hname : Settings.identifier (.str name) = .ok name :=
    Checked.refine_eq_ok.mpr ⟨name, rfl, by rw [Settings.identifierOfText, if_pos h]⟩
  refine Checked.seq_eq_ok.mpr ⟨_, [pingBinding], Checked.map_eq_ok.mpr
    ⟨(pingSpec name).settings, Settings.ofFields_eq_ok.mpr ?_, rfl⟩, rfl, rfl⟩
  refine ⟨rfl, rfl, rfl, rfl, rfl, rfl, rfl, ?_, rfl, rfl⟩
  exact Key.optional_eq_ok.mpr (.inr ⟨.str name, rfl, hname⟩)

theorem Plan.ofSpec_pingSpec {name : String} (h : isReserved name = false) :
    (ofSpec (pingSpec name)).outcome = .ok (pingPlan name) := by
  have hcheck : check (pingSpec name) = .ok () :=
    check_eq_ok.mpr ⟨List.cons_ne_nil _ _, Demand.isReserved_eq_false.mp h, .inl rfl⟩
  exact ofSpec_eq_ok.mpr ⟨hcheck, Origins.ofAny 1, _, rfl, .cons rfl .nil, rfl⟩

namespace Plan

/-- The default name clashes with nothing. -/
theorem pingPlan_clashes_not :
    ∃ spec plan, Spec.ofJson (pingDocument "ReactiveSmartContract") = .ok spec
      ∧ (ofSpec spec).outcome = .ok plan ∧ plan.contractName = "ReactiveSmartContract"
      ∧ ¬ ReservedWord "ReactiveSmartContract" ∧ ¬ plan.Captures := by
  have hread : Spec.ofJson (pingDocument "ReactiveSmartContract") = .ok _ :=
    Spec.ofJson_pingDocument (by decide)
  have hplan : (ofSpec (pingSpec "ReactiveSmartContract")).outcome = .ok _ :=
    ofSpec_pingSpec (by decide)
  obtain ⟨-, hword, -, hcaptures⟩ := ofSpec_name_clashes hread hplan
  have hunlisted : "ReactiveSmartContract" ∉ unlistedWords := by decide
  have hunguarded : "ReactiveSmartContract" ∉ unguardedBuiltins := by decide
  have hother : "ReactiveSmartContract" ∉ otherBuiltins := by decide
  refine ⟨_, _, hread, hplan, rfl, fun h => hunlisted (hword.mp h), fun h => ?_⟩
  rcases hcaptures h with h | ⟨h, -⟩
  · exact hunguarded h
  · exact hother h

/-- A unit of value and the name of the encoding calls are accepted. -/
theorem pingPlan_clashes :
    (∃ spec plan, Spec.ofJson (pingDocument "ether") = .ok spec
        ∧ (ofSpec spec).outcome = .ok plan ∧ plan.contractName = "ether" ∧ ReservedWord "ether")
      ∧ ∃ spec plan, Spec.ofJson (pingDocument "abi") = .ok spec
        ∧ (ofSpec spec).outcome = .ok plan ∧ plan.contractName = "abi" ∧ plan.Captures := by
  have hether : "ether" ∈ denominations := by decide
  have habi : "abi" ∈ usedBuiltins ++ otherBuiltins := by decide
  have hplan : (ofSpec (pingSpec "abi")).outcome = .ok _ := ofSpec_pingSpec (by decide)
  exact ⟨⟨_, _, Spec.ofJson_pingDocument (by decide), ofSpec_pingSpec (by decide), rfl,
      .inr (.inl hether)⟩,
    _, _, Spec.ofJson_pingDocument (by decide), hplan, rfl, .inr ⟨habi, uses_abi hplan⟩⟩

end Plan
end ReactiveContract
