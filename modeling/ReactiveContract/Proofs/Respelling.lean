import ReactiveContract.Proofs.Contract.Respelling
import ReactiveContract.Proofs.Generation
import ReactiveContract.Proofs.Refusal
/-! What is generated does not depend on how a request is spelled. -/
namespace ReactiveContract
open Abi Document Outcome

theorem Topology.names_iff {j k : Json}
    (h : Json.TextRel (fun s t => letters s = letters t) j k) (t : Topology) :
    Names j t ↔ Names k t := by
  cases h with
  | form hst =>
    unfold Names
    simp only [Json.str.injEq, exists_eq_left', hst]
  | other hother => rfl

namespace Submission
variable {f g : Fields}

/-- Respelled requests are both read or both refused. -/
private theorem readDocument_respelled (h : Request.Respelled f g) :
    Outcome.Rel Request.Rel (readDocument Request.recordName Request.ofFields (.obj f))
      (readDocument Request.recordName Request.ofFields (.obj g)) := by
  have htopology : Option.Rel (Json.TextRel fun s t => Topology.letters s = Topology.letters t)
      (Fields.get? f Settings.topologyKey.name) (Fields.get? g Settings.topologyKey.name) := by
    have hvalue := h.settings.topology.value?
    rw [Key.value?_eq, Key.value?_eq] at hvalue
    exact hvalue
  have hboth (hf : ∀ given, Fields.get? f Settings.topologyKey.name = some given →
        ∃ t, Topology.Names given t)
      (hg : ∀ given, Fields.get? g Settings.topologyKey.name = some given →
        ∃ t, Topology.Names given t) :
      Outcome.Rel Request.Rel (readDocument Request.recordName Request.ofFields (.obj f))
        (readDocument Request.recordName Request.ofFields (.obj g)) := by
    rw [readDocument_of_known hf, readDocument_of_known hg]
    have hread := h.rel
    revert hread
    generalize Request.ofFields f = x, Request.ofFields g = y
    intro hread
    cases hread with
    | ok hrq => exact .ok hrq
    | rejected fs gs => exact .error _ _
  generalize hx : Fields.get? f Settings.topologyKey.name = x at htopology hboth
  generalize hy : Fields.get? g Settings.topologyKey.name = y at htopology hboth
  cases htopology with
  | none => exact hboth (by simp) (by simp)
  | @some j k hjk =>
    -- Either both name one topology or neither names any.
    by_cases hknown : ∃ t, Topology.Names j t
    · obtain ⟨t, ht⟩ := hknown
      have ht' : Topology.Names k t := (Topology.names_iff hjk t).mp ht
      refine hboth ?_ ?_
      · rintro _ ⟨⟩
        exact ⟨t, ht⟩
      · rintro _ ⟨⟩
        exact ⟨t, ht'⟩
    · have hj : ∀ t, ¬ Topology.Names j t := fun t ht => hknown ⟨t, ht⟩
      have hk : ∀ t, ¬ Topology.Names k t := fun t ht => hj t ((Topology.names_iff hjk t).mpr ht)
      rw [readDocument_of_unknown _ _ hx hj, readDocument_of_unknown _ _ hy hk]
      exact .error _ _

private theorem toSpec_respelled (h : Request.Respelled f g) {gasLimit : Quantity} {spec : Spec} :
    ((document (.obj f)).toSpec gasLimit).outcome = .ok spec
      ↔ ((document (.obj g)).toSpec gasLimit).outcome = .ok spec := by
  have hread := readDocument_respelled h
  unfold toSpec
  simp only [Traced.outcome_bind_eq_ok, Traced.outcome_ofExcept]
  revert hread
  generalize readDocument Request.recordName Request.ofFields (.obj f) = x
  generalize readDocument Request.recordName Request.ofFields (.obj g) = y
  intro hread
  cases hread with
  | ok hrq =>
    simp only [Except.ok.injEq, exists_eq_left']
    exact ⟨Request.describe_rel hrq, Request.describe_rel hrq.symm⟩
  | error e d => simp

/-- Requests that differ in spelling alone are both refused, or the same is generated from them:
the source to the letter, the name of the contract and the functions that it calls. -/
theorem generate_respelled (o : Options) (h : Request.Respelled f g) :
    (∃ failure other, (generate o (.document (.obj f))).outcome = .error failure
        ∧ (generate o (.document (.obj g))).outcome = .error other)
      ∨ ∃ generated, (generate o (.document (.obj f))).outcome = .ok generated
        ∧ (generate o (.document (.obj g))).outcome = .ok generated := by
  have hsame : ∀ generated, (generate o (.document (.obj f))).outcome = .ok generated
      ↔ (generate o (.document (.obj g))).outcome = .ok generated := by
    intro generated
    simp only [generate_eq_ok, toSpec_respelled h]
  cases hf : (generate o (.document (.obj f))).outcome with
  | ok generated => exact .inr ⟨generated, rfl, (hsame generated).mp hf⟩
  | error failure =>
    cases hg : (generate o (.document (.obj g))).outcome with
    | ok generated =>
      rw [(hsame generated).mpr hg] at hf
      cases hf
    | error other => exact .inl ⟨failure, other, rfl, rfl⟩

end Submission

/-- A request for the credit of a fixed account, spelled in two ways. -/
def creditFields : Fields := [
  ("topology", .str "ORIGIN_TO_PROTOCOL"),
  ("originChainId", .int 1),
  ("destinationChainId", .int 2),
  ("originAddresses", .arr [.str "0x00000000000000000000000000000000000000aB"]),
  ("destinationAddress", .str "0x00000000000000000000000000000000000000Cd"),
  ("bindings", .arr [.obj [
    ("event", transferJson),
    ("function", creditJson),
    ("inputMappings", .arr [
      .obj [
        ("targetType", .str "address"),
        ("source", .obj [
          ("kind", .str "fixed"),
          ("value", .str "0x00000000000000000000000000000000000000eF")])],
      .obj [
        ("targetType", .str "uint256"),
        ("source", .obj [("kind", .str "data"), ("fieldName", .str "value")])]]),
    ("condition", .str "value > 0")]])]

def respelledCreditFields : Fields := [
  ("topology", .str "origin-to-protocol"),
  ("origin_chain_id", .int 1),
  ("destination_chain_id", .int 2),
  ("originAddress", .str "00000000000000000000000000000000000000AB"),
  ("destination_address", .str "0X00000000000000000000000000000000000000cd"),
  ("bindings", .arr [.obj [
    ("event", .obj [
      ("kind", .str "event"), ("name", .str "Transfer"),
      ("inputs", .arr [
        .obj [("name", .str "to"), ("type", .str "address"), ("indexed", .bool true)],
        .obj [("name", .str "value"), ("type", .str "uint")]])]),
    ("function", .obj [
      ("kind", .str "function"), ("name", .str "credit"),
      ("inputs", .arr [
        .obj [("name", .str "who"), ("type", .str "address")],
        .obj [("name", .str "amount"), ("type", .str "uint")]])]),
    ("input_mappings", .arr [
      .obj [
        ("target_type", .str "address"),
        ("source", .obj [
          ("kind", .str "fixed"),
          ("value", .str " 00000000000000000000000000000000000000EF ")])],
      .obj [
        ("target_type", .str "uint"),
        ("source", .obj [("kind", .str "data"), ("field_name", .str "value")])]]),
    ("condition", .str " value > 0\n")]])]

def creditRequest : Request :=
  { settings := {
      topology := .originToProtocol, originChainId := 1, destinationChainId := 2
      origins := [⟨0xab⟩], destination := ⟨0xcd⟩ }
    bindings := [{
      event := transferEntry, callee := creditEntry
      mappings := [
        { type := "address", source := .fixed "0x00000000000000000000000000000000000000eF" },
        { type := "uint256", source := .data "value" }]
      condition := some "value > 0" }]
    setsGasLimit := false }

def fixedCredit : Binding :=
  { transferCredit with
    mappings := [
      ⟨"who", "address", .fixed (Address.text ⟨0xef⟩)⟩, ⟨"amount", "uint256", .data "value"⟩] }

private theorem readDocument_creditFields :
    Submission.readDocument Request.recordName Request.ofFields (.obj creditFields)
      = .ok creditRequest := rfl

private theorem Source.settledLiteral_creditFields :
    settledLiteral "address" "0x00000000000000000000000000000000000000eF" = Address.text ⟨0xef⟩ := by
  have hread : Address.read? (Text.trim "0x00000000000000000000000000000000000000eF")
      = some ⟨0xef⟩ := rfl
  rw [settledLiteral, if_pos rfl, hread]

private theorem resolveAll_creditRequest :
    (BindingRequest.resolveAll 0 creditRequest.bindings).outcome = .ok [fixedCredit] := by
  refine BindingRequest.resolveAll_eq_ok.mpr (.cons (BindingRequest.resolve_eq_ok.mpr ?_) .nil)
  refine ⟨rfl, rfl, _, _, event_ofEntry_transferEntry, callee_ofEntry_creditEntry,
    Binding.resolve_eq_ok.mpr ⟨⟨.cons ?_ (.cons ?_ .nil), by decide, ?_⟩, ?_⟩⟩
  · exact ⟨⟨.address, ValueType.ofText?_address, rfl⟩, by decide, by decide, by decide⟩
  · exact ⟨⟨.uint 256, ValueType.ofText?_uint256, rfl⟩, by decide, by decide, _, rfl, rfl, rfl⟩
  · intro text htext
    cases htext
    exact ⟨by decide, by decide⟩
  · rw [fixedCredit, ← Source.settledLiteral_creditFields]
    rfl

private theorem exists_generate_creditFields :
    ∃ generated, (Submission.generate {} (.document (.obj creditFields))).outcome = .ok generated := by
  have hspec : ((Submission.document (.obj creditFields)).toSpec (.whole 1000000)).outcome
      = .ok ⟨creditRequest.settings, [fixedCredit]⟩ := by
    refine Traced.outcome_bind_eq_ok.mpr ⟨creditRequest, readDocument_creditFields, ?_⟩
    exact Submission.describe_of_valid 1000000 rfl
      ⟨by decide, by decide, by decide, by decide, by decide⟩ resolveAll_creditRequest
  obtain ⟨plan, hplan⟩ := Plan.exists_plan (Submission.resolved_of_toSpec hspec) fun d => by
    cases d <;> decide
  exact ⟨_, Submission.generate_eq_ok.mpr ⟨_, plan, hspec, hplan, rfl⟩⟩

theorem Abi.Param.respelled_typed {name a b : String} (h : ValueType.Respelled a b) :
    Json.RecordRel Param.Respelled (.obj [("name", .str name), ("type", .str a)])
      (.obj [("name", .str name), ("type", .str b)]) :=
  .form {
    name := .of_get? rfl (.some rfl)
    type := .of_get? rfl (.some (.form h))
    indexed := .of_get? rfl .none }

/-- An entry that has its kind under the other name. -/
theorem Abi.Entry.respelled_kind {kind name : String} {inputs others : List Json}
    (h : List.Forall₂ (Json.RecordRel Param.Respelled) inputs others) :
    Json.RecordRel Entry.Respelled
      (.obj [("type", .str kind), ("name", .str name), ("inputs", .arr inputs)])
      (.obj [("kind", .str kind), ("name", .str name), ("inputs", .arr others)]) :=
  .form {
    kind := .given ⟨"type", by decide, rfl, by simp [Key.names, kindKey, Fields.get?]⟩
      ⟨"kind", by decide, rfl, by simp [Key.names, kindKey, Fields.get?]⟩ rfl
    name := .of_get? rfl (.some rfl)
    inputs := .of_get? rfl (.some (.form h))
    stateMutability := .of_get? rfl .none
    anonymous := .of_get? rfl .none
    constant := .of_get? rfl .none
    payable := .of_get? rfl .none }

private theorem Settings.respelled_creditFields : Respelled creditFields respelledCreditFields where
  topology := .of_get? rfl (.some (.form (by decide +kernel)))
  originChainId := .given ⟨"originChainId", by decide, rfl, by decide⟩
    ⟨"origin_chain_id", by decide, rfl, by decide⟩ rfl
  destinationChainId := .given ⟨"destinationChainId", by decide, rfl, by decide⟩
    ⟨"destination_chain_id", by decide, rfl, by decide⟩ rfl
  origins := .given (.listed ⟨"originAddresses", by decide, rfl, by decide⟩)
    (.single (by decide) rfl (by simp) (by simp))
    (.cons (.form (.inr ⟨by decide, by decide⟩)) .nil)
  destination := .given ⟨"destinationAddress", by decide, rfl, by decide⟩
    ⟨"destination_address", by decide, rfl, by decide⟩
    (.form (.inr ⟨by decide, by decide⟩))
  pausable := .of_get? rfl .none
  owner := .absent (by decide) (by decide)
  contractName := .absent (by decide) (by decide)
  callbackGasLimit := .absent (by decide) (by decide)
  applicable := .absent (by decide) (by decide)

private theorem Request.respelled_creditFields : Respelled creditFields respelledCreditFields := by
  have huint : ValueType.Respelled "uint256" "uint" := .uint (by decide) (by decide)
  have hto : Json.RecordRel Param.Respelled
      (.obj [("name", .str "to"), ("type", .str "address"), ("indexed", .bool true)])
      (.obj [("name", .str "to"), ("type", .str "address"), ("indexed", .bool true)]) :=
    .form {
      name := .of_get? rfl (.some rfl)
      type := .of_get? rfl (.some (.form (.same "address")))
      indexed := .of_get? rfl (.some rfl) }
  have haccount : Json.RecordRel Mapping.Respelled
      (.obj [("targetType", .str "address"), ("source", .obj [
        ("kind", .str "fixed"), ("value", .str "0x00000000000000000000000000000000000000eF")])])
      (.obj [("target_type", .str "address"), ("source", .obj [
        ("kind", .str "fixed"), ("value", .str " 00000000000000000000000000000000000000EF ")])]) :=
    .form {
      target := .absent (by decide) (by decide)
      type := .given ⟨"targetType", by decide, rfl, by decide⟩
        ⟨"target_type", by decide, rfl, by decide⟩ (.form (.same "address"))
      source := .of_get? rfl (.some (.form {
        tag := .of_get? rfl (.some rfl)
        literal := .of_get? rfl (.some (.form (.inr
          ⟨rfl, .inr ⟨by decide, by decide⟩⟩)))
        topic := .absent (by decide) (by decide)
        field := .absent (by decide) (by decide) })) }
  have hamount : Json.RecordRel Mapping.Respelled
      (.obj [("targetType", .str "uint256"), ("source", .obj [
        ("kind", .str "data"), ("fieldName", .str "value")])])
      (.obj [("target_type", .str "uint"), ("source", .obj [
        ("kind", .str "data"), ("field_name", .str "value")])]) :=
    .form {
      target := .absent (by decide) (by decide)
      type := .given ⟨"targetType", by decide, rfl, by decide⟩
        ⟨"target_type", by decide, rfl, by decide⟩ (.form huint)
      source := .of_get? rfl (.some (.form {
        tag := .of_get? rfl (.some rfl)
        literal := .of_get? rfl .none
        topic := .absent (by decide) (by decide)
        field := .given ⟨"fieldName", by decide, rfl, by decide⟩
          ⟨"field_name", by decide, rfl, by decide⟩ rfl })) }
  refine ⟨Settings.respelled_creditFields, .of_get? rfl (.some (.form (.cons (.form ?_) .nil)))⟩
  exact {
    event := .of_get? rfl (.some (Entry.respelled_kind
      (.cons hto (.cons (Param.respelled_typed huint) .nil))))
    callee := .of_get? rfl (.some (Entry.respelled_kind
      (.cons (Param.respelled_typed (.same "address")) (.cons (Param.respelled_typed huint) .nil))))
    mappings := .given ⟨"inputMappings", by decide, rfl, by decide⟩
      ⟨"input_mappings", by decide, rfl, by decide⟩ (.form (.cons haccount (.cons hamount .nil)))
    condition := .of_get? rfl (.some (.form rfl)) }

/-- The two spellings lead to one contract. -/
theorem creditFields_respelled :
    Request.Respelled creditFields respelledCreditFields
      ∧ ∃ generated,
        (Submission.generate {} (.document (.obj creditFields))).outcome = .ok generated
          ∧ (Submission.generate {} (.document (.obj respelledCreditFields))).outcome
            = .ok generated := by
  refine ⟨Request.respelled_creditFields, ?_⟩
  obtain ⟨generated, hgenerated⟩ := exists_generate_creditFields
  rcases Submission.generate_respelled {} Request.respelled_creditFields with
    ⟨failure, other, hf, -⟩ | hsame
  · rw [hgenerated] at hf
    cases hf
  · exact hsame

end ReactiveContract
