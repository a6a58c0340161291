import Mathlib.Data.List.Forall2
import ReactiveContract.Contract.Plan
import ReactiveContract.Proofs.Outcome
import ReactiveContract.Proofs.Text.Numeral
/-! What a plan that was accepted consists of. -/
namespace ReactiveContract

/-- The parameters that have a name. -/
def Solidity.ReactParameters.named (p : ReactParameters) : List String :=
  (all.map (·.2)).filter (· ∈ p.used)

theorem Solidity.ReactParameters.named_subset {p q : ReactParameters}
    (h : ∀ name ∈ p.used, name ∈ q.used) : p.named ⊆ q.named := by
  intro name hname
  obtain ⟨hall, hused⟩ := List.mem_filter.mp hname
  have hmore : name ∈ q.used := h name (of_decide_eq_true hused)
  exact List.mem_filter.mpr ⟨hall, decide_eq_true hmore⟩

theorem Solidity.ReactParameters.named_congr {p q : ReactParameters}
    (h : ∀ name, name ∈ p.used ↔ name ∈ q.used) : p.named = q.named :=
  List.filter_congr fun name _ => decide_eq_decide.mpr (h name)

namespace Plan
open Abi Outcome Solidity Text

theorem eventConstantName_injective {i j : Nat} (h : eventConstantName i = eventConstantName j) :
    i = j := by
  have hl := congrArg String.toList h
  change (("EVENT_" ++ toString i) ++ "_TOPIC_0").toList
    = (("EVENT_" ++ toString j) ++ "_TOPIC_0").toList at hl
  simp only [String.toList_append] at hl
  exact toString_injective (String.toList_injective
    (List.append_cancel_left (List.append_cancel_right hl)))

/-- The constant of an index is the first one of its name. -/
theorem find?_eventConstantsOf {bindings : List Binding} {i : Nat} {b : Binding}
    (h : bindings[i]? = some b) :
    (eventConstantsOf bindings).find? (·.name = eventConstantName i)
      = some ⟨"uint256", eventConstantName i, b.event.topic0⟩ := by
  obtain ⟨hi, rfl⟩ := List.getElem?_eq_some_iff.mp h
  rw [List.find?_eq_some_iff_getElem]
  refine ⟨by simp, i, by simpa [eventConstantsOf] using hi, by simp [eventConstantsOf], ?_⟩
  intro j hj
  have hne : eventConstantName j ≠ eventConstantName i := fun he =>
    absurd (eventConstantName_injective he) (by omega)
  simpa [eventConstantsOf] using hne

theorem arguments_eq_ok {mappings : List Mapping} :
    ∀ {args : List String},
      arguments mappings = .ok args ↔ List.Forall₂ (fun m a => argument m = .ok a) mappings args := by
  induction mappings with
  | nil =>
    intro args
    simp only [arguments, Except.ok.injEq, List.forall₂_nil_left_iff]
    exact eq_comm
  | cons m mappings ih =>
    intro args
    simp only [arguments, bind_eq_ok, pure_eq_ok, ih, List.forall₂_cons_left_iff]
    constructor
    · intro h
      obtain ⟨a, ha, rest, hrest, rfl⟩ := h
      exact ⟨a, rest, ha, hrest, rfl⟩
    · intro h
      obtain ⟨a, rest, ha, hrest, rfl⟩ := h
      exact ⟨a, ha, rest, hrest, rfl⟩

theorem branch_eq_ok {index : Nat} {b : Binding} {br : Branch} :
    branch index b = .ok br
      ↔ b.mappings.length = b.callee.inputs.length
        ∧ ∃ args, arguments b.mappings = .ok args
          ∧ br = {
              topicConstant := eventConstantName index
              statements := decoding b ++ guarding b ++ [.emit ⟨b.callee.signature, args⟩] } := by
  unfold branch
  by_cases hlen : b.mappings.length = b.callee.inputs.length
  · simp only [hlen, ne_eq, not_true_eq_false, if_false, bind_eq_ok, pure_eq_ok, true_and]
    refine exists_congr fun args => and_congr_right fun _ => ?_
    exact eq_comm
  · simp only [hlen, ne_eq, not_false_eq_true, if_true, false_and, iff_false]
    intro h
    obtain ⟨_, h, -⟩ := bind_eq_ok.mp h
    exact throw_ne_ok h

@[simp] theorem outcome_noteShared (bindings : List Binding) (index : Nat) (b : Binding) :
    (noteShared bindings index b).outcome = .ok () := by
  unfold noteShared
  dsimp only
  split <;> rfl

/-- The branches are those of the bindings one by one; what they share is only noted. -/
theorem branchesFrom_eq_ok {all bindings : List Binding} :
    ∀ {index : Nat} {branches : List Branch},
      (branchesFrom all index bindings).outcome = .ok branches
        ↔ List.Forall₂ (fun p br => branch p.2 p.1 = .ok br) (bindings.zipIdx index) branches := by
  induction bindings with
  | nil =>
    intro index branches
    simp only [branchesFrom, Traced.outcome_pure, Except.ok.injEq, List.zipIdx_nil,
      List.forall₂_nil_left_iff]
    exact eq_comm
  | cons b bindings ih =>
    intro index branches
    simp only [branchesFrom, Traced.outcome_bind_eq_ok, outcome_noteShared,
      Traced.outcome_ofExcept, Traced.outcome_note, Traced.outcome_pure, Except.ok.injEq, ih,
      List.zipIdx_cons, List.forall₂_cons_left_iff]
    constructor
    · intro h
      obtain ⟨-, -, br, hbr, -, -, rest, hrest, rfl⟩ := h
      exact ⟨br, rest, hbr, hrest, rfl⟩
    · intro h
      obtain ⟨br, rest, hbr, hrest, rfl⟩ := h
      exact ⟨(), trivial, br, hbr, (), trivial, rest, hrest, rfl⟩

theorem ofSpec_eq_ok {spec : Spec} {plan : Plan} :
    (ofSpec spec).outcome = .ok plan
      ↔ check spec = .ok ()
        ∧ ∃ origins branches, Origins.ofSpec spec = .ok origins
          ∧ List.Forall₂ (fun p br => branch p.2 p.1 = .ok br) spec.bindings.zipIdx branches
          ∧ plan = assemble spec origins branches := by
  simp only [ofSpec, Traced.outcome_bind_eq_ok, Traced.outcome_ofExcept, Traced.outcome_pure,
    mapError_eq_ok, branchesFrom_eq_ok, Except.ok.injEq]
  constructor
  · intro h
    obtain ⟨⟨⟩, hc, origins, ho, branches, hb, rfl⟩ := h
    exact ⟨hc, origins, branches, ho, hb, rfl⟩
  · intro h
    obtain ⟨hc, origins, branches, ho, hb, rfl⟩ := h
    exact ⟨(), hc, origins, ho, branches, hb, rfl⟩

theorem length_branches {bindings : List Binding} {branches : List Branch}
    (h : List.Forall₂ (fun p br => branch p.2 p.1 = .ok br) bindings.zipIdx branches) :
    branches.length = bindings.length := by
  rw [← h.length_eq, List.length_zipIdx]

/-- The branch of an index is that of the binding there. -/
theorem branch_getElem? {bindings : List Binding} {branches : List Branch}
    (h : List.Forall₂ (fun p br => branch p.2 p.1 = .ok br) bindings.zipIdx branches)
    {i : Nat} {b : Binding} (hb : bindings[i]? = some b) :
    ∃ br, branches[i]? = some br ∧ branch i b = .ok br := by
  obtain ⟨hi, rfl⟩ := List.getElem?_eq_some_iff.mp hb
  have hz : i < bindings.zipIdx.length := by simpa using hi
  have hi' : i < branches.length := by rw [← h.length_eq]; exact hz
  refine ⟨branches[i], List.getElem?_eq_getElem hi', ?_⟩
  simpa using h.get hz hi'

section Parameters
variable {spec : Spec} {origins : Origins} {branches : List Branch}

theorem isSome_allowList? {applicable : List Address} :
    (allowList? applicable).isSome = true ↔ applicable ≠ [] := by
  unfold allowList?
  split <;> simp [*]

/-- What the reaction uses: the topic that it dispatches on, what the bindings need, and with a
list of allowed addresses the emitter. -/
theorem mem_used {name : String} :
    name ∈ (assemble spec origins branches).reactParameters.used
      ↔ name = "topic_0" ∨ (∃ b ∈ spec.bindings, name ∈ usedParameters b)
        ∨ (spec.settings.applicable ≠ [] ∧ name = "_contract") := by
  have hlisted : name ∈ (if (allowList? spec.settings.applicable).isSome then ["_contract"] else [])
      ↔ spec.settings.applicable ≠ [] ∧ name = "_contract" := by
    rw [← isSome_allowList?]
    by_cases hsome : (allowList? spec.settings.applicable).isSome = true <;> simp [hsome]
  rw [← hlisted, ← List.mem_flatMap, ← List.mem_append, ← List.mem_cons]
  exact Iff.rfl

end Parameters

/-- What the branch of a binding uses: the topics that are read, with a guard all that it can see,
and the data if a field of it is needed. -/
theorem mem_usedParameters {b : Binding} {name : String} :
    name ∈ usedParameters b
      ↔ (∃ m ∈ b.mappings, ∃ k : Int, m.source = .topic k ∧ name = s!"topic_{k}")
        ∨ (guard? b ≠ none ∧ name ∈ guardParameters) ∨ (neededFields b ≠ [] ∧ name = "data") := by
  unfold usedParameters
  dsimp only
  rw [List.mem_append, List.mem_append, or_assoc]
  refine or_congr ?_ (or_congr ?_ ?_)
  · rw [List.mem_filterMap]
    refine exists_congr fun m => and_congr_right fun _ => ?_
    cases m.source <;> simp [eq_comm]
  · cases guard? b <;> simp
  · by_cases hn : neededFields b = [] <;> simp [hn]

end Plan
end ReactiveContract
