import Mathlib.Data.List.Forall2
import ReactiveContract.Contract.Request
import ReactiveContract.Proofs.Binding.Resolved
import ReactiveContract.Proofs.Contract.Settings
/-! Every binding of a description that a submission leads to comes from the resolver. -/
namespace ReactiveContract
open Abi Document Outcome

namespace BindingRequest

/-- With an event and a function that can be bound, a request comes to what is made of them. -/
theorem outcome_resolve (index : Nat) {r : BindingRequest} (hs : r.event.isSubscribable = true)
    (ht : r.callee.isCallable = true) :
    (resolve index r).outcome = (do
      let event ← Event.ofEntry r.event
      let callee ← (Callee.ofEntry r.callee).mapError .invalidAbi
      (Binding.resolve event callee r.mappings r.condition).mapError .violation) := by
  unfold resolve
  rw [Traced.outcome_ofExcept_bind (Entry.checkKind_of_isSubscribable index hs),
    Traced.outcome_ofExcept_bind (Entry.checkKind_of_isCallable index ht)]
  simp only [hs, ht, Bool.not_true, Bool.false_eq_true, if_false, Traced.outcome_bind,
    Traced.outcome_ofExcept, Traced.outcome_noteViolation]

/-- Anything else is refused for its kind. -/
theorem resolve_refused (index : Nat) {r : BindingRequest}
    (h : ¬ (r.event.isSubscribable = true ∧ r.callee.isCallable = true)) :
    (∃ fault, (resolve index r).outcome = .error (.invalidAbi fault))
      ∨ ∃ v, (resolve index r).outcome = .error (.violation v) := by
  unfold resolve
  cases hsource : Entry.checkKind index r.event with
  | error fault => exact .inl ⟨fault, rfl⟩
  | ok source =>
    cases htarget : Entry.checkKind index r.callee with
    | error fault => exact .inl ⟨fault, rfl⟩
    | ok target =>
      obtain ⟨rfl, -⟩ := Entry.checkKind_eq_ok.mp hsource
      obtain ⟨rfl, -⟩ := Entry.checkKind_eq_ok.mp htarget
      refine .inr ?_
      rw [Traced.outcome_ofExcept_bind rfl, Traced.outcome_ofExcept_bind rfl]
      cases hs : r.event.isSubscribable with
      | false => exact ⟨_, rfl⟩
      | true =>
        cases ht : r.callee.isCallable with
        | false => exact ⟨_, rfl⟩
        | true => exact absurd ⟨hs, ht⟩ h

theorem resolve_eq_ok {index : Nat} {r : BindingRequest} {b : Binding} :
    (resolve index r).outcome = .ok b
      ↔ r.event.isSubscribable = true ∧ r.callee.isCallable = true
        ∧ ∃ event callee, Event.ofEntry r.event = .ok event ∧ Callee.ofEntry r.callee = .ok callee
          ∧ Binding.resolve event callee r.mappings r.condition = .ok b := by
  by_cases h : r.event.isSubscribable = true ∧ r.callee.isCallable = true
  · rw [outcome_resolve index h.1 h.2]
    simp only [bind_eq_ok, mapError_eq_ok, h.1, h.2, true_and, exists_and_left]
  · refine iff_of_false (fun hb => ?_) fun hb => h ⟨hb.1, hb.2.1⟩
    rcases resolve_refused index h with ⟨_, hrefused⟩ | ⟨_, hrefused⟩
    · cases hb.symm.trans hrefused
    · cases hb.symm.trans hrefused

theorem resolveAll_eq_ok {requests : List BindingRequest} :
    ∀ {index : Nat} {bindings : List Binding},
      (resolveAll index requests).outcome = .ok bindings
        ↔ List.Forall₂ (fun p b => (resolve p.2 p.1).outcome = .ok b) (requests.zipIdx index)
            bindings := by
  induction requests with
  | nil =>
    intro index bindings
    simp only [resolveAll, Traced.outcome_pure, Except.ok.injEq, List.zipIdx_nil,
      List.forall₂_nil_left_iff]
    exact eq_comm
  | cons r requests ih =>
    intro index bindings
    simp only [resolveAll, Traced.outcome_bind_eq_ok, Traced.outcome_pure, Except.ok.injEq, ih,
      List.zipIdx_cons, List.forall₂_cons_left_iff]
    constructor
    · intro h
      obtain ⟨b, hb, rest, hrest, rfl⟩ := h
      exact ⟨b, rest, hb, hrest, rfl⟩
    · intro h
      obtain ⟨b, rest, hb, hrest, rfl⟩ := h
      exact ⟨b, hb, rest, hrest, rfl⟩

private theorem resolved_of_resolve {index : Nat} {r : BindingRequest} {b : Binding}
    (h : (resolve index r).outcome = .ok b) : b.Resolved := by
  obtain ⟨-, -, event, callee, he, hc, hb⟩ := resolve_eq_ok.mp h
  exact ⟨r.event, r.callee, event, callee, r.mappings, r.condition, he, hc, hb⟩

private theorem resolved_of_resolveAll {index : Nat} {requests : List BindingRequest}
    {bindings : List Binding} (h : (resolveAll index requests).outcome = .ok bindings) :
    ∀ b ∈ bindings, b.Resolved := by
  induction requests generalizing index bindings with
  | nil =>
    cases h
    simp
  | cons r requests ih =>
    obtain ⟨b, hb, h⟩ := Traced.outcome_bind_eq_ok.mp h
    obtain ⟨rest, hrest, h⟩ := Traced.outcome_bind_eq_ok.mp h
    cases h
    exact List.forall_mem_cons.mpr ⟨resolved_of_resolve hb, ih hrest⟩

end BindingRequest

namespace Submission

private theorem map_getD_nil (fields : Fields) :
    fields.map (fun f => (f.1, (Fields.get? [] f.1).getD f.2)) = fields := by
  simp [Fields.get?]

/-- Without changes the settings are written as they are, but for a gas limit that is not set. -/
private theorem settingsOf_nil (request : Request) (limit : Nat) :
    settingsOf request [] (.whole limit)
      = Settings.toFields { request.settings with
          callbackGasLimit :=
            if request.setsGasLimit then request.settings.callbackGasLimit else limit } := by
  unfold settingsOf
  dsimp only
  rw [map_getD_nil]
  cases request.setsGasLimit with
  | true => rfl
  | false =>
    simp [Fields.contains, Fields.get?, Fields.insert, Settings.toFields, Quantity.toJson,
      Settings.topologyKey, Settings.originChainIdKey, Settings.destinationChainIdKey,
      Settings.originsKey, Settings.destinationKey, Settings.pausableKey, Settings.ownerKey,
      Settings.contractNameKey, Settings.callbackGasLimitKey, Settings.applicableKey]

private theorem resolved_of_bindingsOf {request : Request} {changes : Fields}
    {bindings : List Binding}
    (h : (bindingsOf request changes).outcome = .ok bindings) : ∀ b ∈ bindings, b.Resolved := by
  unfold bindingsOf at h
  split at h
  · rename_i replaced _
    have hnil : bindings = [] := by
      unfold replacedBindings at h
      split at h <;> simp_all
    simp [hnil]
  · exact BindingRequest.resolved_of_resolveAll h

theorem describe_eq_ok {request : Request} {changes : Fields} {gasLimit : Quantity} {spec : Spec} :
    (describe request changes gasLimit).outcome = .ok spec
      ↔ (bindingsOf request changes).outcome = .ok spec.bindings
        ∧ Settings.ofFields (settingsOf request changes gasLimit) = .ok spec.settings := by
  unfold describe
  rw [Traced.outcome_bind_eq_ok]
  cases Settings.ofFields (settingsOf request changes gasLimit) with
  | rejected faults => simp
  | ok settings =>
    simp only [Traced.outcome_pure, Except.ok.injEq, Checked.ok.injEq]
    constructor
    · intro h
      obtain ⟨bindings, hb, rfl⟩ := h
      exact ⟨hb, rfl⟩
    · intro h
      exact ⟨spec.bindings, h.1, by rw [h.2]⟩

/-- Valid settings are described as they are, beside what the bindings are resolved to. -/
theorem describe_of_valid {request : Request} {settings : Settings} {bindings : List Binding}
    (limit : Nat)
    (hs : settings = { request.settings with
      callbackGasLimit :=
        if request.setsGasLimit then request.settings.callbackGasLimit else limit })
    (hv : settings.Valid)
    (hb : (BindingRequest.resolveAll 0 request.bindings).outcome = .ok bindings) :
    (describe request [] (.whole limit)).outcome = .ok ⟨settings, bindings⟩ := by
  refine describe_eq_ok.mpr ⟨hb, ?_⟩
  rw [settingsOf_nil, ← hs]
  exact Settings.ofFields_toFields hv

theorem resolved_of_describe {request : Request} {changes : Fields} {gasLimit : Quantity}
    {spec : Spec} (h : (describe request changes gasLimit).outcome = .ok spec) :
    ∀ b ∈ spec.bindings, b.Resolved :=
  resolved_of_bindingsOf (describe_eq_ok.mp h).1

theorem resolved_of_toSpec {gasLimit : Quantity} {s : Submission} {spec : Spec}
    (h : (s.toSpec gasLimit).outcome = .ok spec) : ∀ b ∈ spec.bindings, b.Resolved := by
  cases s with
  | document j =>
    obtain ⟨request, -, hrequest⟩ := Traced.outcome_bind_eq_ok.mp h
    exact resolved_of_describe hrequest
  | revised request changes => exact resolved_of_describe h

end Submission
end ReactiveContract
