import ReactiveContract.Proofs.Contract.Dispatch
import ReactiveContract.Proofs.Contract.Request
/-! What interfaces list is what requests can bind. -/
namespace ReactiveContract
open Abi Document Outcome

namespace Abi

variable {e : Json} {entry : Entry}

/-- An interface of one object has one entry, which has to be of a known kind. -/
theorem entries_singleton (h : Entry.ofJson e = .ok entry) :
    entries (.arr [e]) = (Entry.checkKind 0 entry).map ([·]) := by
  cases e with
  | obj fields =>
    have hread : Entry.ofFields fields = .ok entry := h
    have hparse : Entry.parse 0 (.obj fields) = Entry.checkKind 0 entry := by
      simp only [Entry.parse, hread]
    change (Entry.parse 0 (.obj fields) >>= fun checked => _) = _
    rw [hparse]
    cases Entry.checkKind 0 entry <;> rfl
  | _ => cases h

/-- The events of such an interface are its entry, or none if that is no subscribable one. -/
theorem outcome_events_singleton (h : Entry.ofJson e = .ok entry) {event : Event} :
    (events (.arr [e])).outcome = .ok [event]
      ↔ entry.isSubscribable = true ∧ Event.ofEntry entry = .ok event := by
  unfold events
  rw [entries_singleton h, Traced.outcome_bind_eq_ok]
  cases hk : Entry.checkKind 0 entry with
  | error fault =>
    refine iff_of_false (by simp [Except.map, mapError_error]) fun hlisted => ?_
    cases (Entry.checkKind_of_isSubscribable 0 hlisted.1).symm.trans hk
  | ok checked =>
    obtain ⟨hsame, -⟩ := Entry.checkKind_eq_ok.mp hk
    subst hsame
    simp only [Except.map, mapError_ok, Traced.outcome_ofExcept, Except.ok.injEq, exists_eq_left']
    unfold eventsOf Entry.isSubscribable
    by_cases hevent : checked.kind = some "event"
    · cases hanonymous : checked.anonymous with
      | true => simp [hevent, eventsOf, Traced.outcome_bind_eq_ok]
      | false => simp [hevent, eventsOf, Traced.outcome_bind_eq_ok]
    · simp [hevent, eventsOf]

theorem callees_singleton (h : Entry.ofJson e = .ok entry) {callee : Callee} :
    callees (.arr [e]) = .ok [callee]
      ↔ entry.isCallable = true ∧ Callee.ofEntry entry = .ok callee := by
  unfold callees
  rw [entries_singleton h, bind_eq_ok]
  cases hk : Entry.checkKind 0 entry with
  | error fault =>
    refine iff_of_false (by simp [Except.map]) fun hlisted => ?_
    cases (Entry.checkKind_of_isCallable 0 hlisted.1).symm.trans hk
  | ok checked =>
    obtain ⟨hsame, -⟩ := Entry.checkKind_eq_ok.mp hk
    subst hsame
    simp only [Except.map, Except.ok.injEq, exists_eq_left']
    cases hc : checked.isCallable with
    | true => cases hcallee : Callee.ofEntry checked <;> simp [hc, List.mapM_cons, hcallee]
    | false => simp [hc, pure_eq_ok]

end Abi

namespace BindingRequest

theorem outcome_resolveAll_singleton (index : Nat) (r : BindingRequest) :
    (resolveAll index [r]).outcome = (resolve index r).outcome.map ([·]) := by
  cases h : (resolve index r).outcome with
  | ok b => exact Traced.outcome_bind_of_ok h _
  | error failure => exact Traced.outcome_bind_eq_error.mpr (.inl h)

end BindingRequest

/-- A mapping that leaves an input of its type at zero. Where both have a name, it is the same. -/
structure Mapping.Idle (m : Mapping) (input : CalleeInput) : Prop where
  typed : m.type = input.type
  named : input.name ≠ "" → m.target ≠ "" → m.target = input.name
  unbound : ∃ zero, m.source = .unbound zero

/-- Whatever an event and a function are, nothing has to come from the event. -/
private theorem Binding.admissible_of_idle {event : Event} {callee : Callee} (h : callee.Declared)
    {mappings : List Mapping} (hm : List.Forall₂ Mapping.Idle mappings callee.inputs)
    {condition : Option String} (hg : ∀ text, condition = some text → Expression.Acceptable text) :
    Admissible event callee mappings condition := by
  have hfits : List.Forall₂ (Mapping.Fits event) mappings callee.inputs := by
    rw [List.forall₂_iff_get] at hm ⊢
    refine ⟨hm.1, fun i hi hi' => ?_⟩
    obtain ⟨htype, hnamed, zero, hsource⟩ := hm.2 i hi hi'
    obtain ⟨t, hw, ht⟩ := h.canonical _ (List.getElem_mem hi')
    refine ⟨⟨t, ?_, ht⟩, hnamed, ?_⟩
    · rw [htype, List.get_eq_getElem, ← ht, ValueType.ofText_text hw]
    · rw [hsource]
      trivial
  have hnone : mappings.filterMap Mapping.topic? = [] := by
    rw [List.filterMap_eq_nil_iff]
    intro m hmem
    obtain ⟨i, hi, rfl⟩ := List.getElem_of_mem hmem
    obtain ⟨-, -, zero, hsource⟩ := hm.get hi (by rw [← hm.length_eq]; exact hi)
    rw [List.get_eq_getElem] at hsource
    simp [Mapping.topic?, hsource]
  refine ⟨hfits, ?_, hg⟩
  rw [hnone]
  exact List.nodup_nil

/-- An event and a function that interfaces list are bound to what the resolver makes of them, and
they can always be bound; what an interface does not list cannot. -/
theorem BindingRequest.resolves_as_listed {e f : Json} {source target : Entry}
    (he : Entry.ofJson e = .ok source) (hf : Entry.ofJson f = .ok target) :
    (∀ event callee, (events (.arr [e])).outcome = .ok [event] →
        callees (.arr [f]) = .ok [callee] →
        (∀ mappings condition,
          (resolveAll 0 [⟨source, target, mappings, condition⟩]).outcome
            = ((Binding.resolve event callee mappings condition).mapError .violation).map ([·]))
        ∧ ∀ mappings condition, List.Forall₂ Mapping.Idle mappings callee.inputs →
            (∀ text, condition = some text → Expression.Acceptable text) →
            ∃ b, (resolveAll 0 [⟨source, target, mappings, condition⟩]).outcome = .ok [b])
      ∧ ((events (.arr [e])).outcome = .ok []
            ∨ (∃ fault, (events (.arr [e])).outcome = .error (.invalidAbi fault))
            ∨ callees (.arr [f]) = .ok [] ∨ (∃ fault, callees (.arr [f]) = .error fault) →
          ∀ mappings condition, ∃ failure,
            (resolveAll 0 [⟨source, target, mappings, condition⟩]).outcome = .error failure) := by
  constructor
  · intro event callee hevent hcallee
    obtain ⟨hs, hev⟩ := (outcome_events_singleton he).mp hevent
    obtain ⟨ht, hc⟩ := (callees_singleton hf).mp hcallee
    have hall : ∀ mappings condition,
        (resolveAll 0 [⟨source, target, mappings, condition⟩]).outcome
          = ((Binding.resolve event callee mappings condition).mapError .violation).map ([·]) := by
      intro mappings condition
      rw [outcome_resolveAll_singleton, outcome_resolve 0 hs ht, hev, hc]
      rfl
    refine ⟨hall, fun mappings condition hidle hguard => ?_⟩
    have hadmissible : Binding.Admissible event callee mappings condition :=
      Binding.admissible_of_idle (Callee.declared_of_ofEntry hc) hidle hguard
    have hresolved := Binding.resolve_eq_ok.mpr ⟨hadmissible, rfl⟩
    exact ⟨_, by rw [hall, hresolved]; rfl⟩
  · intro hunlisted mappings condition
    cases hr : (resolveAll 0 [⟨source, target, mappings, condition⟩]).outcome with
    | error failure => exact ⟨failure, rfl⟩
    | ok bindings =>
      -- A binding of them would list both.
      rw [outcome_resolveAll_singleton, map_eq_ok] at hr
      obtain ⟨b, hb, -⟩ := hr
      obtain ⟨hs, ht, event, callee, hev, hc, -⟩ := resolve_eq_ok.mp hb
      have hevents := (outcome_events_singleton he).mpr ⟨hs, hev⟩
      have hcallees := (callees_singleton hf).mpr ⟨ht, hc⟩
      rw [hevents, hcallees] at hunlisted
      simp at hunlisted

/-- The event and the function of the credit for a transfer, as interfaces publish them. -/
def transferJson : Json := .obj [
  ("type", .str "event"), ("name", .str "Transfer"),
  ("inputs", .arr [
    .obj [("name", .str "to"), ("type", .str "address"), ("indexed", .bool true)],
    .obj [("name", .str "value"), ("type", .str "uint256")]])]

def creditJson : Json := .obj [
  ("type", .str "function"), ("name", .str "credit"),
  ("inputs", .arr [
    .obj [("name", .str "who"), ("type", .str "address")],
    .obj [("name", .str "amount"), ("type", .str "uint256")]])]

private theorem Abi.Entry.ofJson_transferJson : ofJson transferJson = .ok transferEntry := rfl

private theorem Abi.Entry.ofJson_creditJson : ofJson creditJson = .ok creditEntry := rfl

private theorem Abi.events_transferJson :
    (events (.arr [transferJson])).outcome = .ok [transferCredit.event] :=
  (outcome_events_singleton Entry.ofJson_transferJson).mpr ⟨rfl, event_ofEntry_transferEntry⟩

theorem Abi.callees_creditJson : callees (.arr [creditJson]) = .ok [transferCredit.callee] :=
  (callees_singleton Entry.ofJson_creditJson).mpr ⟨rfl, callee_ofEntry_creditEntry⟩

/-- Both are listed and bound, with and without sources; the event is no function to call. -/
theorem transferJson_resolves_as_listed :
    Entry.ofJson transferJson = .ok transferEntry ∧ Entry.ofJson creditJson = .ok creditEntry
      ∧ (events (.arr [transferJson])).outcome = .ok [transferCredit.event]
      ∧ callees (.arr [creditJson]) = .ok [transferCredit.callee]
      ∧ (BindingRequest.resolveAll 0 [⟨transferEntry, creditEntry, transferCredit.mappings,
          transferCredit.condition⟩]).outcome = .ok [transferCredit]
      ∧ (∃ b, (BindingRequest.resolveAll 0 [⟨transferEntry, creditEntry,
          [⟨"", "address", .unbound none⟩, ⟨"", "uint256", .unbound none⟩], none⟩]).outcome
        = .ok [b])
      ∧ callees (.arr [transferJson]) = .ok []
      ∧ ∃ failure, (BindingRequest.resolveAll 0 [⟨transferEntry, transferEntry,
          transferCredit.mappings, none⟩]).outcome = .error failure := by
  obtain ⟨hbound, hidle⟩ :=
    (BindingRequest.resolves_as_listed Entry.ofJson_transferJson Entry.ofJson_creditJson).1
      _ _ events_transferJson callees_creditJson
  have hnone : callees (.arr [transferJson]) = .ok [] := rfl
  refine ⟨Entry.ofJson_transferJson, Entry.ofJson_creditJson, events_transferJson,
    callees_creditJson, ?_, ?_, hnone, ?_⟩
  · rw [hbound, resolve_transferCredit]
    rfl
  · refine hidle _ none (.cons ⟨rfl, ?_, none, rfl⟩ (.cons ⟨rfl, ?_, none, rfl⟩ .nil)) (by simp)
    · exact fun _ h => absurd rfl h
    · exact fun _ h => absurd rfl h
  · exact (BindingRequest.resolves_as_listed Entry.ofJson_transferJson
      Entry.ofJson_transferJson).2 (.inr (.inr (.inl hnone))) _ none

end ReactiveContract
