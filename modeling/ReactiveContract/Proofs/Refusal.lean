import ReactiveContract.Generation
import ReactiveContract.Proofs.Abi.Selection
import ReactiveContract.Proofs.Contract.Emission
import ReactiveContract.Proofs.Contract.Topology
/-! What a document can be refused for instead of being generated from, and when a name in it gets
in the way. -/
namespace ReactiveContract
open Abi Document Outcome

/-- A rule that is broken, or an interface that cannot be used. -/
inductive Failure.OfContent : Failure → Prop
  | violation (v : Violation) : OfContent (.violation v)
  | invalidAbi (fault : Abi.Fault) : OfContent (.invalidAbi fault)

namespace BindingRequest

/-- An event and a function that can be bound, but for the name of the event. -/
structure Garbled (r : BindingRequest) : Prop where
  subscribable : r.event.Subscribable
  callable : r.callee.Callable
  typed : ∀ p ∈ r.event.inputs, ¬ Entry.Unusable p
  name : r.event.Garbled

/-- Each check of a binding refuses it in its own way, and a garbled name comes out as a failure to
encode it. -/
theorem resolve_eq_error {index : Nat} {r : BindingRequest} {failure : Failure}
    (h : (resolve index r).outcome = .error failure) :
    failure.OfContent ∨ failure = .misuse .unencodable ∧ r.Garbled := by
  by_cases hkinds : r.event.isSubscribable = true ∧ r.callee.isCallable = true
  · obtain ⟨hs, ht⟩ := hkinds
    rw [outcome_resolve index hs ht] at h
    rcases bind_eq_error.mp h with h | ⟨event, -, h⟩
    · rcases Event.ofEntry_eq_error.mp h with ⟨fault, rfl, -⟩ | ⟨rfl, htyped, hname⟩
      · exact .inl (.invalidAbi fault)
      · exact .inr ⟨rfl, Entry.isSubscribable_iff.mp hs, Entry.isCallable_iff.mp ht, htyped, hname⟩
    rcases bind_eq_error.mp h with h | ⟨callee, -, h⟩
    · obtain ⟨fault, -, rfl⟩ := mapError_eq_error.mp h
      exact .inl (.invalidAbi fault)
    · obtain ⟨v, -, rfl⟩ := mapError_eq_error.mp h
      exact .inl (.violation v)
  · rcases resolve_refused index hkinds with ⟨fault, hrefused⟩ | ⟨v, hrefused⟩
    · exact .inl (Except.error.inj (hrefused.symm.trans h) ▸ .invalidAbi fault)
    · exact .inl (Except.error.inj (hrefused.symm.trans h) ▸ .violation v)

private theorem resolve_of_garbled {r : BindingRequest} (h : r.Garbled) (index : Nat) :
    (resolve index r).outcome = .error (.misuse .unencodable) := by
  rw [outcome_resolve index (Entry.isSubscribable_iff.mpr h.subscribable)
    (Entry.isCallable_iff.mpr h.callable)]
  exact bind_eq_error.mpr (.inl (Event.ofEntry_eq_error.mpr (.inr ⟨rfl, h.typed, h.name⟩)))

theorem resolve_eq_unencodable (index : Nat) {r : BindingRequest} :
    (resolve index r).outcome = .error (.misuse .unencodable) ↔ r.Garbled := by
  refine ⟨fun h => ?_, fun h => resolve_of_garbled h index⟩
  rcases resolve_eq_error h with h | ⟨-, h⟩
  · cases h
  · exact h

/-- The first request that cannot be resolved, from an index on, has a garbled name. -/
def Garbles (index : Nat) (requests : List BindingRequest) : Prop :=
  ∃ before r after, requests = before ++ r :: after
    ∧ (∀ p ∈ before.zipIdx index, ∃ b, (resolve p.2 p.1).outcome = .ok b) ∧ r.Garbled

private theorem garbles_cons {index : Nat} {r : BindingRequest} {requests : List BindingRequest} :
    Garbles index (r :: requests)
      ↔ r.Garbled ∨ (∃ b, (resolve index r).outcome = .ok b) ∧ Garbles (index + 1) requests := by
  constructor
  · rintro ⟨before, garbled, after, heq, hbefore, hgarbled⟩
    cases before with
    | nil =>
      obtain ⟨rfl, -⟩ := List.cons.inj heq
      exact .inl hgarbled
    | cons first before =>
      obtain ⟨rfl, rfl⟩ := List.cons.inj heq
      obtain ⟨hfirst, hbefore⟩ := List.forall_mem_cons.mp hbefore
      exact .inr ⟨hfirst, before, garbled, after, rfl, hbefore, hgarbled⟩
  · rintro (hgarbled | ⟨hfirst, before, garbled, after, rfl, hbefore, hgarbled⟩)
    · exact ⟨[], r, requests, rfl, by simp, hgarbled⟩
    · exact ⟨r :: before, garbled, after, rfl, List.forall_mem_cons.mpr ⟨hfirst, hbefore⟩, hgarbled⟩

theorem resolveAll_eq_error {requests : List BindingRequest} :
    ∀ {index : Nat} {failure : Failure},
      (resolveAll index requests).outcome = .error failure →
        failure.OfContent ∨ failure = .misuse .unencodable := by
  induction requests with
  | nil =>
    intro index failure h
    cases h
  | cons r requests ih =>
    intro index failure h
    rcases Traced.outcome_bind_eq_error.mp h with h | ⟨b, -, h⟩
    · exact (resolve_eq_error h).imp_right And.left
    · rcases Traced.outcome_bind_eq_error.mp h with h | ⟨rest, -, h⟩
      · exact ih h
      · cases h

theorem resolveAll_eq_unencodable {requests : List BindingRequest} :
    ∀ {index : Nat}, (resolveAll index requests).outcome = .error (.misuse .unencodable)
      ↔ Garbles index requests := by
  induction requests with
  | nil =>
    intro index
    refine iff_of_false nofun ?_
    rintro ⟨before, r, after, heq, -⟩
    exact List.append_ne_nil_of_right_ne_nil before (List.cons_ne_nil r after) heq.symm
  | cons r requests ih =>
    intro index
    rw [garbles_cons, ← ih, ← resolve_eq_unencodable index, resolveAll]
    simp only [Traced.outcome_bind_eq_error, Traced.outcome_pure, reduceCtorEq, and_false,
      exists_false, or_false, ← exists_and_right]

end BindingRequest

namespace Submission

/-- The topology is looked at before anything else. -/
theorem readDocument_of_unknown {α : Type} (name : String) (read : Fields → Checked α)
    {fields : Fields} {given : Json}
    (hg : Fields.get? fields Settings.topologyKey.name = some given)
    (h : ∀ t, ¬ Topology.Names given t) :
    readDocument name read (.obj fields) = .error (.unsupportedTopology (.unknown given)) := by
  have hr : Topology.resolve given = .error (.unsupportedTopology (.unknown given)) :=
    Topology.resolve_eq_error.mpr ⟨h, rfl⟩
  unfold readDocument
  simp only [hg, hr]
  rfl

/-- Without an unknown topology the fields are read as they are. -/
theorem readDocument_of_known {α : Type} {name : String} {read : Fields → Checked α}
    {fields : Fields}
    (h : ∀ given, Fields.get? fields Settings.topologyKey.name = some given →
      ∃ t, Topology.Names given t) :
    readDocument name read (.obj fields) =
      match read fields with
      | .ok a => .ok a
      | .rejected faults => .error (.violation (.ofFaults faults)) := by
  unfold readDocument
  cases hg : Fields.get? fields Settings.topologyKey.name with
  | none =>
    simp only [hg]
    rfl
  | some given =>
    obtain ⟨t, ht⟩ := h given hg
    simp only [hg, Topology.resolve_eq_ok.mpr ht]
    rfl

private theorem readDocument_of_not_obj {α : Type} (name : String) (read : Fields → Checked α)
    {j : Json} (h : ∀ fields, j ≠ .obj fields) :
    ∃ v, readDocument name read j = .error (.violation v) := by
  cases j with
  | obj fields => exact absurd rfl (h fields)
  | _ => exact ⟨_, rfl⟩

/-- A document that is not read names an unknown topology or breaks a rule. -/
theorem readDocument_eq_error {α : Type} {name : String} {read : Fields → Checked α} {j : Json}
    {failure : Failure} (h : readDocument name read j = .error failure) :
    failure.OfContent ∨ ∃ fields given, j = .obj fields
      ∧ Fields.get? fields Settings.topologyKey.name = some given
      ∧ (∀ t, ¬ Topology.Names given t)
      ∧ failure = .unsupportedTopology (.unknown given) := by
  by_cases hobj : ∃ fields, j = .obj fields
  · obtain ⟨fields, rfl⟩ := hobj
    by_cases hknown : ∀ given, Fields.get? fields Settings.topologyKey.name = some given →
        ∃ t, Topology.Names given t
    · rw [readDocument_of_known hknown] at h
      cases hread : read fields with
      | ok a => simp [hread] at h
      | rejected faults =>
        simp only [hread, Except.error.injEq] at h
        exact .inl (h ▸ .violation _)
    · push Not at hknown
      obtain ⟨given, hg, hnone⟩ := hknown
      rw [readDocument_of_unknown name read hg hnone, Except.error.injEq] at h
      exact .inr ⟨fields, given, rfl, hg, hnone, h.symm⟩
  · obtain ⟨v, hv⟩ := readDocument_of_not_obj name read fun fields hj => hobj ⟨fields, hj⟩
    rw [hv, Except.error.injEq] at h
    exact .inl (h ▸ .violation v)

/-- Once a request has been read, only its content can be at fault, or a garbled name. -/
theorem describe_eq_error {request : Request} {gasLimit : Quantity} {failure : Failure}
    (h : (describe request [] gasLimit).outcome = .error failure) :
    failure.OfContent ∨ failure = .misuse .unencodable := by
  unfold describe at h
  rcases Traced.outcome_bind_eq_error.mp h with h | ⟨bindings, -, h⟩
  · exact BindingRequest.resolveAll_eq_error h
  · split at h
    · cases h
    · simp only [Traced.outcome_fail, Except.error.injEq] at h
      exact .inl (h ▸ .violation _)

theorem describe_eq_unencodable {request : Request} {gasLimit : Quantity} :
    (describe request [] gasLimit).outcome = .error (.misuse .unencodable)
      ↔ BindingRequest.Garbles 0 request.bindings := by
  rw [← BindingRequest.resolveAll_eq_unencodable]
  refine ⟨fun h => ?_, fun h => Traced.outcome_bind_eq_error.mpr (.inl h)⟩
  unfold describe at h
  rcases Traced.outcome_bind_eq_error.mp h with h | ⟨bindings, -, h⟩
  · exact h
  · split at h <;> cases h

theorem ofContent_of_emit {spec : Spec} (hr : ∀ b ∈ spec.bindings, b.Resolved) {failure : Failure}
    (h : spec.emit.outcome = .error failure) : failure.OfContent := by
  obtain ⟨v, -, rfl, -⟩ := Plan.ofSpec_eq_error hr (Spec.emit_eq_error.mp h)
  exact .violation v

theorem generate_eq_error {o : Options} {j : Json} {failure : Failure} :
    (generate o (.document j)).outcome = .error failure
      ↔ readDocument Request.recordName Request.ofFields j = .error failure
        ∨ (∃ request, readDocument Request.recordName Request.ofFields j = .ok request
          ∧ (describe request [] o.generator.callbackGasLimit).outcome = .error failure)
        ∨ ∃ spec, ((Submission.document j).toSpec o.generator.callbackGasLimit).outcome = .ok spec
          ∧ spec.emit.outcome = .error failure := by
  simp only [generate, artifact, Traced.outcome_bind_eq_error, Traced.outcome_pure, reduceCtorEq,
    and_false, exists_false, or_false]
  simp only [toSpec, Traced.outcome_bind_eq_error, Traced.outcome_ofExcept, or_assoc]

theorem generate_eq_unencodable {o : Options} {j : Json} :
    (generate o (.document j)).outcome = .error (.misuse .unencodable)
      ↔ ∃ request, readDocument Request.recordName Request.ofFields j = .ok request
        ∧ BindingRequest.Garbles 0 request.bindings := by
  simp only [generate_eq_error, describe_eq_unencodable]
  constructor
  · rintro (h | h | ⟨spec, hspec, h⟩)
    · rcases readDocument_eq_error h with hcontent | ⟨-, given, -, -, -, hunknown⟩
      · cases hcontent
      · cases hunknown
    · exact h
    · cases ofContent_of_emit (resolved_of_toSpec hspec) h
  · exact fun h => .inr (.inl h)

/-- Whatever a document holds, the generation from it succeeds or is refused for a broken rule, an
unusable interface or an unknown topology; the last exactly if the document is an object with a
topology that is unknown. Only an event with a garbled name gets in the way of this, in the first
binding that cannot be resolved. -/
theorem generate_refusals (o : Options) (j : Json) :
    ((∃ g, (generate o (.document j)).outcome = .ok g)
        ∨ (∃ v, (generate o (.document j)).outcome = .error (.violation v))
        ∨ (∃ fault, (generate o (.document j)).outcome = .error (.unsupportedTopology fault))
        ∨ (∃ fault, (generate o (.document j)).outcome = .error (.invalidAbi fault))
        ∨ (generate o (.document j)).outcome = .error (.misuse .unencodable))
      ∧ ((generate o (.document j)).outcome = .error (.misuse .unencodable)
        ↔ ∃ request, readDocument Request.recordName Request.ofFields j = .ok request
          ∧ BindingRequest.Garbles 0 request.bindings)
      ∧ ((∃ fault, (generate o (.document j)).outcome = .error (.unsupportedTopology fault))
        ↔ ∃ fields given, j = .obj fields ∧ Fields.get? fields "topology" = some given
            ∧ ∀ t, ¬ Topology.Names given t) := by
  refine ⟨?_, generate_eq_unencodable, ?_, ?_⟩
  · cases h : (generate o (.document j)).outcome with
    | ok g => exact .inl ⟨g, rfl⟩
    | error failure =>
      have hrefused : failure.OfContent ∨ failure = .misuse .unencodable
          ∨ ∃ fault, failure = .unsupportedTopology fault := by
        rcases generate_eq_error.mp h with h | ⟨request, -, h⟩ | ⟨spec, hspec, h⟩
        · rcases readDocument_eq_error h with h | ⟨-, given, -, -, -, h⟩
          · exact .inl h
          · exact .inr (.inr ⟨_, h⟩)
        · exact (describe_eq_error h).imp_right .inl
        · exact .inl (ofContent_of_emit (resolved_of_toSpec hspec) h)
      rcases hrefused with (v | fault) | rfl | ⟨fault, rfl⟩
      · exact .inr (.inl ⟨v, rfl⟩)
      · exact .inr (.inr (.inr (.inl ⟨fault, rfl⟩)))
      · exact .inr (.inr (.inr (.inr rfl)))
      · exact .inr (.inr (.inl ⟨fault, rfl⟩))
  · rintro ⟨fault, h⟩
    rcases generate_eq_error.mp h with h | ⟨request, -, h⟩ | ⟨spec, hspec, h⟩
    · rcases readDocument_eq_error h with h | ⟨fields, given, hj, hg, hnone, -⟩
      · cases h
      · exact ⟨fields, given, hj, hg, hnone⟩
    · rcases describe_eq_error h with h | h <;> cases h
    · cases ofContent_of_emit (resolved_of_toSpec hspec) h
  · rintro ⟨fields, given, rfl, hg, hnone⟩
    exact ⟨.unknown given, generate_eq_error.mpr (.inl
      (readDocument_of_unknown Request.recordName Request.ofFields hg hnone))⟩

/-- A request to bind the event that a surrogate names to a function without inputs. -/
def surrogateDocument : Json := .obj [
  ("topology", .str "BLOCKCHAIN_WIDE"),
  ("origin_chain_id", .int 1),
  ("destination_chain_id", .int 2),
  ("destination_address", .str "0x0000000000000000000000000000000000000000"),
  ("bindings", .arr [.obj [
    ("event", surrogateJson),
    ("function", .obj [("type", .str "function"), ("name", .str "pong")])]])]

def surrogateRequest : Request :=
  { settings := transferSpec.settings
    bindings := [
      { event := surrogateEntry, callee := pongEntry, mappings := [], condition := none }]
    setsGasLimit := false }

/-- The request is well formed, and its topology is known. What comes out of it is no failure of the
library's own. -/
theorem surrogateDocument_escapes :
    readDocument Request.recordName Request.ofFields surrogateDocument = .ok surrogateRequest
      ∧ (generate {} (.document surrogateDocument)).outcome = .error (.misuse .unencodable)
      ∧ (Failure.misuse .unencodable).isOwn = false
      ∧ ¬ ((∃ g, (generate {} (.document surrogateDocument)).outcome = .ok g)
        ∨ (∃ v, (generate {} (.document surrogateDocument)).outcome = .error (.violation v))
        ∨ (∃ fault,
          (generate {} (.document surrogateDocument)).outcome = .error (.unsupportedTopology fault))
        ∨ ∃ fault,
          (generate {} (.document surrogateDocument)).outcome = .error (.invalidAbi fault)) := by
  have hread : readDocument Request.recordName Request.ofFields surrogateDocument
      = .ok surrogateRequest := rfl
  have hcallable : pongEntry.Callable := Entry.isCallable_iff.mp rfl
  have hfailed : (generate {} (.document surrogateDocument)).outcome
      = .error (.misuse .unencodable) := by
    refine generate_eq_unencodable.mpr ⟨surrogateRequest, hread, [], _, [], rfl, by simp, ?_⟩
    exact ⟨⟨rfl, rfl⟩, hcallable, nofun, garbled_surrogateEntry⟩
  refine ⟨hread, hfailed, rfl, ?_⟩
  rw [hfailed]
  simp

end Submission
end ReactiveContract
