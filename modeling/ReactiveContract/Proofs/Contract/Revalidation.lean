import ReactiveContract.Proofs.Contract.Respelling
import ReactiveContract.Proofs.Refusal
/-! Settings that have been read once are read again as they are, so a request that is read and whose
bindings are resolved leads to a description. -/
namespace ReactiveContract
open Document Outcome

namespace Document

theorem above_eq_ok {bound n m : Int} : above bound n = .ok m ↔ bound < n ∧ n = m := by
  unfold above
  split <;> simp_all

theorem below_eq_ok {bound n m : Int} : below bound n = .ok m ↔ n < bound ∧ n = m := by
  unfold below
  split <;> simp_all

end Document

namespace Settings
variable {fields : Fields} {j : Json} {n : Nat} {name : String} {s : Settings}

theorem pos_of_positive (h : positive j = .ok n) : 0 < n := by
  obtain ⟨m, hm, rfl⟩ := Checked.map_eq_ok.mp h
  obtain ⟨k, -, hk⟩ := Checked.refine_eq_ok.mp hm
  obtain ⟨hpos, rfl⟩ := above_eq_ok.mp hk
  omega

private theorem bounds_of_gasLimit (h : gasLimit j = .ok n) : 0 < n ∧ n < gasLimitBound := by
  obtain ⟨m, hm, rfl⟩ := Checked.map_eq_ok.mp h
  obtain ⟨k, hk, hbelow⟩ := Checked.refine_eq_ok.mp hm
  obtain ⟨hlt, rfl⟩ := below_eq_ok.mp hbelow
  obtain ⟨i, -, habove⟩ := Checked.refine_eq_ok.mp hk
  obtain ⟨hpos, rfl⟩ := above_eq_ok.mp habove
  omega

private theorem isIdentifier_of_identifier (h : identifier j = .ok name) :
    isIdentifier name = true := by
  obtain ⟨given, -, hgiven⟩ := Checked.refine_eq_ok.mp h
  unfold identifierOfText at hgiven
  split at hgiven
  · rename_i hname
    rwa [← Except.ok.inj hgiven]
  · cases hgiven

/-- Settings are read field by field. -/
theorem ofFields_eq_ok :
    ofFields fields = .ok s
      ↔ topologyKey.required Topology.ofJson fields = .ok s.topology
        ∧ originChainIdKey.required positive fields = .ok s.originChainId
        ∧ destinationChainIdKey.required positive fields = .ok s.destinationChainId
        ∧ originsKey.optional [] (addresses originRole) fields = .ok s.origins
        ∧ destinationKey.required (address destinationRole) fields = .ok s.destination
        ∧ pausableKey.optional false truth fields = .ok s.pausable
        ∧ ownerKey.optional none (nullable (address ownerRole)) fields = .ok s.owner
        ∧ contractNameKey.optional "ReactiveSmartContract" identifier fields = .ok s.contractName
        ∧ callbackGasLimitKey.optional 1000000 gasLimit fields = .ok s.callbackGasLimit
        ∧ applicableKey.optional [] (addresses applicableRole) fields = .ok s.applicable := by
  unfold ofFields
  simp only [Checked.seq_eq_ok, Checked.map_eq_ok]
  constructor
  · rintro ⟨_, _, ⟨_, _, ⟨_, _, ⟨_, _, ⟨_, _, ⟨_, _, ⟨_, _, ⟨_, _, ⟨_, _, ⟨_, ht, rfl⟩, ho, rfl⟩, hd,
      rfl⟩, hos, rfl⟩, hdest, rfl⟩, hp, rfl⟩, how, rfl⟩, hn, rfl⟩, hg, rfl⟩, ha, rfl⟩
    exact ⟨ht, ho, hd, hos, hdest, hp, how, hn, hg, ha⟩
  · rintro ⟨ht, ho, hd, hos, hdest, hp, how, hn, hg, ha⟩
    exact ⟨_, _, ⟨_, _, ⟨_, _, ⟨_, _, ⟨_, _, ⟨_, _, ⟨_, _, ⟨_, _, ⟨_, _, ⟨_, ht, rfl⟩, ho, rfl⟩, hd,
      rfl⟩, hos, rfl⟩, hdest, rfl⟩, hp, rfl⟩, how, rfl⟩, hn, rfl⟩, hg, rfl⟩, ha, rfl⟩

/-- What is read passes every check that it has to pass when it is read again; the defaults do,
too. -/
theorem valid_of_ofFields (h : ofFields fields = .ok s) : s.Valid := by
  obtain ⟨-, horigin, hdestination, -, -, -, -, hname, hlimit, -⟩ := ofFields_eq_ok.mp h
  obtain ⟨_, -, horigin⟩ := Key.required_eq_ok.mp horigin
  obtain ⟨_, -, hdestination⟩ := Key.required_eq_ok.mp hdestination
  have hbounds : 0 < s.callbackGasLimit ∧ s.callbackGasLimit < gasLimitBound := by
    rcases Key.optional_eq_ok.mp hlimit with ⟨-, hdefault⟩ | ⟨_, -, hread⟩
    · rw [← hdefault]
      decide
    · exact bounds_of_gasLimit hread
  have hidentifier : isIdentifier s.contractName = true := by
    rcases Key.optional_eq_ok.mp hname with ⟨-, hdefault⟩ | ⟨_, -, hread⟩
    · rw [← hdefault]
      decide
    · exact isIdentifier_of_identifier hread
  exact ⟨pos_of_positive horigin, pos_of_positive hdestination, hbounds.1, hbounds.2, hidentifier⟩

/-- Only another gas limit has to be looked at. -/
theorem Valid.withGasLimit (h : s.Valid) (hpos : 0 < n) (hlt : n < gasLimitBound) :
    Valid { s with callbackGasLimit := n } :=
  ⟨h.originChainId_pos, h.destinationChainId_pos, hpos, hlt, h.contractName_identifier⟩

end Settings

namespace Request
variable {fields : Fields} {request : Request}

/-- Whether an object gives a gas limit, under either name. -/
def GivesGasLimit (fields : Fields) : Prop :=
  Fields.contains fields "callbackGasLimit" = true ∨ Fields.contains fields "callback_gas_limit" = true

instance : DecidablePred GivesGasLimit := fun _ => inferInstanceAs (Decidable (_ ∨ _))

theorem value?_callbackGasLimitKey_ne_none :
    Settings.callbackGasLimitKey.value? fields ≠ none ↔ GivesGasLimit fields := by
  unfold GivesGasLimit Fields.contains
  rw [Key.value?_eq]
  change (Fields.get? fields "callbackGasLimit").or (Fields.get? fields "callback_gas_limit") ≠ none
    ↔ _
  cases Fields.get? fields "callbackGasLimit" <;> cases Fields.get? fields "callback_gas_limit" <;>
    simp

theorem ofFields_eq_ok :
    ofFields fields = .ok request
      ↔ Settings.ofFields (Settings.expandSingleOrigin fields) = .ok request.settings
        ∧ Spec.bindingsKey.required (list BindingRequest.ofJson) (Settings.expandSingleOrigin fields)
            = .ok request.bindings
        ∧ (request.setsGasLimit = true ↔ GivesGasLimit fields) := by
  have hsets : (Settings.callbackGasLimitKey.find? (Settings.expandSingleOrigin fields)).isSome = true
      ↔ GivesGasLimit fields := by
    rw [← value?_callbackGasLimitKey_ne_none, ← Settings.value?_expandSingleOrigin (by decide)
      (by decide) fields, Key.value?, ne_eq, Option.map_eq_none_iff, Option.isSome_iff_ne_none]
  unfold ofFields
  simp only [Checked.seq_eq_ok, Checked.map_eq_ok]
  constructor
  · rintro ⟨_, _, ⟨_, hs, rfl⟩, hb, rfl⟩
    exact ⟨hs, hb, hsets⟩
  · rintro ⟨hs, hb, hgives⟩
    refine ⟨_, _, ⟨_, hs, rfl⟩, hb, ?_⟩
    rw [Bool.eq_iff_iff.mpr (hsets.trans hgives.symm)]

/-- A request that is read names a known topology. -/
private theorem exists_names (h : ofFields fields = .ok request) {given : Json}
    (hg : Fields.get? fields Settings.topologyKey.name = some given) :
    ∃ t, Topology.Names given t := by
  obtain ⟨hs, -⟩ := ofFields_eq_ok.mp h
  obtain ⟨ht, -⟩ := Settings.ofFields_eq_ok.mp hs
  obtain ⟨j, hj, hread⟩ := Key.required_eq_ok.mp ht
  rw [Settings.value?_expandSingleOrigin (by decide) (by decide), Key.value?_eq] at hj
  have hgiven : given = j := Option.some.inj (hg.symm.trans hj)
  subst hgiven
  refine ⟨request.settings.topology, Topology.resolve_eq_ok.mp ?_⟩
  unfold Topology.ofJson at hread
  unfold Topology.resolve
  cases given with
  | str name =>
    dsimp only at hread ⊢
    cases hname : Topology.ofText? name with
    | none => simp [hname, Checked.fail] at hread
    | some t =>
      simp only [hname, Checked.ok.injEq] at hread ⊢
      rw [hread]
  | _ => simp [Checked.fail] at hread

end Request

namespace BindingRequest
variable {requests : List BindingRequest}

/-- If each binding is resolved, all are, in their order. -/
private theorem exists_resolveAll {index : Nat}
    (h : ∀ p ∈ requests.zipIdx index, ∃ b, (resolve p.2 p.1).outcome = .ok b) :
    ∃ bindings, (resolveAll index requests).outcome = .ok bindings := by
  simp only [resolveAll_eq_ok]
  generalize requests.zipIdx index = placed at h
  induction placed with
  | nil => exact ⟨[], .nil⟩
  | cons p placed ih =>
    obtain ⟨b, hb⟩ := h p (by simp)
    obtain ⟨bindings, hbindings⟩ := ih fun q hq => h q (by simp [hq])
    exact ⟨b :: bindings, .cons hb hbindings⟩

end BindingRequest

namespace Submission
variable {fields : Fields} {request : Request} {bindings : List Binding} {limit : Nat}

/-- The settings of a request are checked a second time without any effect, whatever gas limit
stands in for one that is not given. -/
private theorem describe_of_ofFields (h : Request.ofFields fields = .ok request) (hpos : 0 < limit)
    (hlt : limit < Settings.gasLimitBound)
    (hb : (BindingRequest.resolveAll 0 request.bindings).outcome = .ok bindings) :
    (describe request [] (.whole limit)).outcome = .ok {
      settings := { request.settings with
        callbackGasLimit :=
          if Request.GivesGasLimit fields then request.settings.callbackGasLimit else limit }
      bindings } := by
  obtain ⟨hs, -, hsets⟩ := Request.ofFields_eq_ok.mp h
  have hvalid := Settings.valid_of_ofFields hs
  refine describe_of_valid limit ?_ ?_ hb
  · simp only [hsets]
  · split
    · exact hvalid.withGasLimit hvalid.callbackGasLimit_pos hvalid.callbackGasLimit_lt
    · exact hvalid.withGasLimit hpos hlt

private theorem readDocument_of_ofFields (h : Request.ofFields fields = .ok request) :
    readDocument Request.recordName Request.ofFields (.obj fields) = .ok request := by
  rw [readDocument_of_known fun given hg => Request.exists_names h hg, h]

/-- A request that is read and whose bindings are resolved leads to a description, handed in as a
document or as it was read: its settings are those of the request and its bindings those that it is
resolved to, in their order. A gas limit that it gives is kept, and is the one that was read; any
other gas limit takes the place of one that it does not give. -/
theorem toSpec_of_ofJson {limit : Nat} (h : Request.ofJson (.obj fields) = .ok request)
    (hb : ∀ p ∈ request.bindings.zipIdx, ∃ b, (BindingRequest.resolve p.2 p.1).outcome = .ok b)
    (hpos : 0 < limit) (hlt : limit < 2 ^ 64) :
    ∃ spec : Spec,
      ((document (.obj fields)).toSpec (.whole limit)).outcome = .ok spec
      ∧ ((revised request []).toSpec (.whole limit)).outcome = .ok spec
      ∧ List.Forall₂ (fun p b => (BindingRequest.resolve p.2 p.1).outcome = .ok b)
          request.bindings.zipIdx spec.bindings
      ∧ spec.settings = { request.settings with
          callbackGasLimit :=
            if Request.GivesGasLimit fields then request.settings.callbackGasLimit else limit }
      ∧ ∀ j, Settings.callbackGasLimitKey.value? fields = some j →
          Settings.gasLimit j = .ok spec.settings.callbackGasLimit := by
  obtain ⟨bindings, hbindings⟩ := BindingRequest.exists_resolveAll hb
  have hdescribe := describe_of_ofFields h hpos hlt hbindings
  refine ⟨_, ?_, hdescribe, BindingRequest.resolveAll_eq_ok.mp hbindings, rfl, fun j hj => ?_⟩
  · exact Traced.outcome_bind_eq_ok.mpr ⟨request, readDocument_of_ofFields h, hdescribe⟩
  · have hgives : Request.GivesGasLimit fields :=
      Request.value?_callbackGasLimitKey_ne_none.mp (by rw [hj]; simp)
    obtain ⟨hs, -⟩ := Request.ofFields_eq_ok.mp h
    obtain ⟨-, -, -, -, -, -, -, -, hlimit, -⟩ := Settings.ofFields_eq_ok.mp hs
    rcases Key.optional_eq_ok.mp hlimit with ⟨hnone, -⟩ | ⟨given, hgiven, hread⟩
    · rw [Settings.value?_expandSingleOrigin (by decide) (by decide), hj] at hnone
      cases hnone
    · rw [Settings.value?_expandSingleOrigin (by decide) (by decide), hj] at hgiven
      rw [Option.some.inj hgiven, hread]
      simp only [if_pos hgives]

end Submission

/-- The request of a transfer with a gas limit of its own, as a text. -/
def limitedDocument : Json :=
  match transferDocument with
  | .obj fields => .obj (("callback_gas_limit", .str "7") :: fields)
  | other => other

def limitedRequest : Request :=
  { transferRequest with
    settings := { transferSpec.settings with callbackGasLimit := 7 }
    setsGasLimit := true }

private theorem exists_resolve_transferRequest :
    ∀ p ∈ transferRequest.bindings.zipIdx,
      ∃ b, (BindingRequest.resolve p.2 p.1).outcome = .ok b := by
  intro p hp
  rw [List.mem_singleton.mp hp]
  cases BindingRequest.resolveAll_eq_ok.mp resolveAll_transferRequest with
  | cons hb _ => exact ⟨_, hb⟩

/-- The limit of five counts for the one request and not for the other. -/
theorem transferDocument_revalidated :
    Request.ofJson transferDocument = .ok transferRequest
      ∧ Request.ofJson limitedDocument = .ok limitedRequest
      ∧ (∃ spec, ((Submission.document transferDocument).toSpec (.whole (5 : Nat))).outcome = .ok spec
          ∧ spec.settings = { transferSpec.settings with callbackGasLimit := 5 })
      ∧ ∃ spec, ((Submission.document limitedDocument).toSpec (.whole (5 : Nat))).outcome = .ok spec
          ∧ spec.settings = { transferSpec.settings with callbackGasLimit := 7 } := by
  have htransfer : Request.ofJson transferDocument = .ok transferRequest := rfl
  have hlimited : Request.ofJson limitedDocument = .ok limitedRequest := rfl
  obtain ⟨spec, hspec, -, -, hsettings, -⟩ :=
    Submission.toSpec_of_ofJson htransfer exists_resolve_transferRequest (by decide : 0 < 5)
      (by decide)
  obtain ⟨other, hother, -, -, hothers, -⟩ :=
    Submission.toSpec_of_ofJson hlimited exists_resolve_transferRequest (by decide : 0 < 5)
      (by decide)
  exact ⟨htransfer, hlimited, ⟨spec, hspec, hsettings⟩, other, hother, hothers⟩

end ReactiveContract
