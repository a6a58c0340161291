import ReactiveContract.Proofs.Binding.Respelling
import ReactiveContract.Proofs.Contract.Request
import ReactiveContract.Proofs.Contract.Topology
/-! Requests that differ in spelling ask for the same settings and the same bindings. -/
namespace ReactiveContract
open Abi Document Outcome

namespace Fields
variable {fields : Fields} {key other : String}

theorem get?_cons (name : String) (value : Json) (fields : Fields) (other : String) :
    get? ((name, value) :: fields) other = if other = name then some value else get? fields other := by
  unfold get?
  rw [List.lookup_cons]
  by_cases h : other = name
  · rw [h, beq_self_eq_true, if_pos rfl]
  · rw [beq_false_of_ne h, if_neg h]

theorem get?_erase_of_ne (h : other ≠ key) : get? (erase fields key) other = get? fields other := by
  unfold erase
  induction fields with
  | nil => rfl
  | cons field fields ih =>
    obtain ⟨name, value⟩ := field
    by_cases hname : name = key
    · rw [List.filter_cons_of_neg (by simp [hname]), ih, get?_cons, if_neg (hname ▸ h)]
    · rw [List.filter_cons_of_pos (by simp [hname]), get?_cons, get?_cons, ih]

theorem get?_insert (value : Json) :
    get? (insert key value fields) other = if other = key then some value else get? fields other := by
  induction fields with
  | nil => rw [insert, get?_cons]
  | cons field fields ih =>
    obtain ⟨name, given⟩ := field
    rw [insert]
    by_cases hname : name = key
    · rw [if_pos hname, get?_cons, get?_cons, hname]
      by_cases h : other = key
      · rw [if_pos h, if_pos h]
      · rw [if_neg h, if_neg h, if_neg h]
    · rw [if_neg hname, get?_cons, get?_cons, ih]
      by_cases h : other = name
      · rw [if_pos h, if_pos h, if_neg (h ▸ hname)]
      · rw [if_neg h, if_neg h]

end Fields

namespace Settings
variable {f g fields : Fields}

/-- The list that a single origin stands for. -/
def originList (origin : Json) : Json :=
  .arr (match origin with
    | .null => []
    | .str text => if text = "" then [] else [origin]
    | _ => [origin])

/-- Only the lists of origins are affected. -/
theorem value?_expandSingleOrigin {key : Key} (hs : singleOrigin ∉ key.names)
    (hw : originsKey.wireName ∉ key.names) (fields : Fields) :
    key.value? (expandSingleOrigin fields) = key.value? fields := by
  have hget : ∀ name ∈ key.names,
      Fields.get? (expandSingleOrigin fields) name = Fields.get? fields name := by
    intro name hname
    have hsingle : name ≠ singleOrigin := fun h => hs (h ▸ hname)
    have hwire : name ≠ originsKey.wireName := fun h => hw (h ▸ hname)
    unfold expandSingleOrigin
    cases Fields.get? fields singleOrigin with
    | none => rfl
    | some origin =>
      dsimp only
      split
      · exact Fields.get?_erase_of_ne hsingle
      · rw [Fields.get?_insert, if_neg hwire, Fields.get?_erase_of_ne hsingle]
  rw [Key.value?_eq, Key.value?_eq, hget key.name (by simp [Key.names])]
  cases ha : key.alias? with
  | none => rfl
  | some a => rw [Option.bind_some, Option.bind_some, hget a (by simp [Key.names, ha])]

/-- A list comes before a single origin. -/
theorem value?_originsKey (fields : Fields) :
    originsKey.value? (expandSingleOrigin fields)
      = (originsKey.value? fields).or
          ((Fields.get? fields singleOrigin).map originList) := by
  have herase : originsKey.value? (Fields.erase fields singleOrigin) = originsKey.value? fields := by
    rw [Key.value?_eq, Key.value?_eq]
    change (Fields.get? _ "originAddresses").or (Fields.get? _ "origin_addresses") = _
    rw [Fields.get?_erase_of_ne (by decide), Fields.get?_erase_of_ne (by decide)]
    rfl
  unfold expandSingleOrigin
  cases Fields.get? fields singleOrigin with
  | none => simp
  | some origin =>
    dsimp only
    split
    · rename_i hlist
      rw [herase]
      have hsome : (originsKey.value? fields).isSome = true := by
        rw [← herase, Key.value?, Option.isSome_map]
        exact hlist
      obtain ⟨j, hj⟩ := Option.isSome_iff_exists.mp hsome
      rw [hj]
      rfl
    · rename_i hlist
      have hnone : originsKey.value? fields = none := by
        rw [← herase, Key.value?, Option.map_eq_none_iff]
        simpa using hlist
      rw [hnone, Key.value?_eq]
      change (Fields.get? _ originsKey.wireName).or _ = _
      rw [Fields.get?_insert, if_pos rfl]
      rfl

/-- The origins that a document names: those of its list, or else a single one, unless that is
null or empty. -/
inductive GivesOrigins (fields : Fields) : List Json → Prop
  | listed {items : List Json} (h : originsKey.Gives fields (.arr items)) :
    GivesOrigins fields items
  | single {origin : Json} (hlist : ∀ name ∈ originsKey.names, Fields.get? fields name = none)
    (h : Fields.get? fields singleOrigin = some origin) (hn : origin ≠ .null)
    (he : origin ≠ .str "") : GivesOrigins fields [origin]
  | blank {origin : Json} (hlist : ∀ name ∈ originsKey.names, Fields.get? fields name = none)
    (h : Fields.get? fields singleOrigin = some origin) (hb : origin = .null ∨ origin = .str "") :
    GivesOrigins fields []

/-- Two documents name the same origins, in a list or as a single one, or they agree in what they
have under either key. -/
inductive OriginsRespelled (f g : Fields) : Prop
  | given {js ks : List Json} (hf : GivesOrigins f js) (hg : GivesOrigins g ks)
    (h : List.Forall₂ (Json.TextRel Address.Respelled) js ks)
  | alike (hlist : originsKey.Rel (Json.ListRel (Json.TextRel Address.Respelled)) f g)
    (hsingle : Option.Rel (Json.TextRel Address.Respelled) (Fields.get? f singleOrigin)
      (Fields.get? g singleOrigin))

theorem value?_of_givesOrigins {items : List Json} (h : GivesOrigins fields items) :
    originsKey.value? (expandSingleOrigin fields) = some (.arr items) := by
  have hnone (hlist : ∀ name ∈ originsKey.names, Fields.get? fields name = none) :
      originsKey.value? fields = none := by
    rw [Key.value?_eq, hlist originsKey.name (by decide)]
    change (Fields.get? fields "originAddresses").or none = none
    rw [hlist "originAddresses" (by decide)]
    rfl
  rw [value?_originsKey]
  cases h with
  | listed h =>
    rw [Key.value?_of_gives h]
    rfl
  | @single origin hlist h hn he =>
    have hitem : originList origin = .arr [origin] := by
      cases origin with
      | null => exact absurd rfl hn
      | str text =>
        have hne : text ≠ "" := fun ht => he (by rw [ht])
        simp [originList, hne]
      | _ => rfl
    rw [hnone hlist, h, Option.map_some, hitem]
    rfl
  | blank hlist h hb =>
    rw [hnone hlist, h]
    rcases hb with rfl | rfl <;> rfl

private theorem originList_respelled {j k : Json} (h : Json.TextRel Address.Respelled j k) :
    Json.ListRel (Json.TextRel Address.Respelled) (originList j) (originList k) := by
  cases h with
  | @form s t h =>
    rcases h with rfl | ⟨hs, hst⟩
    · by_cases he : s = ""
      · simp only [originList, he, if_true]
        exact .form .nil
      · simp only [originList, he, if_false]
        exact .form (.cons (.form (.inl rfl)) .nil)
    · have ht : Address.IsSpelled t := by rwa [Address.IsSpelled, ← hst]
      simp only [originList, hs.ne_empty, ht.ne_empty, if_false]
      exact .form (.cons (.form (.inr ⟨hs, hst⟩)) .nil)
  | other hother =>
    cases j with
    | null => exact .form .nil
    | str text => exact absurd rfl (hother text)
    | _ => exact .form (.cons (.other hother) .nil)

theorem OriginsRespelled.value? (h : OriginsRespelled f g) :
    Option.Rel (Json.ListRel (Json.TextRel Address.Respelled))
      (originsKey.value? (expandSingleOrigin f)) (originsKey.value? (expandSingleOrigin g)) := by
  cases h with
  | given hf hg h =>
    rw [value?_of_givesOrigins hf, value?_of_givesOrigins hg]
    exact .some (.form h)
  | alike hlist hsingle =>
    rw [value?_originsKey, value?_originsKey]
    revert hsingle
    have hvalue := hlist.value?
    revert hvalue
    generalize originsKey.value? f = x, originsKey.value? g = y
    generalize Fields.get? f singleOrigin = a, Fields.get? g singleOrigin = b
    intro hvalue hsingle
    cases hvalue with
    | some hjk => exact .some hjk
    | none =>
      cases hsingle with
      | none => exact .none
      | some hjk => exact .some (originList_respelled hjk)

theorem addressOfText_eq (role : String) {s t : String} (h : Address.Respelled s t) :
    (addressOfText role s).toOption = (addressOfText role t).toOption := by
  unfold addressOfText
  rw [h.read?_eq]
  cases Address.read? t <;> rfl

private theorem addressesOfTexts_eq (role : String) {ss ts : List String}
    (h : List.Forall₂ Address.Respelled ss ts) :
    (addressesOfTexts role ss).toOption = (addressesOfTexts role ts).toOption := by
  induction h with
  | nil => rfl
  | cons hst _ ih =>
    simp only [addressesOfTexts, toOption_bind, addressOfText_eq role hst, ih]

theorem respects_address (role : String) :
    Respects (Json.TextRel Address.Respelled) (address role) Eq := by
  intro j k hjk
  exact (Respects.text hjk).refine fun s t hst => addressOfText_eq role hst

theorem respects_addresses (role : String) :
    Respects (Json.ListRel (Json.TextRel Address.Respelled)) (addresses role) Eq := by
  intro j k hjk
  exact (Respects.text.list hjk).refine fun ss ts hst => addressesOfTexts_eq role hst

end Settings

theorem Topology.respects_ofJson :
    Respects (Json.TextRel fun s t => letters s = letters t) ofJson Eq := by
  intro j k hjk
  cases hjk with
  | @form s t hst =>
    simp only [ofJson, ofText?_congr hst]
    cases ofText? t with
    | none => exact .rejected _ _
    | some u => exact .ok rfl
  | other hother =>
    cases j with
    | str s => exact absurd rfl (hother s)
    | _ => exact .rejected _ _

/-- Documents of settings that differ in the names of fields, in the spelling of the topology and of
addresses, and in how the origins are given. -/
structure Settings.Respelled (f g : Fields) : Prop where
  topology : topologyKey.Rel (Json.TextRel fun s t => Topology.letters s = Topology.letters t) f g
  originChainId : originChainIdKey.Rel Eq f g
  destinationChainId : destinationChainIdKey.Rel Eq f g
  origins : OriginsRespelled f g
  destination : destinationKey.Rel (Json.TextRel Address.Respelled) f g
  pausable : pausableKey.Rel Eq f g
  owner : ownerKey.Rel (Json.TextRel Address.Respelled) f g
  contractName : contractNameKey.Rel Eq f g
  callbackGasLimit : callbackGasLimitKey.Rel Eq f g
  applicable : applicableKey.Rel (Json.ListRel (Json.TextRel Address.Respelled)) f g

/-- Documents of bindings that differ in the names of fields, in the spelling of types and of
literals, and in the blanks around the guard. -/
structure BindingRequest.Respelled (f g : Fields) : Prop where
  event : Key.Rel { name := "event" } (Json.RecordRel Entry.Respelled) f g
  callee : Key.Rel { name := "function" } (Json.RecordRel Entry.Respelled) f g
  mappings : Key.Rel { name := "input_mappings", alias? := some "inputMappings" }
    (Json.ListRel (Json.RecordRel Mapping.Respelled)) f g
  condition : Key.Rel { name := "condition" } (Json.TextRel Expression.Respelled) f g

/-- Documents of requests that differ in spelling, at whatever depth. -/
structure Request.Respelled (f g : Fields) : Prop where
  settings : Settings.Respelled f g
  bindings : Spec.bindingsKey.Rel (Json.ListRel (Json.RecordRel BindingRequest.Respelled)) f g

/-- Bindings that differ in the spelling of types, literals and guards. -/
structure BindingRequest.Rel (r q : BindingRequest) : Prop where
  event : Entry.Rel r.event q.event
  callee : Entry.Rel r.callee q.callee
  mappings : List.Forall₂ Mapping.Rel r.mappings q.mappings
  condition : Option.Rel Expression.Respelled r.condition q.condition

/-- Requests that differ in their bindings alone, and in nothing but spelling there. -/
def Request.Rel (r q : Request) : Prop :=
  ∃ bindings, q = { r with bindings } ∧ List.Forall₂ BindingRequest.Rel r.bindings bindings

/-- A field apart from the origins is found as if nothing had been expanded. -/
theorem Settings.rel_expandSingleOrigin {key : Key} {S : Json → Json → Prop} {f g : Fields}
    (h : key.Rel S f g) (hs : singleOrigin ∉ key.names) (hw : originsKey.wireName ∉ key.names) :
    Option.Rel S (key.value? (expandSingleOrigin f)) (key.value? (expandSingleOrigin g)) := by
  rw [value?_expandSingleOrigin hs hw, value?_expandSingleOrigin hs hw]
  exact h.value?

/-- Respelled settings are the same. -/
theorem Settings.Respelled.rel {f g : Fields} (h : Settings.Respelled f g) :
    Checked.Rel Eq (ofFields (expandSingleOrigin f)) (ofFields (expandSingleOrigin g)) := by
  have hnullable : Respects (Json.TextRel Address.Respelled) (nullable (address ownerRole))
      (Option.Rel Eq) :=
    (respects_address ownerRole).nullable fun _ _ => null_iff_of_textRel
  have htopology := Key.rel_required Topology.respects_ofJson
    (rel_expandSingleOrigin h.topology (by decide) (by decide))
  have hsource := rel_expandSingleOrigin h.originChainId (by decide) (by decide)
  have htarget := rel_expandSingleOrigin h.destinationChainId (by decide) (by decide)
  have hdestination := Key.rel_required (respects_address destinationRole)
    (rel_expandSingleOrigin h.destination (by decide) (by decide))
  have hpausable := rel_expandSingleOrigin h.pausable (by decide) (by decide)
  have howner := rel_expandSingleOrigin h.owner (by decide) (by decide)
  have hname := rel_expandSingleOrigin h.contractName (by decide) (by decide)
  have hlimit := rel_expandSingleOrigin h.callbackGasLimit (by decide) (by decide)
  have happlicable := rel_expandSingleOrigin h.applicable (by decide) (by decide)
  -- Field by field, in the order in which the fields are read.
  refine .seq (.seq (.seq (.seq (.seq (.seq (.seq (.seq (.seq (.map ?_ htopology)
    (Key.rel_required .eq hsource)) (Key.rel_required .eq htarget))
    (Key.rel_optional (respects_addresses originRole) rfl h.origins.value?)) hdestination)
    (Key.rel_optional .eq rfl hpausable)) (Key.rel_optional hnullable .none howner))
    (Key.rel_optional .eq rfl hname)) (Key.rel_optional .eq rfl hlimit))
    (Key.rel_optional (respects_addresses applicableRole) rfl happlicable)
  rintro topology _ rfl origin _ rfl chain _ rfl origins _ rfl destination _ rfl pausable _ rfl
    owner other hsame name _ rfl limit _ rfl applicable _ rfl
  rw [eq_of_optionRel hsame]

namespace BindingRequest

theorem Respelled.rel {f g : Fields} (h : Respelled f g) :
    Checked.Rel BindingRequest.Rel (ofFields f) (ofFields g) := by
  have hentry : Respects (Json.RecordRel Entry.Respelled) Entry.ofJson Entry.Rel :=
    Respects.record fun _ _ h => h.rel
  have hmappings : Respects (Json.ListRel (Json.RecordRel Mapping.Respelled))
      (list Mapping.ofJson) (List.Forall₂ Mapping.Rel) :=
    (Respects.record (S := Mapping.Respelled) fun _ _ h => h.rel).list
  have hcondition : Respects (Json.TextRel Expression.Respelled) (nullable text)
      (Option.Rel Expression.Respelled) :=
    Respects.text.nullable fun _ _ => null_iff_of_textRel
  refine .seq (.seq (.seq (.map ?_ (Key.rel_required hentry h.event.value?))
    (Key.rel_required hentry h.callee.value?)) (Key.rel_optional hmappings .nil h.mappings.value?))
    (Key.rel_optional hcondition .none h.condition.value?)
  exact fun _ _ hevent _ _ hcallee _ _ hmappings _ _ hcondition =>
    ⟨hevent, hcallee, hmappings, hcondition⟩

variable {r q : BindingRequest}

theorem Rel.symm (h : Rel r q) : Rel q r where
  event := h.event.symm
  callee := h.callee.symm
  mappings := (h.mappings.imp fun _ _ => Mapping.Rel.symm).flip
  condition := optionRel_symm (fun _ _ hst => Eq.symm hst) h.condition

/-- Bindings that differ in spelling alone are resolved to the same. -/
theorem resolve_rel (h : Rel r q) {index : Nat} {b : Binding}
    (hb : (resolve index r).outcome = .ok b) : (resolve index q).outcome = .ok b := by
  obtain ⟨hs, ht, event, callee, he, hc, hr⟩ := resolve_eq_ok.mp hb
  refine resolve_eq_ok.mpr ⟨?_, ?_, event, callee, Event.ofEntry_rel h.event he,
    Callee.ofEntry_rel h.callee hc, Binding.resolve_rel h.mappings h.condition hr⟩
  · obtain ⟨inputs, heq, -⟩ := h.event
    rw [heq]
    exact hs
  · obtain ⟨inputs, heq, -⟩ := h.callee
    rw [heq]
    exact ht

private theorem resolveAll_rel {requests others : List BindingRequest}
    (h : List.Forall₂ Rel requests others) {index : Nat} {bindings : List Binding}
    (hb : (resolveAll index requests).outcome = .ok bindings) :
    (resolveAll index others).outcome = .ok bindings := by
  induction h generalizing index bindings with
  | nil => exact hb
  | cons hrq _ ih =>
    simp only [resolveAll, Traced.outcome_bind_eq_ok, Traced.outcome_pure] at hb ⊢
    obtain ⟨b, hfirst, rest, hrest, hbindings⟩ := hb
    exact ⟨b, resolve_rel hrq hfirst, rest, ih hrest, hbindings⟩

end BindingRequest

namespace Request

theorem Respelled.rel {f g : Fields} (h : Respelled f g) :
    Checked.Rel Request.Rel (ofFields f) (ofFields g) := by
  have hbindings : Respects (Json.ListRel (Json.RecordRel BindingRequest.Respelled))
      (list BindingRequest.ofJson) (List.Forall₂ BindingRequest.Rel) :=
    (Respects.record (S := BindingRequest.Respelled) fun _ _ h => h.rel).list
  have hlimit : (Settings.callbackGasLimitKey.find? (Settings.expandSingleOrigin f)).isSome
      = (Settings.callbackGasLimitKey.find? (Settings.expandSingleOrigin g)).isSome := by
    have hvalue := eq_of_optionRel
      (Settings.rel_expandSingleOrigin h.settings.callbackGasLimit (by decide) (by decide))
    simpa [Key.value?] using congrArg Option.isSome hvalue
  refine .seq (.map ?_ h.settings.rel) (Key.rel_required hbindings
    (Settings.rel_expandSingleOrigin h.bindings (by decide) (by decide)))
  rintro settings _ rfl bindings others hall
  rw [hlimit]
  exact ⟨others, rfl, hall⟩

theorem Rel.symm {r q : Request} (h : Rel r q) : Rel q r := by
  obtain ⟨bindings, rfl, hall⟩ := h
  exact ⟨r.bindings, rfl, (hall.imp fun _ _ => BindingRequest.Rel.symm).flip⟩

/-- Requests that differ in spelling alone are described alike. -/
theorem describe_rel {r q : Request} (h : Rel r q) {gasLimit : Quantity} {spec : Spec}
    (hr : (Submission.describe r [] gasLimit).outcome = .ok spec) :
    (Submission.describe q [] gasLimit).outcome = .ok spec := by
  obtain ⟨bindings, rfl, hall⟩ := h
  rw [Submission.describe_eq_ok] at hr ⊢
  exact ⟨BindingRequest.resolveAll_rel hall hr.1, hr.2⟩

end Request
end ReactiveContract
