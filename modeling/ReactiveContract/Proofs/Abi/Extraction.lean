import ReactiveContract.Abi.Extraction
import ReactiveContract.Proofs.Abi.Spelling
import ReactiveContract.Proofs.Outcome
import ReactiveContract.Proofs.Text.CodePoint
import ReactiveContract.Proofs.Text.Joined
/-! What holds of every event and of every function that an interface declares, and which entries
declare one. -/
namespace ReactiveContract.Abi
open Outcome Text

/-- The canonical spelling of a type. -/
def Canonical (type : String) : Prop := ∃ t : ValueType, t.WellFormed ∧ t.text = type

/-- An event whose signature and topic are those of its name and its canonical types. -/
structure Event.Declared (e : Event) : Prop where
  signature_eq : e.signature = signatureOf e.name (e.inputs.map (·.type))
  topic0_eq : (utf8? e.signature).map topicOf = some e.topic0
  canonical : ∀ p ∈ e.inputs, Canonical p.type

/-- A function whose signature is that of its name and its canonical types. -/
structure Callee.Declared (c : Callee) : Prop where
  signature_eq : c.signature = signatureOf c.name (c.inputs.map (·.type))
  canonical : ∀ p ∈ c.inputs, Canonical p.type

/-- A parameter that has no type of a value. -/
def Entry.Unusable (p : Param) : Prop := ∃ fault, ValueType.ofText? p.type = .error fault

/-- There is a surrogate in the name, so that it has no bytes. -/
def Entry.Garbled (entry : Entry) : Prop := utf8? entry.name = none

/-- The canonical types of the parameters, as far as they have one. -/
def Entry.types (entry : Entry) : List (Option String) :=
  entry.inputs.map fun p => (ValueType.ofText? p.type).toOption.map ValueType.text

/-- A canonical spelling has letters and digits only. -/
theorem Canonical.isAlphanum {type : String} (h : Canonical type) :
    ∀ c ∈ type.toList, c.isAlphanum = true := by
  obtain ⟨t, -, rfl⟩ := h
  exact t.suffix.isAlphanum_append t.isAlpha_base

theorem Canonical.notMem {type : String} (h : Canonical type) {c : Char}
    (hc : c.isAlphanum = false) : c ∉ type.toList := by
  intro hmem
  rw [h.isAlphanum c hmem] at hc
  cases hc

private theorem ValueType.canonical_of_ofText? {text : Option String} {t : ValueType}
    (h : ofText? text = .ok t) : Canonical t.text := by
  cases text with
  | none => cases h
  | some text => exact ⟨t, wellFormed_of_ofText h, rfl⟩

section Types
variable {fault : Nat → TypeFault → Fault}

theorem Entry.exists_canonicalTypes (fault : Nat → TypeFault → Fault) {params : List Param} :
    ∀ (position : Nat), (∃ typed, canonicalTypes fault position params = .ok typed)
      ↔ ∀ p ∈ params, ¬ Unusable p := by
  induction params with
  | nil => simp [canonicalTypes]
  | cons p params ih =>
    intro position
    rw [List.forall_mem_cons, ← ih (position + 1), Unusable, ← exists_ok_iff, canonicalTypes]
    cases ValueType.ofText? p.type with
    | error e => simp
    | ok t => simp [map_eq_ok]

theorem Entry.types_of_canonicalTypes {params : List Param} :
    ∀ {position : Nat} {typed : List (Param × String)},
      canonicalTypes fault position params = .ok typed →
      (typed.map (·.2)).map some
        = params.map fun p => (ValueType.ofText? p.type).toOption.map ValueType.text := by
  induction params with
  | nil =>
    intro position typed h
    cases h
    rfl
  | cons param params ih =>
    intro position typed h
    unfold canonicalTypes at h
    cases ht : ValueType.ofText? param.type with
    | error e => simp [ht] at h
    | ok t =>
      simp only [ht, map_eq_ok] at h
      obtain ⟨rest, hrest, rfl⟩ := h
      simp only [List.map_cons, ih hrest, ht, Except.toOption, Option.map_some]

theorem Entry.canonical_of_canonicalTypes {params : List Param} {position : Nat}
    {typed : List (Param × String)} (h : canonicalTypes fault position params = .ok typed) :
    ∀ t ∈ typed.map (·.2), Canonical t := by
  intro t ht
  have hmem := List.mem_map_of_mem (f := some) ht
  rw [types_of_canonicalTypes h] at hmem
  obtain ⟨p, -, hp⟩ := List.mem_map.mp hmem
  cases hread : ValueType.ofText? p.type with
  | error e => simp [hread, Except.toOption] at hp
  | ok read =>
    simp only [hread, Except.toOption, Option.map_some, Option.some.injEq] at hp
    exact hp ▸ ValueType.canonical_of_ofText? hread

/-- Inputs that are numbered parameters have the types of these, which are those of the entry. -/
theorem Entry.inputs_of_canonicalTypes {entry : Entry} {typed : List (Param × String)}
    (h : canonicalTypes fault 0 entry.inputs = .ok typed) {α : Type}
    (make : (Param × String) × Nat → α) (type : α → String) (hmake : ∀ x, type (make x) = x.1.2) :
    (typed.zipIdx.map make).map type = typed.map (·.2)
      ∧ ((typed.zipIdx.map make).map type).map some = entry.types
      ∧ ∀ p ∈ typed.zipIdx.map make, Canonical (type p) := by
  have htypes : (typed.zipIdx.map make).map type = typed.map (·.2) := by
    have hunnumbered := congrArg (List.map Prod.snd) (List.zipIdx_map_fst 0 typed)
    rw [List.map_map] at hunnumbered
    rw [List.map_map, ← hunnumbered]
    exact List.map_congr_left fun x _ => hmake x
  refine ⟨htypes, ?_, ?_⟩
  · rw [htypes, types_of_canonicalTypes h, Entry.types]
  · have hcanonical := canonical_of_canonicalTypes h
    rw [← htypes] at hcanonical
    exact List.forall_mem_map.mp hcanonical

/-- The types have no part in whether a signature has bytes. -/
theorem utf8?_signatureOf_eq_none (name : String) {types : List String}
    (h : ∀ t ∈ types, Canonical t) : utf8? (signatureOf name types) = none ↔ utf8? name = none := by
  have hunmarked : escapeMark ∉ ("(" ++ ",".intercalate types ++ ")").toList := by
    have htypes : escapeMark ∉ (",".intercalate types).toList := by
      rw [String.toList_intercalate]
      exact notMem_intercalate (by decide)
        (List.forall_mem_map.mpr fun t ht => (h t ht).notMem (by decide))
    have hopening : escapeMark ∉ "(".toList := by decide
    have hclosing : escapeMark ∉ ")".toList := by decide
    simp only [String.toList_append, List.mem_append, hopening, htypes, hclosing, or_self,
      not_false_eq_true]
  have hsplit : signatureOf name types = name ++ ("(" ++ ",".intercalate types ++ ")") := by
    simp only [signatureOf, String.append_assoc]
  rw [hsplit, utf8?_append_eq_none name hunmarked]

end Types

section Entries
variable {entry : Entry}

theorem Entry.checkKind_eq_ok {position : Int} {checked : Entry} :
    checkKind position entry = .ok checked
      ↔ checked = entry ∧ ∃ kind ∈ entryKinds, entry.kind = some kind := by
  unfold checkKind
  split
  case h_1 hkind => simp [hkind]
  case h_2 kind hkind =>
    by_cases hknown : kind ∈ entryKinds
    · simp [hkind, hknown, eq_comm]
    · simp [hkind, hknown]

theorem Entry.checkKind_of_isSubscribable (position : Int) (h : entry.isSubscribable = true) :
    checkKind position entry = .ok entry := by
  have hkind : entry.kind = some "event" := by simpa using (Bool.and_eq_true_iff.mp h).1
  exact checkKind_eq_ok.mpr ⟨rfl, "event", by decide, hkind⟩

theorem Entry.checkKind_of_isCallable (position : Int) (h : entry.isCallable = true) :
    checkKind position entry = .ok entry := by
  have hkind : entry.kind = some "function" := by simpa using (Bool.and_eq_true_iff.mp h).1
  exact checkKind_eq_ok.mpr ⟨rfl, "function", by decide, hkind⟩

theorem encode_eq_ok {s : String} {message : List UInt8} :
    encode s = .ok message ↔ utf8? s = some message := by
  unfold encode
  cases utf8? s <;> simp

theorem encode_eq_error {s : String} {failure : Failure} :
    encode s = .error failure ↔ utf8? s = none ∧ failure = .misuse .unencodable := by
  unfold encode
  cases utf8? s <;> simp [eq_comm]

theorem Event.ofEntry_eq_ok {e : Event} : ofEntry entry = .ok e
    ↔ ∃ typed message, Entry.canonicalTypes (.eventInput entry.name) 0 entry.inputs = .ok typed
      ∧ utf8? (signatureOf entry.name (typed.map (·.2))) = some message
      ∧ e = {
          name := entry.name
          inputs := typed.zipIdx.map fun ((p, type), i) => ⟨p.name, type, p.indexed, i⟩
          signature := signatureOf entry.name (typed.map (·.2))
          topic0 := topicOf message } := by
  simp only [ofEntry, bind_eq_ok, mapError_eq_ok, encode_eq_ok, pure_eq_ok, eq_comm (b := e),
    ← exists_and_left]

theorem Callee.ofEntry_eq_ok {c : Callee} : ofEntry entry = .ok c
    ↔ ∃ typed, Entry.canonicalTypes (.calleeInput entry.name) 0 entry.inputs = .ok typed
      ∧ c = {
          name := entry.name
          inputs := typed.zipIdx.map fun ((p, type), i) => ⟨p.name, type, i⟩
          signature := signatureOf entry.name (typed.map (·.2))
          mutability := entry.mutability } := by
  simp only [ofEntry, bind_eq_ok, pure_eq_ok, eq_comm (b := c)]

/-- An entry declares no event if the type of an input is unusable, or else if there is a surrogate
in its name. -/
theorem Event.ofEntry_eq_error {failure : Failure} : ofEntry entry = .error failure
    ↔ (∃ fault, failure = .invalidAbi fault
        ∧ Entry.canonicalTypes (.eventInput entry.name) 0 entry.inputs = .error fault)
      ∨ failure = .misuse .unencodable ∧ (∀ p ∈ entry.inputs, ¬ Entry.Unusable p)
        ∧ entry.Garbled := by
  rw [← Entry.exists_canonicalTypes (.eventInput entry.name) 0]
  simp only [ofEntry, bind_eq_error, mapError_eq_error, mapError_eq_ok, encode_eq_error, pure,
    Except.pure, reduceCtorEq, and_false, exists_false, or_false]
  refine or_congr (exists_congr fun fault => by rw [and_comm, eq_comm (a := failure)]) ?_
  constructor
  · rintro ⟨typed, htyped, hnone, rfl⟩
    have hcanonical := Entry.canonical_of_canonicalTypes htyped
    exact ⟨rfl, ⟨typed, htyped⟩, (utf8?_signatureOf_eq_none _ hcanonical).mp hnone⟩
  · rintro ⟨rfl, ⟨typed, htyped⟩, hname⟩
    have hcanonical := Entry.canonical_of_canonicalTypes htyped
    exact ⟨typed, htyped, (utf8?_signatureOf_eq_none _ hcanonical).mpr hname, rfl⟩

theorem Event.exists_ofEntry : (∃ event, Event.ofEntry entry = .ok event)
    ↔ (∀ p ∈ entry.inputs, ¬ Entry.Unusable p) ∧ ¬ entry.Garbled := by
  rw [← Entry.exists_canonicalTypes (.eventInput entry.name) 0]
  simp only [ofEntry_eq_ok]
  constructor
  · rintro ⟨-, typed, message, h, hmessage, -⟩
    refine ⟨⟨typed, h⟩, fun hname => ?_⟩
    rw [(utf8?_signatureOf_eq_none _ (Entry.canonical_of_canonicalTypes h)).mpr hname] at hmessage
    cases hmessage
  · rintro ⟨⟨typed, h⟩, hname⟩
    rw [Entry.Garbled, ← utf8?_signatureOf_eq_none _ (Entry.canonical_of_canonicalTypes h)] at hname
    obtain ⟨message, hmessage⟩ := Option.ne_none_iff_exists'.mp hname
    exact ⟨_, typed, message, h, hmessage, rfl⟩

theorem Callee.exists_ofEntry : (∃ callee, Callee.ofEntry entry = .ok callee)
    ↔ ∀ p ∈ entry.inputs, ¬ Entry.Unusable p := by
  rw [← Entry.exists_canonicalTypes (.calleeInput entry.name) 0]
  simp only [ofEntry_eq_ok]
  constructor
  · rintro ⟨-, typed, h, -⟩
    exact ⟨typed, h⟩
  · rintro ⟨typed, h⟩
    exact ⟨_, typed, h, rfl⟩

theorem Event.declared_of_ofEntry {e : Event} (h : ofEntry entry = .ok e) : e.Declared := by
  obtain ⟨typed, message, htyped, hmessage, rfl⟩ := ofEntry_eq_ok.mp h
  obtain ⟨htypes, -, hcanonical⟩ := Entry.inputs_of_canonicalTypes htyped
    (fun ((p, type), i) => (⟨p.name, type, p.indexed, i⟩ : EventInput)) EventInput.type fun _ => rfl
  exact ⟨congrArg (signatureOf entry.name) htypes.symm, by rw [hmessage, Option.map_some],
    hcanonical⟩

theorem Callee.declared_of_ofEntry {c : Callee} (h : ofEntry entry = .ok c) : c.Declared := by
  obtain ⟨typed, htyped, rfl⟩ := ofEntry_eq_ok.mp h
  obtain ⟨htypes, -, hcanonical⟩ := Entry.inputs_of_canonicalTypes htyped
    (fun ((p, type), i) => (⟨p.name, type, i⟩ : CalleeInput)) CalleeInput.type fun _ => rfl
  exact ⟨congrArg (signatureOf entry.name) htypes.symm, hcanonical⟩

theorem Event.shape_of_ofEntry {e : Event} (h : ofEntry entry = .ok e) :
    e.name = entry.name ∧ (e.inputs.map (·.type)).map some = entry.types := by
  obtain ⟨typed, -, htyped, -, rfl⟩ := ofEntry_eq_ok.mp h
  obtain ⟨-, htypes, -⟩ := Entry.inputs_of_canonicalTypes htyped
    (fun ((p, type), i) => (⟨p.name, type, p.indexed, i⟩ : EventInput)) EventInput.type fun _ => rfl
  exact ⟨rfl, htypes⟩

theorem Callee.shape_of_ofEntry {c : Callee} (h : ofEntry entry = .ok c) :
    c.name = entry.name ∧ (c.inputs.map (·.type)).map some = entry.types := by
  obtain ⟨typed, htyped, rfl⟩ := ofEntry_eq_ok.mp h
  obtain ⟨-, htypes, -⟩ := Entry.inputs_of_canonicalTypes htyped
    (fun ((p, type), i) => (⟨p.name, type, i⟩ : CalleeInput)) CalleeInput.type fun _ => rfl
  exact ⟨rfl, htypes⟩

end Entries
end ReactiveContract.Abi
