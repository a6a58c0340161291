import ReactiveContract.Proofs.Binding.Resolved
import ReactiveContract.Proofs.Contract.Dispatch
import ReactiveContract.Proofs.Text.Hexadecimal
import ReactiveContract.Proofs.Text.Joined
/-! A signature is that of one name and one list of types, whatever characters the name has. So is a
topic, as far as the hash tells signatures apart. -/
namespace ReactiveContract
open Abi Text Outcome

namespace Abi

theorem Canonical.ne_empty {type : String} (h : Canonical type) : type ≠ "" := by
  obtain ⟨t, -, rfl⟩ := h
  intro hempty
  have hbase : t.base = "" := (String.append_eq_empty_iff.mp hempty).1
  cases t <;> simp [ValueType.base] at hbase

section Signatures
variable {name name' : String} {types types' : List String}

theorem intercalate_canonical_injective (h : ∀ t ∈ types, Canonical t)
    (h' : ∀ t ∈ types', Canonical t)
    (heq : ",".intercalate types = ",".intercalate types') : types = types' := by
  have hempty {types : List String} (h : ∀ t ∈ types, Canonical t) :
      [] ∉ types.map String.toList := by
    intro hmem
    obtain ⟨t, ht, hnil⟩ := List.mem_map.mp hmem
    exact (h t ht).ne_empty (String.toList_eq_nil_iff.mp hnil)
  have hcomma {types : List String} (h : ∀ t ∈ types, Canonical t) :
      ∀ cs ∈ types.map String.toList, ',' ∉ cs :=
    List.forall_mem_map.mpr fun t ht => (h t ht).notMem (by decide)
  have hchars := congrArg String.toList heq
  rw [String.toList_intercalate, String.toList_intercalate] at hchars
  have hparts := intercalate_injective (hempty h) (hempty h') (hcomma h) (hcomma h') hchars
  exact List.map_injective_iff.mpr (fun _ _ => String.toList_injective) hparts

/-- Types have no parenthesis in them, so the last opening one ends the name, even if the name has
others. -/
theorem signatureOf_eq_iff (h : ∀ t ∈ types, Canonical t) (h' : ∀ t ∈ types', Canonical t) :
    signatureOf name types = signatureOf name' types' ↔ name = name' ∧ types = types' := by
  have hchars (name : String) (types : List String) : (signatureOf name types).toList
      = name.toList ++ '(' :: ((",".intercalate types).toList ++ [')']) := by
    simp only [signatureOf, String.toList_append, List.append_assoc]
    rfl
  have hopening {types : List String} (h : ∀ t ∈ types, Canonical t) :
      '(' ∉ (",".intercalate types).toList ++ [')'] := by
    have htypes : '(' ∉ (",".intercalate types).toList := by
      rw [String.toList_intercalate]
      exact notMem_intercalate (by decide)
        (List.forall_mem_map.mpr fun t ht => (h t ht).notMem (by decide))
    simpa using htypes
  constructor
  · intro heq
    have hsplit := congrArg String.toList heq
    rw [hchars, hchars] at hsplit
    obtain ⟨hname, hrest⟩ := append_cons_injective (hopening h) (hopening h') hsplit
    have htypes := String.toList_injective (List.append_cancel_right hrest)
    exact ⟨String.toList_injective hname, intercalate_canonical_injective h h' htypes⟩
  · rintro ⟨rfl, rfl⟩
    rfl

end Signatures

theorem Event.Declared.signature_eq_iff {e e' : Event} (h : e.Declared) (h' : e'.Declared) :
    e.signature = e'.signature
      ↔ e.name = e'.name ∧ e.inputs.map (·.type) = e'.inputs.map (·.type) := by
  rw [h.signature_eq, h'.signature_eq]
  exact signatureOf_eq_iff (List.forall_mem_map.mpr h.canonical)
    (List.forall_mem_map.mpr h'.canonical)

theorem Callee.Declared.signature_eq_iff {c c' : Callee} (h : c.Declared) (h' : c'.Declared) :
    c.signature = c'.signature
      ↔ c.name = c'.name ∧ c.inputs.map (·.type) = c'.inputs.map (·.type) := by
  rw [h.signature_eq, h'.signature_eq]
  exact signatureOf_eq_iff (List.forall_mem_map.mpr h.canonical)
    (List.forall_mem_map.mpr h'.canonical)

/-- Two signatures with different bytes and one hash. -/
def Collide (signature other : String) : Prop :=
  ∃ message message', utf8? signature = some message ∧ utf8? other = some message'
    ∧ message ≠ message' ∧ Keccak256.hash message = Keccak256.hash message'

/-- A topic shows the whole hash. -/
theorem topicOf_eq_iff {message other : List UInt8} :
    topicOf message = topicOf other ↔ Keccak256.hash message = Keccak256.hash other := by
  constructor
  · intro h
    have hchars := congrArg String.toList h
    simp only [topicOf, String.toList_append, String.toList_ofList,
      List.append_cancel_left_eq] at hchars
    have hread (bytes : List UInt8) : ((nibbles bytes).map hexDigit).mapM hexValue?
        = some (nibbles bytes) := mapM_hexValue?_map_hexDigit fun _ => lt_of_mem_nibbles
    have hnibbles := hread (Keccak256.hash message)
    rw [hchars, hread, Option.some.injEq] at hnibbles
    exact nibbles_injective hnibbles.symm
  · intro h
    rw [topicOf, topicOf, h]

end Abi

/-- Two events have one signature exactly if they have one name and one list of canonical types; the
names of their inputs and where these travel make no difference. The same holds of functions. As
long as the hash does not collide on them, the topics of two events tell as much as the signatures. -/
theorem signatures_identify :
    (∀ (entry entry' : Entry) (e e' : Event),
        Event.ofEntry entry = .ok e → Event.ofEntry entry' = .ok e' →
        (e.signature = e'.signature ↔ entry.name = entry'.name ∧ entry.types = entry'.types))
      ∧ (∀ (entry entry' : Entry) (c c' : Callee),
        Callee.ofEntry entry = .ok c → Callee.ofEntry entry' = .ok c' →
        (c.signature = c'.signature ↔ entry.name = entry'.name ∧ entry.types = entry'.types))
      ∧ ∀ b b' : Binding, b.Resolved → b'.Resolved →
        ¬ Collide b.event.signature b'.event.signature →
        (b.event.topic0 = b'.event.topic0 ↔ b.event.name = b'.event.name
          ∧ b.event.inputs.map (·.type) = b'.event.inputs.map (·.type)) := by
  have hsome {types types' : List String} : types = types' ↔ types.map some = types'.map some :=
    (List.map_injective_iff.mpr (Option.some_injective String)).eq_iff.symm
  refine ⟨?_, ?_, ?_⟩
  · intro entry entry' e e' h h'
    obtain ⟨hname, htypes⟩ := Event.shape_of_ofEntry h
    obtain ⟨hname', htypes'⟩ := Event.shape_of_ofEntry h'
    rw [(Event.declared_of_ofEntry h).signature_eq_iff (Event.declared_of_ofEntry h'), hsome,
      hname, hname', htypes, htypes']
  · intro entry entry' c c' h h'
    obtain ⟨hname, htypes⟩ := Callee.shape_of_ofEntry h
    obtain ⟨hname', htypes'⟩ := Callee.shape_of_ofEntry h'
    rw [(Callee.declared_of_ofEntry h).signature_eq_iff (Callee.declared_of_ofEntry h'), hsome,
      hname, hname', htypes, htypes']
  · intro b b' h h' hcollide
    obtain ⟨message, hmessage, htopic⟩ := Option.map_eq_some_iff.mp h.event_declared.topic0_eq
    obtain ⟨message', hmessage', htopic'⟩ := Option.map_eq_some_iff.mp h'.event_declared.topic0_eq
    rw [← h.event_declared.signature_eq_iff h'.event_declared, ← htopic, ← htopic', topicOf_eq_iff]
    constructor
    · intro hhash
      by_contra hne
      refine hcollide ⟨message, message', hmessage, hmessage', fun hsame => hne ?_, hhash⟩
      exact utf8?_injective hmessage (hsame ▸ hmessage')
    · intro hsignature
      rw [hsignature, hmessage', Option.some.injEq] at hmessage
      rw [hmessage]

/-- The transfer with other names, another spelling of a type, and the amount in a topic. -/
def movedEntry : Entry :=
  { transferEntry with
    inputs := [
      { name := "holder", type := some "address" },
      { name := "", type := some "uint", indexed := true }] }

def movedCredit : Binding :=
  { transferCredit with
    event := { transferCredit.event with
      inputs := [⟨"holder", "address", false, 0⟩, ⟨"", "uint256", true, 1⟩] }
    mappings := [⟨"who", "address", .data "holder"⟩, ⟨"amount", "uint256", .topic 1⟩]
    condition := none }

theorem Abi.ValueType.ofText?_uint : ofText? (some "uint") = .ok (.uint 256) := rfl

private theorem event_ofEntry_movedEntry : Event.ofEntry movedEntry = .ok movedCredit.event := by
  refine Event.ofEntry_eq_ok.mpr ⟨movedEntry.inputs.zip ["address", "uint256"], _, ?_,
    utf8?_of_unmarked (by decide), rfl⟩
  simp only [Entry.canonicalTypes, movedEntry, ValueType.ofText?_address, ValueType.ofText?_uint]
  rfl

private theorem resolve_movedCredit :
    Binding.resolve movedCredit.event movedCredit.callee movedCredit.mappings none
      = .ok movedCredit := by
  refine Binding.resolve_eq_ok.mpr ⟨⟨.cons ?_ (.cons ?_ .nil), by decide, nofun⟩, rfl⟩
  · exact ⟨⟨.address, ValueType.ofText?_address, rfl⟩, by decide, by decide, _, rfl, rfl, rfl⟩
  · exact ⟨⟨.uint 256, ValueType.ofText?_uint256, rfl⟩, by decide, by decide, by decide, by decide,
      by decide⟩

/-- Both transfers have one signature and share their topic, and a function that has the whole
signature for its name is another function. -/
theorem movedEntry_identified :
    Event.ofEntry transferEntry = .ok transferCredit.event
      ∧ Event.ofEntry movedEntry = .ok movedCredit.event
      ∧ transferCredit.event.signature = movedCredit.event.signature
      ∧ (∀ c, Callee.ofEntry { name := "credit(address,uint256)" } = .ok c →
        transferCredit.callee.signature ≠ c.signature)
      ∧ transferCredit.Resolved ∧ movedCredit.Resolved
      ∧ transferCredit.event.topic0 = movedCredit.event.topic0 := by
  have hresolved : movedCredit.Resolved :=
    ⟨movedEntry, creditEntry, _, _, movedCredit.mappings, none, event_ofEntry_movedEntry,
      callee_ofEntry_creditEntry, resolve_movedCredit⟩
  have htypes : transferEntry.types = movedEntry.types := by
    simp only [Entry.types, transferEntry, movedEntry, List.map_cons, ValueType.ofText?_address,
      ValueType.ofText?_uint256, ValueType.ofText?_uint, List.map_nil]
  refine ⟨event_ofEntry_transferEntry, event_ofEntry_movedEntry, ?_, ?_, transferCredit_resolved,
    hresolved, ?_⟩
  · exact (signatures_identify.1 _ _ _ _ event_ofEntry_transferEntry event_ofEntry_movedEntry).mpr
      ⟨rfl, htypes⟩
  · intro c hc hsame
    have hname := ((signatures_identify.2.1 _ _ _ _ callee_ofEntry_creditEntry hc).mp hsame).1
    exact absurd hname (by decide)
  · refine (signatures_identify.2.2 _ _ transferCredit_resolved hresolved ?_).mpr ⟨rfl, rfl⟩
    rintro ⟨message, message', hmessage, hmessage', hne, -⟩
    exact hne (Option.some.inj (hmessage.symm.trans hmessage'))

end ReactiveContract
