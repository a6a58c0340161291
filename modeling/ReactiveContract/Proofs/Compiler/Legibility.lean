import Mathlib.Data.List.Infix
import ReactiveContract.Proofs.Compilation
import ReactiveContract.Proofs.Document.Reading
/-! Which answers of a backend can be read: a compilation fails with failures of its own on these,
and on no others. -/
namespace ReactiveContract
open Outcome Document

/-- The failures that a compilation is documented to have. -/
inductive Failure.OfCompilation : Failure → Prop
  | service (fault : ServiceFault) : OfCompilation (.service fault)
  | compilation (message : String) (diagnostics : List Compiler.Diagnostic) :
    OfCompilation (.compilation message diagnostics)
  | contractNotFound (name : String) (available : List String) :
    OfCompilation (.contractNotFound name available)

namespace Compiler
open Failure (OfCompilation)

/-- The value at the end of a path of keys has a property, unless some value on the way is absent or
empty in any sense. -/
def Along : List String → (Json → Prop) → Json → Prop
  | [], P, j => P j
  | key :: path, P, j => ∃ fields, j = .obj fields
    ∧ ∀ v, Fields.get? fields key = some v → v.isTruthy = true → Along path P v

def IsText (j : Json) : Prop := ∃ s, j = .str s

def IsObject (j : Json) : Prop := ∃ fields, j = .obj fields

/-- A list whose items have a property. -/
def IsList (P : Json → Prop) (j : Json) : Prop := ∃ items, j = .arr items ∧ ∀ item ∈ items, P item

/-- A diagnostic whose message is a text. -/
structure HasMessage (diagnostic : Json) : Prop where
  short : Along ["message"] IsText diagnostic
  formatted : Along ["message"] (fun _ => False) diagnostic →
    Along ["formattedMessage"] IsText diagnostic

/-- A contract whose bytecode is a text and whose interface is a list of objects. -/
structure HasParts (contract : Json) : Prop where
  bytecode : Along ["evm", "bytecode", "object"] IsText contract
  abi : Along ["abi"] (IsList IsObject) contract

/-- If there is something of the name, it is a contract. Texts and lists of texts are taken for
collections of names: there is nothing of the name in them. -/
inductive Offers (name : String) : Json → Prop
  | object {fields : Fields}
    (h : ∀ contract, Fields.get? fields name = some contract → HasParts contract) :
    Offers name (.obj fields)
  | text {s : String} (h : ¬ Text.points name <:+: Text.points s) : Offers name (.str s)
  | texts {texts : List String} (h : name ∉ texts) : Offers name (.arr (texts.map .str))

/-- An error among the diagnostics. -/
def ReportsError (output : Json) : Prop :=
  ∃ fields items raw, output = .obj fields ∧ Fields.get? fields "errors" = some (.arr items)
    ∧ .obj raw ∈ items ∧ Fields.get? raw "severity" = some (.str "error")

/-- An output that can be read: diagnostics, and contracts if there is no error among these. -/
structure Legible (name : String) (output : Json) : Prop where
  diagnostics : Along ["errors"] (IsList HasMessage) output
  contracts : ¬ ReportsError output → Along ["contracts", sourceFile] (Offers name) output

section Outcomes
variable {α β : Type}

/-- No failure is one of a compilation. -/
abbrev Stray (x : Except Failure α) : Prop := FailsWith (fun failure => ¬ failure.OfCompilation) x

private theorem not_kept_misuse (kind : Misuse) :
    ¬ FailsWith OfCompilation (.error (.misuse kind) : Except Failure α) :=
  fun h => nomatch failsWith_error.mp h

theorem stray_misuse (kind : Misuse) : Stray (.error (.misuse kind) : Except Failure α) :=
  failsWith_error.mpr fun h => nomatch h

theorem stray_malformed (faults : Faults) :
    Stray (.error (.malformed faults) : Except Failure α) :=
  failsWith_error.mpr fun h => nomatch h

theorem Stray.kept_iff {x : Except Failure α} (h : Stray x) :
    FailsWith OfCompilation x ↔ ∃ a, x = .ok a := by
  cases x with
  | ok a => exact iff_of_true (failsWith_ok a) ⟨a, rfl⟩
  | error failure => exact iff_of_false (fun hk => h failure rfl (hk failure rfl)) nofun

/-- What follows a computation that cannot fail as documented is reached. -/
theorem Stray.kept_bind {x : Traced α} {f : α → Traced β} (h : Stray x.outcome) :
    FailsWith OfCompilation (x >>= f).outcome
      ↔ ∃ a, x.outcome = .ok a ∧ FailsWith OfCompilation (f a).outcome := by
  rw [Traced.failsWith_bind, h.kept_iff]
  constructor
  · rintro ⟨⟨a, ha⟩, hf⟩
    exact ⟨a, ha, hf a ha⟩
  · rintro ⟨a, ha, hf⟩
    refine ⟨⟨a, ha⟩, fun b hb => ?_⟩
    obtain rfl : a = b := Except.ok.inj (ha.symm.trans hb)
    exact hf

theorem kept_note_bind {n : Note} {f : Unit → Traced β} :
    FailsWith OfCompilation (Traced.note n >>= f).outcome
      ↔ FailsWith OfCompilation (f ()).outcome := by
  rw [Traced.failsWith_bind, Traced.outcome_note]
  exact ⟨fun h => h.2 () rfl, fun h => ⟨failsWith_ok (), fun _ _ => h⟩⟩

end Outcomes

section Paths
variable {P Q : Json → Prop} {path : List String} {j : Json}

theorem fieldOrEmpty_obj (fields : Fields) (key : String) :
    fieldOrEmpty (.obj fields) key = .ok ((Fields.get? fields key).filter Json.isTruthy) := rfl

theorem descend_singleton (key : String) (j : Json) : descend [key] j = fieldOrEmpty j key := by
  unfold descend
  cases fieldOrEmpty j key with
  | error failure => rfl
  | ok found => cases found <;> rfl

theorem stray_fieldOrEmpty (j : Json) (key : String) : Stray (fieldOrEmpty j key) := by
  cases j with
  | obj fields => exact failsWith_ok _
  | _ => exact stray_misuse _

theorem stray_descend (path : List String) (j : Json) : Stray (descend path j) := by
  induction path generalizing j with
  | nil => exact failsWith_ok _
  | cons key path ih =>
    have hfield := stray_fieldOrEmpty j key
    unfold descend
    cases hfound : fieldOrEmpty j key with
    | error failure =>
      rw [hfound] at hfield
      exact hfield
    | ok found =>
      cases found with
      | none => exact failsWith_ok _
      | some inner => exact ih inner

theorem along_obj_iff {fields : Fields} {key : String} :
    Along (key :: path) P (.obj fields)
      ↔ ∀ v, (Fields.get? fields key).filter Json.isTruthy = some v → Along path P v := by
  simp [Along, Option.filter_eq_some_iff]

/-- A path can be followed exactly if there are objects on the way. -/
theorem along_iff :
    Along path P j ↔ ∃ found, descend path j = .ok found ∧ ∀ v, found = some v → P v := by
  induction path generalizing j with
  | nil => simp [Along, descend]
  | cons key path ih =>
    cases j with
    | obj fields =>
      rw [along_obj_iff, descend, fieldOrEmpty_obj]
      cases (Fields.get? fields key).filter Json.isTruthy with
      | none => simp
      | some inner => simpa using ih
    | _ => simp [Along, descend, fieldOrEmpty]

private theorem along_singleton_congr {key : String} (h : ∀ v, v.isTruthy = true → (P v ↔ Q v)) :
    Along [key] P j ↔ Along [key] Q j := by
  simp only [Along]
  refine exists_congr fun fields => and_congr_right fun _ => ?_
  exact forall_congr' fun v => imp_congr_right fun _ => imp_congr_right fun hv => h v hv

end Paths

section Diagnostics
variable {j : Json}

/-- The message is a text exactly if the first of its sources that is not empty is one. -/
theorem hasMessage_obj_iff (raw : Fields) :
    HasMessage (.obj raw) ↔ IsText (Diagnostic.messageOf raw) := by
  have hiff : HasMessage (.obj raw) ↔ Along ["message"] IsText (.obj raw)
      ∧ (Along ["message"] (fun _ => False) (.obj raw)
        → Along ["formattedMessage"] IsText (.obj raw)) :=
    ⟨fun h => ⟨h.short, h.formatted⟩, fun h => ⟨h.1, h.2⟩⟩
  simp only [hiff, along_obj_iff]
  simp only [Along, Diagnostic.messageOf]
  cases (Fields.get? raw "message").filter Json.isTruthy with
  | some short => simp
  | none =>
    cases (Fields.get? raw "formattedMessage").filter Json.isTruthy with
    | some formatted => simp
    | none => simp [IsText]

private theorem stray_ofOutput (j : Json) : Stray (Diagnostic.ofOutput j) := by
  unfold Diagnostic.ofOutput
  cases j with
  | obj raw =>
    dsimp only
    split
    · exact failsWith_ok _
    · exact stray_malformed _
  | _ => exact stray_misuse _

theorem ofOutput_obj_eq_ok {raw : Fields} {d : Diagnostic} :
    Diagnostic.ofOutput (.obj raw) = .ok d
      ↔ ∃ message, Diagnostic.messageOf raw = .str message
        ∧ d = ⟨Diagnostic.severityOf raw, message, Diagnostic.locationOf raw⟩ := by
  unfold Diagnostic.ofOutput
  dsimp only
  split
  case h_1 message h =>
    rw [Checked.under_eq_ok, text_eq_ok] at h
    simp [h, eq_comm]
  case h_2 faults h =>
    simp only [reduceCtorEq, false_iff]
    rintro ⟨message, hmessage, -⟩
    rw [Checked.under_eq_ok.mpr (text_eq_ok.mpr hmessage)] at h
    cases h

theorem hasMessage_iff : HasMessage j ↔ ∃ d, Diagnostic.ofOutput j = .ok d := by
  cases j with
  | obj raw =>
    rw [hasMessage_obj_iff]
    simp only [ofOutput_obj_eq_ok]
    constructor
    · rintro ⟨message, h⟩
      exact ⟨_, message, h, rfl⟩
    · rintro ⟨-, message, h, -⟩
      exact ⟨message, h⟩
  | _ =>
    refine iff_of_false (fun h => ?_) (fun ⟨d, h⟩ => nomatch h)
    obtain ⟨fields, h, -⟩ := h.short
    cases h

private theorem stray_readAll (items : List Json) : Stray (Diagnostic.readAll items) := by
  induction items with
  | nil => exact failsWith_ok _
  | cons j rest ih =>
    exact (stray_ofOutput j).bind fun d => ih.bind fun ds => failsWith_ok _

theorem readAll_eq_ok {items : List Json} {ds : List Diagnostic} :
    Diagnostic.readAll items = .ok ds ↔ items.map Diagnostic.ofOutput = ds.map .ok := by
  induction items generalizing ds with
  | nil => simp [Diagnostic.readAll, eq_comm]
  | cons j rest ih =>
    simp only [Diagnostic.readAll, bind_eq_ok, pure_eq_ok, ih, map_cons_eq_map_iff]

theorem exists_readAll_iff {items : List Json} :
    (∃ ds, Diagnostic.readAll items = .ok ds) ↔ ∀ item ∈ items, HasMessage item := by
  simp only [readAll_eq_ok, exists_map_eq_iff, hasMessage_iff]

private theorem stray_itemsOf (found : Option Json) : Stray (itemsOf found) := by
  unfold itemsOf
  split
  · exact failsWith_ok _
  · exact failsWith_ok _
  · exact failsWith_ok _
  · exact failsWith_ok _
  · exact stray_misuse _

private theorem stray_diagnosticsOf (output : Json) : Stray (diagnosticsOf output) :=
  (stray_fieldOrEmpty output "errors").bind fun found =>
    (stray_itemsOf found).bind fun items => stray_readAll items

/-- Single characters and keys are no diagnostics. -/
theorem exists_diagnostics_iff {v : Json} (hv : v.isTruthy = true) :
    (∃ items, itemsOf (some v) = .ok items ∧ ∃ ds, Diagnostic.readAll items = .ok ds)
      ↔ IsList HasMessage v := by
  simp only [exists_readAll_iff]
  have htext : ∀ s, ¬ HasMessage (.str s) := by
    intro s h
    obtain ⟨fields, h, -⟩ := h.short
    cases h
  cases v with
  | arr items => simp [itemsOf, IsList]
  | str s =>
    refine iff_of_false ?_ (fun h => nomatch h)
    rintro ⟨items, ⟨⟩, h⟩
    cases hs : Text.spellings s.toList with
    | nil =>
      have hempty := Text.flatten_spellings s.toList
      rw [hs, List.flatten_nil] at hempty
      simp [Json.isTruthy, String.toList_eq_nil_iff.mp hempty.symm] at hv
    | cons spelling rest => exact htext _ (h (.str (String.ofList spelling)) (by simp [hs]))
  | obj fields =>
    refine iff_of_false ?_ (fun h => nomatch h)
    rintro ⟨items, ⟨⟩, h⟩
    cases fields with
    | nil => cases hv
    | cons f rest => exact htext _ (h (.str f.1) (by simp))
  | _ => exact iff_of_false (fun h => nomatch h) (fun h => nomatch h)

theorem along_errors_iff {output : Json} :
    Along ["errors"] (IsList HasMessage) output ↔ ∃ ds, diagnosticsOf output = .ok ds := by
  rw [← along_singleton_congr fun v hv => exists_diagnostics_iff hv, along_iff, descend_singleton]
  simp only [diagnosticsOf, bind_eq_ok]
  constructor
  · rintro ⟨found, hfound, h⟩
    cases found with
    | none => exact ⟨[], none, hfound, [], rfl, rfl⟩
    | some v =>
      obtain ⟨items, hitems, ds, hds⟩ := h v rfl
      exact ⟨ds, some v, hfound, items, hitems, hds⟩
  · rintro ⟨ds, found, hfound, items, hitems, hds⟩
    refine ⟨found, hfound, ?_⟩
    rintro v rfl
    exact ⟨items, hitems, ds, hds⟩

theorem isError_iff {raw : Fields} :
    Diagnostic.severityOf raw = .error ↔ Fields.get? raw "severity" = some (.str "error") := by
  unfold Diagnostic.severityOf
  split
  case h_1 s h =>
    rw [h, Option.some.injEq, Json.str.injEq]
    by_cases hs : s = "error" <;> simp [hs, Severity.text]
  case h_2 h =>
    simp only [reduceCtorEq, false_iff]
    exact fun hs => h _ hs

theorem ofOutput_isError_iff {d : Diagnostic} (h : Diagnostic.ofOutput j = .ok d) :
    d.severity = .error
      ↔ ∃ raw, j = .obj raw ∧ Fields.get? raw "severity" = some (.str "error") := by
  cases j with
  | obj raw =>
    obtain ⟨message, -, rfl⟩ := ofOutput_obj_eq_ok.mp h
    simp [isError_iff]
  | _ => cases h

private theorem mem_itemsOf_obj {found : Option Json} {items : List Json} {raw : Fields}
    (h : itemsOf found = .ok items) (hraw : .obj raw ∈ items) : found = some (.arr items) := by
  unfold itemsOf at h
  split at h
  · cases h
    simp at hraw
  · cases h
    rfl
  · cases h
    simp at hraw
  · cases h
    simp at hraw
  · cases h

/-- What was read as an error is marked as one in the output. -/
theorem errors_ne_nil_iff {output : Json} {ds : List Diagnostic}
    (h : diagnosticsOf output = .ok ds) : Diagnostic.errors ds ≠ [] ↔ ReportsError output := by
  simp only [diagnosticsOf, bind_eq_ok] at h
  obtain ⟨found, hfound, items, hitems, hds⟩ := h
  rw [readAll_eq_ok] at hds
  have hfind : Diagnostic.errors ds ≠ [] ↔ ∃ d ∈ ds, d.severity = .error := by
    simp [Diagnostic.errors]
  rw [hfind]
  constructor
  · rintro ⟨d, hd, herror⟩
    have hmem : .ok d ∈ items.map Diagnostic.ofOutput := hds ▸ List.mem_map_of_mem hd
    obtain ⟨j, hj, hread⟩ := List.mem_map.mp hmem
    obtain ⟨raw, rfl, hseverity⟩ := (ofOutput_isError_iff hread).mp herror
    obtain rfl := mem_itemsOf_obj hitems hj
    cases output with
    | obj fields =>
      have hget := Except.ok.inj hfound
      exact ⟨fields, items, raw, rfl, (Option.filter_eq_some_iff.mp hget).1, hj, hseverity⟩
    | _ => cases hfound
  · rintro ⟨fields, listed, raw, rfl, hget, hraw, hseverity⟩
    have hkept : (some (Json.arr listed)).filter Json.isTruthy = some (.arr listed) := by
      cases listed with
      | nil => simp at hraw
      | cons j rest => rfl
    rw [fieldOrEmpty_obj, hget, hkept] at hfound
    obtain rfl := Except.ok.inj hfound
    obtain rfl : listed = items := Except.ok.inj hitems
    have hmem : Diagnostic.ofOutput (.obj raw) ∈ ds.map .ok := hds ▸ List.mem_map_of_mem hraw
    obtain ⟨d, hd, hread⟩ := List.mem_map.mp hmem
    exact ⟨d, hd, (ofOutput_isError_iff hread.symm).mpr ⟨raw, rfl, hseverity⟩⟩

end Diagnostics

section Contracts
variable {name : String} {contract : Json}

theorem occursIn_iff {part points : List Nat} : occursIn part points = true ↔ part <:+: points := by
  induction points with
  | nil => simp [occursIn]
  | cons point rest ih =>
    rw [occursIn, Bool.or_eq_true, List.isPrefixOf_iff_prefix, ih, List.infix_cons_iff]

theorem textsOf_eq_some {items : List Json} {texts : List String} :
    textsOf items = some texts ↔ items = texts.map .str := by
  induction items generalizing texts with
  | nil => simp [textsOf, eq_comm]
  | cons j rest ih =>
    cases j with
    | str s =>
      rw [textsOf, Option.map_eq_some_iff]
      simp only [ih]
      constructor
      · rintro ⟨texts, rfl, rfl⟩
        rfl
      · intro h
        cases texts with
        | nil => cases h
        | cons t texts =>
          obtain ⟨hs, hrest⟩ := List.cons.inj h
          exact ⟨texts, hrest, by rw [Json.str.inj hs]⟩
    | _ =>
      refine iff_of_false (fun h => nomatch h) (fun h => ?_)
      cases texts with
      | nil => cases h
      | cons t texts => cases (List.cons.inj h).1

private theorem kept_missing (name : String) (found : List String) :
    FailsWith OfCompilation (missing name found).outcome := by
  rw [missing, kept_note_bind, Traced.outcome_fail, failsWith_error]
  exact .contractNotFound name _

private theorem missing_ne_ok {found : List String} :
    (missing name found).outcome ≠ .ok contract := by
  intro h
  obtain ⟨-, -, h⟩ := Traced.outcome_bind_eq_ok.mp h
  cases h

theorem offers_texts_iff {texts : List String} :
    Offers name (.arr (texts.map .str)) ↔ name ∉ texts := by
  constructor
  · intro h
    generalize hj : Json.arr (texts.map .str) = j at h
    cases h with
    | object => cases hj
    | text => cases hj
    | @texts others hnot =>
      obtain rfl : texts = others := Option.some.inj <|
        (textsOf_eq_some.mpr rfl).symm.trans (textsOf_eq_some.mpr (Json.arr.inj hj))
      exact hnot
  · exact .texts

/-- The search for a contract fails as documented or finds a readable one. -/
theorem findContract_iff {found : Option Json} :
    (FailsWith OfCompilation (findContract name found).outcome
        ∧ ∀ contract, (findContract name found).outcome = .ok contract → HasParts contract)
      ↔ ∀ v, found = some v → Offers name v := by
  have hmissing (texts : List String) : FailsWith OfCompilation (missing name texts).outcome
      ∧ ∀ contract, (missing name texts).outcome = .ok contract → HasParts contract :=
    ⟨kept_missing name texts, fun _ h => absurd h missing_ne_ok⟩
  have hmisuse (P : Prop) :
      ¬ (FailsWith OfCompilation (Traced.fail (.misuse .wrongType) : Traced Json).outcome ∧ P) :=
    fun h => not_kept_misuse _ h.1
  cases found with
  | none => exact iff_of_true (hmissing []) nofun
  | some v =>
    simp only [Option.some.injEq, forall_eq']
    unfold findContract
    cases v with
    | obj fields =>
      dsimp only
      cases hget : Fields.get? fields name with
      | none =>
        refine iff_of_true (hmissing _) (.object fun contract h => ?_)
        rw [hget] at h
        cases h
      | some contract =>
        constructor
        · rintro ⟨-, h⟩
          refine .object fun found hfound => ?_
          obtain rfl : contract = found := Option.some.inj (hget.symm.trans hfound)
          exact h contract rfl
        · rintro (h | _ | _)
          refine ⟨failsWith_ok contract, ?_⟩
          rintro _ ⟨⟩
          exact h contract hget
    | str s =>
      dsimp only
      split
      case isTrue hin =>
        refine iff_of_false (hmisuse _) ?_
        rintro (_ | h | _)
        exact h (occursIn_iff.mp hin)
      case isFalse hin =>
        exact iff_of_true (hmissing _) (.text fun h => hin (occursIn_iff.mpr h))
    | arr items =>
      dsimp only
      cases htexts : textsOf items with
      | none =>
        refine iff_of_false (hmisuse _) ?_
        rintro (_ | _ | _)
        rw [textsOf_eq_some.mpr rfl] at htexts
        cases htexts
      | some texts =>
        obtain rfl := textsOf_eq_some.mp htexts
        dsimp only
        split
        case isTrue hin => exact iff_of_false (hmisuse _) fun h => offers_texts_iff.mp h hin
        case isFalse hin => exact iff_of_true (hmissing _) (.texts hin)
    | _ =>
      refine iff_of_false (hmisuse _) ?_
      rintro ⟨⟩

theorem stray_bytecodeOf (name : String) (contract : Json) :
    Stray (bytecodeOf name contract).outcome := by
  refine Traced.failsWith_bind.mpr ⟨stray_descend _ contract, fun found _ => ?_⟩
  dsimp only
  split
  · exact stray_misuse _
  · refine Traced.failsWith_bind.mpr ⟨failsWith_ok (), fun _ _ => ?_⟩
    split
    · exact failsWith_ok _
    · exact stray_misuse _

/-- Only a text, or nothing at all, gives bytecode. -/
theorem exists_bytecodeOf_iff (name : String) :
    (∃ code, (bytecodeOf name contract).outcome = .ok code)
      ↔ Along ["evm", "bytecode", "object"] IsText contract := by
  rw [along_iff]
  simp only [bytecodeOf, Traced.outcome_bind_eq_ok, Traced.outcome_ofExcept]
  constructor
  · rintro ⟨code, found, hfound, h⟩
    refine ⟨found, hfound, ?_⟩
    rintro v rfl
    cases v with
    | str s => exact ⟨s, rfl⟩
    | _ => simp [sizeOf?, Traced.outcome_bind_eq_ok] at h
  · rintro ⟨found, hfound, h⟩
    obtain ⟨s, hs⟩ : ∃ s, found.getD (.str "") = .str s := by
      cases found with
      | none => exact ⟨"", rfl⟩
      | some v => exact h v rfl
    refine ⟨markedBytecode s, found, hfound, ?_⟩
    rw [hs]
    rfl

theorem stray_abiOf (contract : Json) : Stray (abiOf contract) := by
  refine (stray_fieldOrEmpty contract "abi").bind fun found => ?_
  dsimp only
  split
  · exact failsWith_ok _
  · exact stray_malformed _

theorem exists_abiOf_iff :
    (∃ entries, abiOf contract = .ok entries) ↔ Along ["abi"] (IsList IsObject) contract := by
  have hlist (v : Json) : IsList IsObject v ↔ ∃ entries, list object v = .ok entries := by
    simp only [exists_list_eq_ok, object_eq_ok, IsList, IsObject]
  rw [along_iff, descend_singleton]
  simp only [abiOf, bind_eq_ok, hlist]
  constructor
  · rintro ⟨entries, found, hfound, h⟩
    refine ⟨found, hfound, ?_⟩
    rintro v rfl
    split at h
    case h_1 listed hlisted => exact ⟨listed, Checked.under_eq_ok.mp hlisted⟩
    case h_2 => cases h
  · rintro ⟨found, hfound, h⟩
    obtain ⟨entries, hentries⟩ : ∃ entries, list object (found.getD (.arr [])) = .ok entries := by
      cases found with
      | none => exact ⟨[], rfl⟩
      | some v => exact h v rfl
    refine ⟨entries, found, hfound, ?_⟩
    rw [Checked.under_eq_ok.mpr hentries]
    rfl

theorem kept_extract {source : String} {warnings : List Diagnostic} {output : Json} :
    FailsWith OfCompilation (extract source name warnings output).outcome
      ↔ Along ["contracts", sourceFile] (Offers name) output := by
  have hparts (contract : Json) : FailsWith OfCompilation (bytecodeOf name contract >>= fun code =>
      Traced.ofExcept (abiOf contract) >>= fun abi => pure
        { sourceText := source
          contractName := name
          compiledAbi := some abi
          compiledBytecode := some code
          warnings := warnings : Artifact }).outcome ↔ HasParts contract := by
    have hboth : HasParts contract ↔ Along ["evm", "bytecode", "object"] IsText contract
        ∧ Along ["abi"] (IsList IsObject) contract :=
      ⟨fun h => ⟨h.bytecode, h.abi⟩, fun h => ⟨h.1, h.2⟩⟩
    rw [hboth, ← exists_bytecodeOf_iff name, ← exists_abiOf_iff,
      Stray.kept_bind (stray_bytecodeOf name contract), ← exists_and_right]
    refine exists_congr fun code => and_congr_right fun _ => ?_
    rw [Stray.kept_bind (stray_abiOf contract)]
    exact ⟨fun ⟨entries, h, _⟩ => ⟨entries, h⟩, fun ⟨entries, h⟩ => ⟨entries, h, failsWith_ok _⟩⟩
  rw [extract, Stray.kept_bind (stray_descend _ output), along_iff]
  refine exists_congr fun found => and_congr_right fun _ => ?_
  rw [Traced.failsWith_bind, ← findContract_iff]
  simp only [hparts]

end Contracts

private theorem kept_readOutput {source name : String} {fields : Fields} :
    FailsWith OfCompilation (readOutput source name (.obj fields)).outcome
      ↔ Legible name (.obj fields) := by
  have hlegible : Legible name (.obj fields) ↔ Along ["errors"] (IsList HasMessage) (.obj fields)
      ∧ (¬ ReportsError (.obj fields) →
        Along ["contracts", sourceFile] (Offers name) (.obj fields)) :=
    ⟨fun h => ⟨h.diagnostics, h.contracts⟩, fun h => ⟨h.1, h.2⟩⟩
  rw [hlegible, along_errors_iff, readOutput, Stray.kept_bind (stray_diagnosticsOf _),
    ← exists_and_right]
  refine exists_congr fun ds => and_congr_right fun hds => ?_
  have herrors := errors_ne_nil_iff hds
  cases hfound : Diagnostic.errors ds with
  | cons first rest =>
    have hreports := herrors.mp (by simp [hfound])
    dsimp only
    rw [kept_note_bind, Traced.outcome_fail, failsWith_error]
    exact iff_of_true (.compilation _ ds) fun h => absurd hreports h
  | nil =>
    have hnot : ¬ ReportsError (.obj fields) := fun h => herrors.mpr h hfound
    dsimp only
    split
    · rw [kept_note_bind, kept_extract, forall_prop_of_true hnot]
    · rw [kept_extract, forall_prop_of_true hnot]

section Replies
variable {reply : Reply Json} {what : String} {limit : Quantity} {failure : Failure}

theorem await_eq_error (h : (reply.await what limit).outcome = .error failure) :
    reply = .failed failure ∨ failure = .service (.timedOut what limit) := by
  have htimedOut (h : (Traced.note (.timedOut what limit) >>= fun _ =>
      (Traced.fail (.service (.timedOut what limit)) : Traced Json)).outcome = .error failure) :
      failure = .service (.timedOut what limit) := by
    rcases Traced.outcome_bind_eq_error.mp h with h | ⟨-, -, h⟩ <;> cases h
    rfl
  unfold Reply.await at h
  split at h
  · cases h
  · exact .inr (htimedOut h)
  · split at h
    · exact .inr (htimedOut h)
    · cases h
      exact .inl rfl
  · cases h
    exact .inl rfl

/-- A backend's own failures are told apart from others, which become those of the service. -/
theorem classify_await_eq_error
    (h : (classify (reply.await what limit)).outcome = .error failure) :
    reply = .failed failure ∧ failure.isOwn = true ∨ failure.OfCompilation := by
  unfold classify at h
  cases hr : (reply.await what limit).outcome with
  | ok output =>
    rw [hr] at h
    dsimp only at h
    rw [hr] at h
    cases h
  | error other =>
    rw [hr] at h
    dsimp only at h
    split at h
    case isTrue hown =>
      obtain rfl : other = failure := Except.error.inj (hr.symm.trans h)
      rcases await_eq_error hr with hreply | rfl
      · exact .inl ⟨hreply, hown⟩
      · exact .inr (.service _)
    case isFalse =>
      cases h
      exact .inr (.service _)

private theorem classify_await_of_own (h : failure.isOwn = true) :
    (classify ((Reply.failed failure : Reply Json).await what limit)).outcome = .error failure := by
  cases failure with
  | malformed | typeNotInTopic | misuse | foreign => cases h
  | _ => rfl

/-- An answer that is no object is refused as such. -/
theorem kept_readOutput_iff {s name : String} {output : Json} :
    FailsWith OfCompilation (readOutput s name output).outcome
      ↔ (IsObject output → Legible name output) := by
  cases output with
  | obj fields =>
    rw [kept_readOutput]
    exact ⟨fun h _ => h, fun h => h ⟨fields, rfl⟩⟩
  | _ => exact iff_of_true (failsWith_error.mpr (.service _)) fun ⟨fields, h⟩ => nomatch h

theorem conclude_kept_iff {source name : String} :
    ((∃ artifact, (conclude source name limit reply).outcome = .ok artifact)
        ∨ ∃ failure, (conclude source name limit reply).outcome = .error failure
          ∧ (failure.OfCompilation ∨ reply = .failed failure ∧ failure.isOwn = true))
      ↔ ∀ output, reply = .returned output → IsObject output → Legible name output := by
  constructor
  · rintro h output rfl
    have hread : (conclude source name limit (.returned output)).outcome
        = (readOutput source name output).outcome := rfl
    refine (kept_readOutput_iff (s := source)).mp fun failure hfailure => ?_
    rw [hread, hfailure] at h
    rcases h with ⟨artifact, h⟩ | ⟨other, h, hother | ⟨hreply, -⟩⟩
    · cases h
    · cases h
      exact hother
    · cases hreply
  · intro h
    cases hc : (conclude source name limit reply).outcome with
    | ok artifact => exact .inl ⟨artifact, rfl⟩
    | error failure =>
      refine .inr ⟨failure, rfl, ?_⟩
      rcases Traced.outcome_bind_eq_error.mp hc with hfailed | ⟨output, houtput, hfailed⟩
      · exact (classify_await_eq_error hfailed).symm
      · have hreply := await_eq_ok.mp (classify_eq_ok.mp houtput)
        exact .inl (kept_readOutput_iff.mpr (h output hreply) failure hfailed)

/-- The backend is asked once. Its own failures are passed on as they are. There is an artifact, or
a failure that a compilation is documented to have, exactly if the answer is legible, should it be
an object at all. -/
theorem compile_kept_iff_legible {σ : Type} (o : CompilerOptions) (source name : String)
    (timeout : Option Quantity) (hsource : Text.trim source ≠ "")
    (htimeout : ∀ limit, timeout = some limit → limit.isAtMost 0 = false)
    (backend : Json → σ → Reply Json × σ) (start : σ) :
    ∃ reply result, backend (request o source) start = (reply, result.2)
      ∧ (compile o source name timeout).against backend start = result
      ∧ (((∃ artifact, result.1 = .ok artifact)
          ∨ ∃ failure, result.1 = .error failure
            ∧ (failure.OfCompilation ∨ reply = .failed failure ∧ failure.isOwn = true))
        ↔ ∀ output, reply = .returned output → IsObject output → Legible name output)
      ∧ ∀ failure, reply = .failed failure → failure.isOwn = true →
        result.1 = .error failure := by
  rw [compile_eq_ask o hsource name timeout htimeout, Inquiry.against]
  generalize backend (request o source) start = answer
  obtain ⟨reply, state⟩ := answer
  refine ⟨reply, _, rfl, rfl, conclude_kept_iff, ?_⟩
  rintro failure rfl hown
  exact Traced.outcome_bind_eq_error.mpr (.inl (classify_await_of_own hown))

/-- An output without anything can be read: every contract is missing in it. -/
theorem emptyOutput_kept :
    Text.trim "S" ≠ "" ∧ (∀ limit, (none : Option Quantity) = some limit →
        limit.isAtMost 0 = false)
      ∧ ∃ failure, (compile {} "S" "A" none).against
          (fun _ calls => (.returned (.obj []), calls + 1)) 0 = (.error failure, 1)
        ∧ failure.OfCompilation := by
  have hsource : Text.trim "S" ≠ "" := by decide
  have hlegible : Legible "A" (.obj []) := ⟨⟨[], rfl, nofun⟩, fun _ => ⟨[], rfl, nofun⟩⟩
  obtain ⟨reply, result, hbackend, hagainst, hkept, -⟩ := compile_kept_iff_legible {} "S" "A" none
    hsource nofun (fun _ calls => (.returned (.obj []), calls + 1)) 0
  obtain ⟨failure, hfailure⟩ : ∃ failure, (compile {} "S" "A" none).against
      (fun _ calls => (.returned (.obj []), calls + 1)) 0 = (.error failure, 1) := ⟨_, rfl⟩
  refine ⟨hsource, nofun, failure, hfailure, ?_⟩
  obtain ⟨rfl, -⟩ := Prod.mk.inj hbackend
  obtain rfl : result = (.error failure, 1) := hagainst.symm.trans hfailure
  have hreturned : ∀ output, Reply.returned (Json.obj []) = .returned output → IsObject output →
      Legible "A" output := by
    rintro _ ⟨⟩ -
    exact hlegible
  rcases hkept.mpr hreturned with ⟨artifact, h⟩ | ⟨other, h, hother | ⟨h', -⟩⟩
  · cases h
  · cases h
    exact hother
  · cases h'

/-- A diagnostic that is a text instead of an object makes a compilation fail in a way that is not
documented. -/
theorem textDiagnostic_escapes :
    ∃ failure, ((compile {} "S" "A" none).against
        (fun _ calls => (.returned (.obj [("errors", .arr [.str "x"])]), calls + 1)) 0)
        = (.error failure, 1)
      ∧ failure.isOwn = false := by
  exact ⟨.misuse .noSuchMember, rfl, rfl⟩

end Replies

end Compiler
end ReactiveContract
