import Mathlib.Data.List.Perm.Basic
import ReactiveContract.Proofs.Compiler.Legibility
/-! How the diagnostics of a compilation are told apart: each of them is kept, the first error among
them decides, and without an error they have no influence on what is taken out of the output. -/
namespace ReactiveContract.Compiler
open Outcome Document

/-- The diagnostics of an output as they stand in it. -/
def rawDiagnostics (output : Fields) : List Json :=
  match Fields.get? output "errors" with
  | some (.arr items) => items
  | _ => []

/-- There is no value for a key, or one that is empty in any sense. -/
def Silent (raw : Fields) (key : String) : Prop :=
  ∀ v, Fields.get? raw key = some v → v.isTruthy = false

/-- The message of a diagnostic: the short one, else the formatted one, else a stand-in. -/
inductive Says (raw : Fields) : String → Prop
  | short {s : String} (hs : s ≠ "") (h : Fields.get? raw "message" = some (.str s)) : Says raw s
  | formatted {s : String} (hshort : Silent raw "message") (hs : s ≠ "")
    (h : Fields.get? raw "formattedMessage" = some (.str s)) : Says raw s
  | neither (hshort : Silent raw "message") (hformatted : Silent raw "formattedMessage") :
    Says raw "unknown compiler diagnostic"

/-- A diagnostic as it is read off an entry of an output. -/
inductive Describes : Json → Diagnostic → Prop
  | object {raw : Fields} {d : Diagnostic}
    (severity : d.severity = .error ↔ Fields.get? raw "severity" = some (.str "error"))
    (message : Says raw d.message) (location : d.location = Diagnostic.locationOf raw) :
    Describes (.obj raw) d

/-- Errors and warnings make up all diagnostics, each in the order of these. -/
structure Complementary (ds : List Diagnostic) : Prop where
  errors_sublist : (Diagnostic.errors ds).Sublist ds
  warnings_sublist : (Diagnostic.warnings ds).Sublist ds
  errors_append_warnings : (Diagnostic.errors ds ++ Diagnostic.warnings ds).Perm ds
  errors_severity : ∀ d ∈ Diagnostic.errors ds, d.severity = .error
  warnings_severity : ∀ d ∈ Diagnostic.warnings ds, d.severity = .warning

section Reading
variable {raw : Fields}

theorem silent_iff {key : String} :
    Silent raw key ↔ (Fields.get? raw key).filter Json.isTruthy = none := by
  simp [Silent, Option.filter_eq_none_iff]

private theorem says_of_messageOf {message : String} (h : Diagnostic.messageOf raw = .str message) :
    Says raw message := by
  have hstr {key : String} {v : Json}
      (hv : (Fields.get? raw key).filter Json.isTruthy = some v) (hm : v = .str message) :
      message ≠ "" ∧ Fields.get? raw key = some (.str message) := by
    subst hm
    obtain ⟨hget, htruthy⟩ := Option.filter_eq_some_iff.mp hv
    exact ⟨by simpa [Json.isTruthy] using htruthy, hget⟩
  unfold Diagnostic.messageOf at h
  dsimp only at h
  cases hshort : (Fields.get? raw "message").filter Json.isTruthy with
  | some v =>
    rw [hshort] at h
    obtain ⟨hs, hget⟩ := hstr hshort h
    exact .short hs hget
  | none =>
    cases hformatted : (Fields.get? raw "formattedMessage").filter Json.isTruthy with
    | some v =>
      rw [hshort, hformatted] at h
      obtain ⟨hs, hget⟩ := hstr hformatted h
      exact .formatted (silent_iff.mpr hshort) hs hget
    | none =>
      rw [hshort, hformatted] at h
      obtain rfl := Json.str.inj h
      exact .neither (silent_iff.mpr hshort) (silent_iff.mpr hformatted)

private theorem describes_of_ofOutput {j : Json} {d : Diagnostic}
    (h : Diagnostic.ofOutput j = .ok d) :
    Describes j d := by
  cases j with
  | obj raw =>
    obtain ⟨message, hmessage, rfl⟩ := ofOutput_obj_eq_ok.mp h
    exact .object isError_iff (says_of_messageOf hmessage) rfl
  | _ => cases h

private theorem itemsOf_errors {P : Json → Prop} {output : Fields}
    (h : Along ["errors"] (IsList P) (.obj output)) :
    itemsOf ((Fields.get? output "errors").filter Json.isTruthy)
      = .ok (rawDiagnostics output) := by
  rw [along_obj_iff] at h
  unfold rawDiagnostics
  cases hget : Fields.get? output "errors" with
  | none => rfl
  | some v =>
    cases htruthy : v.isTruthy with
    | true =>
      obtain ⟨items, rfl, -⟩ := h v (by rw [hget, Option.filter_some, htruthy]; rfl)
      rw [Option.filter_some, htruthy]
      rfl
    | false =>
      rw [Option.filter_some, htruthy]
      cases v with
      | arr items =>
        cases items with
        | nil => rfl
        | cons j rest => cases htruthy
      | _ => rfl

/-- Every diagnostic of an output is read, in order. -/
theorem exists_diagnostics {output : Fields}
    (h : Along ["errors"] (IsList HasMessage) (.obj output)) :
    ∃ ds, diagnosticsOf (.obj output) = .ok ds
      ∧ List.Forall₂ Describes (rawDiagnostics output) ds := by
  obtain ⟨ds, hds⟩ := along_errors_iff.mp h
  refine ⟨ds, hds, ?_⟩
  obtain ⟨found, hfound, hds⟩ := bind_eq_ok.mp hds
  obtain rfl := Except.ok.inj hfound
  obtain ⟨items, hitems, hds⟩ := bind_eq_ok.mp hds
  obtain rfl := Except.ok.inj (hitems.symm.trans (itemsOf_errors h))
  exact (map_eq_map_iff.mp (readAll_eq_ok.mp hds)).imp fun _ _ => describes_of_ofOutput

end Reading

section Partition
variable {ds : List Diagnostic}

theorem Diagnostic.warnings_eq (ds : List Diagnostic) :
    warnings ds = ds.filter fun d => !decide (d.severity = .error) := by
  refine List.filter_congr fun d _ => ?_
  cases d.severity <;> rfl

private theorem complementary (ds : List Diagnostic) : Complementary ds where
  errors_sublist := List.filter_sublist
  warnings_sublist := List.filter_sublist
  errors_append_warnings := by
    rw [Diagnostic.warnings_eq]
    exact List.filter_append_perm _ ds
  errors_severity d hd := of_decide_eq_true (List.mem_filter.mp hd).2
  warnings_severity d hd := of_decide_eq_true (List.mem_filter.mp hd).2

private theorem warnings_of_errors_eq_nil (h : Diagnostic.errors ds = []) :
    Diagnostic.warnings ds = ds := by
  rw [Diagnostic.warnings_eq, List.filter_eq_self]
  intro d hd
  simpa using List.filter_eq_nil_iff.mp h d hd

end Partition

section Extraction
variable {source name : String} {output other : Fields}

/-- Warnings are handed on, and only the contracts of an output are looked at. -/
private theorem extract_congr (h : Fields.get? other "contracts" = Fields.get? output "contracts")
    (warnings others : List Diagnostic) :
    (extract source name others (.obj other)).outcome
      = (fun a : Artifact => { a with warnings := others })
        <$> (extract source name warnings (.obj output)).outcome := by
  simp only [extract, descend, fieldOrEmpty_obj, h, Traced.outcome_bind, map_bind]
  rfl

private theorem warnings_of_extract {j : Json} {warnings : List Diagnostic} {a : Artifact}
    (h : (extract source name warnings j).outcome = .ok a) : a.warnings = warnings := by
  obtain ⟨contracts, -, h⟩ := Traced.outcome_bind_eq_ok.mp h
  obtain ⟨contract, -, h⟩ := Traced.outcome_bind_eq_ok.mp h
  obtain ⟨code, -, h⟩ := Traced.outcome_bind_eq_ok.mp h
  obtain ⟨abi, -, h⟩ := Traced.outcome_bind_eq_ok.mp h
  obtain rfl := Except.ok.inj h
  rfl

/-- Names in the order of their code points. -/
def Sorted (names : List String) : Prop :=
  names.Pairwise fun a b => Text.isBefore b a = false

private theorem sorted_sortNames (names : List String) : Sorted (sortNames names) := by
  have hsorted : (sortNames names).Pairwise fun a b => (!Text.isBefore b a) = true := by
    apply List.pairwise_mergeSort
    · intro a b c hab hbc
      simp only [Text.isBefore, Bool.not_eq_true', List.lex_eq_false_iff_ge] at hab hbc ⊢
      exact List.le_trans hab hbc
    · intro a b
      simp only [Text.isBefore, Bool.or_eq_true, Bool.not_eq_true', List.lex_eq_false_iff_ge]
      exact List.le_total _ _
  simpa only [Sorted, Bool.not_eq_true'] using hsorted

/-- The failure to find a contract, which lists the names that there are in order. -/
def NotFound (name : String) (failure : Failure) : Prop :=
  ∃ available, Sorted available ∧ failure = .contractNotFound name available

private theorem findContract_notFound (found : Option Json) :
    FailsWith (fun failure => failure.OfCompilation → NotFound name failure)
      (findContract name found).outcome := by
  have hmissing (names : List String) :
      FailsWith (fun failure => failure.OfCompilation → NotFound name failure)
        (missing name names).outcome :=
    failsWith_error.mpr fun _ => ⟨_, sorted_sortNames names, rfl⟩
  have hmisuse : FailsWith (fun failure => failure.OfCompilation → NotFound name failure)
      (.error (.misuse .wrongType) : Except Failure Json) :=
    failsWith_error.mpr fun h => nomatch h
  unfold findContract
  split
  · exact hmissing []
  · split
    · exact failsWith_ok _
    · exact hmissing _
  · split
    · exact hmisuse
    · exact hmissing _
  · split
    · split
      · exact hmisuse
      · exact hmissing _
    · exact hmisuse
  · exact hmisuse

/-- A contract that is not found is the only documented failure once there are no errors. -/
theorem extract_notFound (warnings : List Diagnostic) (j : Json) :
    FailsWith (fun failure => failure.OfCompilation → NotFound name failure)
      (extract source name warnings j).outcome := by
  have hstray {α : Type} {x : Except Failure α} (h : Stray x) :
      FailsWith (fun failure => failure.OfCompilation → NotFound name failure) x :=
    fun failure hfailure hkept => absurd hkept (h failure hfailure)
  refine Traced.failsWith_bind.mpr ⟨hstray (stray_descend _ j), fun contracts _ => ?_⟩
  refine Traced.failsWith_bind.mpr ⟨findContract_notFound contracts, fun contract _ => ?_⟩
  refine Traced.failsWith_bind.mpr ⟨hstray (stray_bytecodeOf name contract), fun code _ => ?_⟩
  exact Traced.failsWith_bind.mpr ⟨hstray (stray_abiOf contract), fun abi _ => failsWith_ok _⟩

end Extraction

section Outcome
variable {source name : String} {output : Fields} {ds : List Diagnostic}

theorem exists_compilation_iff (hds : diagnosticsOf (.obj output) = .ok ds) :
    (∃ message all, (readOutput source name (.obj output)).outcome
        = .error (.compilation message all)) ↔ ReportsError (.obj output) := by
  rw [← errors_ne_nil_iff hds]
  cases h : Diagnostic.errors ds with
  | cons first rest =>
    exact iff_of_true ⟨first.message, ds, readOutput_of_errors hds h⟩ (List.cons_ne_nil _ _)
  | nil =>
    refine iff_of_false ?_ (fun hne => hne rfl)
    rintro ⟨message, all, hfailed⟩
    rw [readOutput_of_no_errors hds h] at hfailed
    obtain ⟨available, -, hnot⟩ := extract_notFound _ _ _ hfailed (.compilation message all)
    cases hnot

private theorem compilation_eq (hds : diagnosticsOf (.obj output) = .ok ds) {message : String}
    {all : List Diagnostic}
    (h : (readOutput source name (.obj output)).outcome = .error (.compilation message all)) :
    all = ds ∧ ∃ first, ds.find? (·.severity = .error) = some first ∧ message = first.message := by
  have hne := (errors_ne_nil_iff hds).mpr ((exists_compilation_iff hds).mp ⟨message, all, h⟩)
  obtain ⟨first, rest, herrors⟩ := List.exists_cons_of_ne_nil hne
  rw [readOutput_of_errors hds herrors] at h
  obtain ⟨rfl, rfl⟩ := Failure.compilation.inj (Except.error.inj h)
  refine ⟨rfl, first, ?_, rfl⟩
  rw [← List.head?_filter]
  exact congrArg List.head? herrors

theorem readOutput_of_not_reportsError (hds : diagnosticsOf (.obj output) = .ok ds)
    (h : ¬ ReportsError (.obj output)) :
    (readOutput source name (.obj output)).outcome
      = (extract source name ds (.obj output)).outcome := by
  have hnone : Diagnostic.errors ds = [] := not_not.mp (mt (errors_ne_nil_iff hds).mp h)
  rw [readOutput_of_no_errors hds hnone, warnings_of_errors_eq_nil hnone]

end Outcome

/-- Diagnostics are told apart without loss. A compilation fails exactly if one of them is marked as
an error, with the message of the first such and with all of them. Else they become the warnings of
the artifact, and other diagnostics without an error among them change nothing but these. -/
theorem readOutput_classifies (source name : String) {output : Fields}
    (h : Along ["errors"] (IsList HasMessage) (.obj output)) :
    ∃ ds, List.Forall₂ Describes (rawDiagnostics output) ds ∧ Complementary ds
      ∧ ((∃ message all, (readOutput source name (.obj output)).outcome
          = .error (.compilation message all)) ↔ ReportsError (.obj output))
      ∧ (∀ message all,
          (readOutput source name (.obj output)).outcome = .error (.compilation message all) →
          all = ds ∧ ∃ first, ds.find? (·.severity = .error) = some first
            ∧ message = first.message)
      ∧ (¬ ReportsError (.obj output) →
        (Along ["contracts", sourceFile] (Offers name) (.obj output) →
          (∃ a, (readOutput source name (.obj output)).outcome = .ok a ∧ a.warnings = ds)
          ∨ ∃ failure, (readOutput source name (.obj output)).outcome = .error failure
            ∧ NotFound name failure)
        ∧ ∀ other : Fields,
          (∀ key, key ≠ "errors" → Fields.get? other key = Fields.get? output key) →
          Along ["errors"] (IsList HasMessage) (.obj other) → ¬ ReportsError (.obj other) →
          ∃ others, List.Forall₂ Describes (rawDiagnostics other) others
            ∧ (readOutput source name (.obj other)).outcome
              = (fun a : Artifact => { a with warnings := others })
                <$> (readOutput source name (.obj output)).outcome) := by
  obtain ⟨ds, hds, hread⟩ := exists_diagnostics h
  refine ⟨ds, hread, complementary ds, exists_compilation_iff hds,
    fun _ _ => compilation_eq hds, fun hclean => ⟨fun hcontracts => ?_, ?_⟩⟩
  · rw [readOutput_of_not_reportsError hds hclean]
    cases hfound : (extract source name ds (.obj output)).outcome with
    | ok a => exact .inl ⟨a, rfl, warnings_of_extract hfound⟩
    | error failure =>
      exact .inr ⟨failure, rfl,
        extract_notFound ds _ failure hfound (kept_extract.mpr hcontracts failure hfound)⟩
  · intro other hsame hother hclean'
    obtain ⟨others, hothers, hread'⟩ := exists_diagnostics hother
    refine ⟨others, hread', ?_⟩
    rw [readOutput_of_not_reportsError hds hclean, readOutput_of_not_reportsError hothers hclean']
    exact extract_congr (hsame "contracts" (by decide)) ds others

/-- An output with a contract and no diagnostics. -/
def quietOutput : Fields :=
  [("contracts", .obj [(sourceFile, .obj [("A", .obj [("abi", .arr []),
    ("evm", .obj [("bytecode", .obj [("object", .str "00")])])])])])]

/-- The same output with a diagnostic that is neither an error nor a warning. -/
def chattyOutput : Fields :=
  ("errors", .arr [.obj [("severity", .str "info"), ("formattedMessage", .str "Note")]])
    :: quietOutput

theorem quietOutput_unchanged :
    Along ["errors"] (IsList HasMessage) (.obj quietOutput)
      ∧ ¬ ReportsError (.obj quietOutput)
      ∧ Along ["contracts", sourceFile] (Offers "A") (.obj quietOutput)
      ∧ Along ["errors"] (IsList HasMessage) (.obj chattyOutput)
      ∧ ¬ ReportsError (.obj chattyOutput)
      ∧ ∃ a others, (readOutput "S" "A" (.obj quietOutput)).outcome = .ok a ∧ a.warnings = []
        ∧ List.Forall₂ Describes (rawDiagnostics chattyOutput) others
        ∧ (readOutput "S" "A" (.obj chattyOutput)).outcome
          = .ok { a with warnings := others } := by
  have hnone : diagnosticsOf (.obj quietOutput) = .ok [] := rfl
  have hnote : diagnosticsOf (.obj chattyOutput)
      = .ok [{ severity := .warning, message := "Note" }] := rfl
  have hquiet := along_errors_iff.mpr ⟨_, hnone⟩
  have hchatty := along_errors_iff.mpr ⟨_, hnote⟩
  have hclean : ¬ ReportsError (.obj quietOutput) :=
    fun h => (errors_ne_nil_iff hnone).mpr h rfl
  have hclean' : ¬ ReportsError (.obj chattyOutput) :=
    fun h => (errors_ne_nil_iff hnote).mpr h rfl
  have hcontracts : Along ["contracts", sourceFile] (Offers "A") (.obj quietOutput) :=
    (@kept_extract "A" "S" [] (.obj quietOutput)).mp (failsWith_ok _)
  have hsame (key : String) (hkey : key ≠ "errors") :
      Fields.get? chattyOutput key = Fields.get? quietOutput key := by
    rw [chattyOutput, Fields.get?, List.lookup_cons, beq_false_of_ne hkey]
    rfl
  obtain ⟨ds, hds, -, -, -, hrest⟩ := readOutput_classifies "S" "A" hquiet
  obtain rfl : ds = [] := List.forall₂_nil_left_iff.mp hds
  obtain ⟨hfound, hother⟩ := hrest hclean
  obtain ⟨others, hothers, heq⟩ := hother chattyOutput hsame hchatty hclean'
  rcases hfound hcontracts with ⟨a, ha, hwarnings⟩ | ⟨failure, hfailure, -⟩
  · rw [ha] at heq
    exact ⟨hquiet, hclean, hcontracts, hchatty, hclean', a, others, ha, hwarnings, hothers, heq⟩
  · cases hfailure

/-- Both messages of a diagnostic count, and only the exact word makes it an error. -/
example : (readOutput "S" "A" (.obj [("errors", .arr [
    .obj [("severity", .str "Error"), ("message", .str "Odd")],
    .obj [("severity", .str "error"), ("message", .str ""), ("formattedMessage", .str "Bad")]])])
    ).outcome = .error (.compilation "Bad"
      [{ severity := .warning, message := "Odd" }, { severity := .error, message := "Bad" }]) := rfl

end ReactiveContract.Compiler
