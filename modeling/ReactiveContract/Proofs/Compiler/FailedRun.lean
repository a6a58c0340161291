import ReactiveContract.Compiler.Toolchain
import ReactiveContract.Proofs.Compilation
/-! Runs of the compiler that fail. One that reports an object with diagnostics counts as a run that
has returned the object; all others are failures of the compiler. -/
namespace ReactiveContract.Toolchain
open Compiler

/-- What a run has written is the text of an object with diagnostics. -/
def Reports (written : Option String) (output : Fields) : Prop :=
  ∃ text, written = some text ∧ Json.read text = .ok (.obj output)
    ∧ Fields.contains output "errors" = true

/-- A compilation with the toolchain as the backend, given how the run of the compiler ends. -/
def compilation (o : CompilerOptions) (ready : Bool) (m : Manager) (source name : String)
    (timeout : Option Quantity) (run : Except Failure Json) : Traced Artifact :=
  (compile o source name timeout).run fun _ =>
    ⟨(use o ready m run).result.notes, .ok (use o ready m run).reply⟩

theorem structuredOutput?_eq_some {written : Option String} {output : Json} :
    structuredOutput? written = some output
      ↔ ∃ fields, Reports written fields ∧ output = .obj fields := by
  unfold structuredOutput?
  rw [Option.bind_eq_bind, Option.bind_eq_some_iff]
  constructor
  · intro h
    obtain ⟨text, htext, h⟩ := h
    obtain ⟨hwritten, -⟩ := Option.filter_eq_some_iff.mp htext
    split at h
    · rename_i fields hread
      obtain ⟨herrors, houtput⟩ := Option.ite_none_right_eq_some.mp h
      exact ⟨fields, ⟨text, hwritten, hread, herrors⟩, (Option.some.inj houtput).symm⟩
    · cases h
  · intro h
    obtain ⟨fields, ⟨text, hwritten, hread, herrors⟩, rfl⟩ := h
    have hne : text ≠ "" := by
      rintro rfl
      cases hread
    refine ⟨text, Option.filter_eq_some_iff.mpr ⟨hwritten, decide_eq_true hne⟩, ?_⟩
    simp only [hread, herrors, if_true]

section FailedRun
variable {version : String} {f : ForeignFailure} {written : Option String}

private theorem runResult_of_reports (hf : f.family = .compilerRun written) {output : Fields}
    (h : Reports written output) : runResult version (.error (.foreign f)) = .ok (.obj output) := by
  have hread : structuredOutput? written = some (.obj output) :=
    structuredOutput?_eq_some.mpr ⟨output, h, rfl⟩
  simp only [runResult, hf, hread]

private theorem runResult_of_not_reports (hf : f.family = .compilerRun written)
    (h : ∀ output, ¬ Reports written output) :
    runResult version (.error (.foreign f)) = .error (.service (.outputUnstructured f.text)) := by
  have hread : structuredOutput? written = none := by
    refine Option.eq_none_iff_forall_ne_some.mpr fun output houtput => ?_
    obtain ⟨fields, hfields, -⟩ := structuredOutput?_eq_some.mp houtput
    exact h fields hfields
  simp only [runResult, hf, hread]

end FailedRun

variable {o : CompilerOptions} {ready : Bool} {m : Manager}

/-- Only the answer of the compiler counts of a run. -/
private theorem use_congr {run other : Except Failure Json}
    (h : runResult o.solcVersion run = runResult o.solcVersion other) :
    use o ready m run = use o ready m other := by
  unfold use
  rw [h]

/-- A compiler that is there is run, and the answer of the run is the reply. -/
private theorem reply_use (hm : (ensureInstalled o ready m).result.outcome = .ok ())
    (run : Except Failure Json) :
    (use o ready m run).reply
      = match runResult o.solcVersion run with
        | .ok output => .returned output
        | .error failure => .failed failure := by
  have hresult : (use o ready m run).result.outcome = runResult o.solcVersion run := by
    simp only [use, hm]
  cases hrun : runResult o.solcVersion run with
  | ok output => simp only [Use.reply, hresult, hrun]
  | error failure => simp only [Use.reply, hresult, hrun]

/-- A backend's failure of its own is what a compilation fails with that gets as far as the
backend. -/
private theorem outcome_run_of_failed {source name : String} {timeout : Option Quantity}
    {answer : Json → Traced (Reply Json)} {fault : ServiceFault}
    (h : ∀ question, (answer question).outcome = .ok (.failed (.service fault)))
    {limit : Quantity} (hcheck : checkCall o source timeout = .ok limit) :
    ((compile o source name timeout).run answer).outcome = .error (.service fault) := by
  rw [compile, hcheck]
  dsimp only [Inquiry.run]
  rw [Traced.outcome_bind_of_ok rfl, Traced.outcome_bind_of_ok (h _)]
  rfl

private theorem outcome_run_of_refused {source name : String} {timeout : Option Quantity}
    {v : Violation}
    (hcheck : checkCall o source timeout = .error v) (answer : Json → Traced (Reply Json)) :
    ((compile o source name timeout).run answer).outcome = .error (.violation v) := by
  rw [compile, hcheck]
  rfl

/-- A run that fails and reports diagnostics is handled like a run that returns what it reports. If
it reports none, the compiler has failed, and so does every compilation that is not refused before
the compiler is asked. -/
theorem compilation_of_failedRun (o : CompilerOptions) (ready : Bool) (m : Manager)
    (source name : String) (timeout : Option Quantity) {f : ForeignFailure}
    {written : Option String} (hf : f.family = .compilerRun written)
    (hm : (ensureInstalled o ready m).result.outcome = .ok ()) :
    (∀ output, Reports written output →
        compilation o ready m source name timeout (.error (.foreign f))
          = compilation o ready m source name timeout (.ok (.obj output)))
      ∧ ((∀ output, ¬ Reports written output) →
        (∀ limit, checkCall o source timeout = .ok limit →
          (compilation o ready m source name timeout (.error (.foreign f))).outcome
            = .error (.service (.outputUnstructured f.text)))
        ∧ ∀ v, checkCall o source timeout = .error v →
          (compilation o ready m source name timeout (.error (.foreign f))).outcome
            = .error (.violation v)) := by
  refine ⟨fun output h => ?_, fun h => ⟨fun limit hcheck => ?_, fun v hcheck => ?_⟩⟩
  · have hrun : use o ready m (.error (.foreign f)) = use o ready m (.ok (.obj output)) :=
      use_congr (runResult_of_reports hf h)
    unfold compilation
    rw [hrun]
  · have hreply : (use o ready m (.error (.foreign f))).reply
        = .failed (.service (.outputUnstructured f.text)) := by
      rw [reply_use hm, runResult_of_not_reports hf h]
    exact outcome_run_of_failed (fun _ => congrArg Except.ok hreply) hcheck
  · exact outcome_run_of_refused hcheck _

/-- What the compiler writes for a contract `A` with a warning. -/
def warned : String :=
  "\x7b\"errors\": [\x7b\"message\": \"w\"\x7d], \"contracts\": \x7b\"Contract.sol\": \x7b\"A\": \x7b\n"
    ++ "  \"evm\": \x7b\"bytecode\": \x7b\"object\": \"00\"\x7d\x7d\x7d\x7d\x7d\x7d\n"

/-- A failed run that has written a text. -/
def failedRun (written : String) : ForeignFailure :=
  ⟨"SolcError", .compilerRun (some written), "An error occurred during execution"⟩

def listing : Manager := ⟨.ok ["0.8.22", "0.8.23"], .error (.misuse .outOfBounds)⟩

/-- A failed run that has written the contract and a warning compiles it, like a run that returns
them; one that has written an array does not. -/
theorem failedRun_warned :
    (ensureInstalled {} false listing).result.outcome = .ok ()
      ∧ (∃ output, Reports (some warned) output
        ∧ compilation {} false listing "S" "A" none (.error (.foreign (failedRun warned)))
          = compilation {} false listing "S" "A" none (.ok (.obj output)))
      ∧ (compilation {} false listing "S" "A" none
          (.error (.foreign (failedRun warned)))).outcome.toOption.bind (·.compiledBytecode)
        = some "0x00"
      ∧ (∀ output, ¬ Reports (some "[]") output)
      ∧ (compilation {} false listing "S" "A" none (.error (.foreign (failedRun "[]")))).outcome
        = .error (.service (.outputUnstructured "An error occurred during execution")) := by
  have hm : (ensureInstalled {} false listing).result.outcome = .ok () := rfl
  have hwarned : (structuredOutput? (some warned)).isSome = true := by decide +kernel
  have harray : (structuredOutput? (some "[]")).isSome = false := by decide +kernel
  obtain ⟨read, hread⟩ := Option.isSome_iff_exists.mp hwarned
  obtain ⟨output, hreports, -⟩ := structuredOutput?_eq_some.mp hread
  have hnone : ∀ output, ¬ Reports (some "[]") output := by
    intro output h
    rw [structuredOutput?_eq_some.mpr ⟨output, h, rfl⟩] at harray
    cases harray
  have hlike := (compilation_of_failedRun {} false listing "S" "A" none
    (f := failedRun warned) rfl hm).1 output hreports
  have hfails := ((compilation_of_failedRun {} false listing "S" "A" none
    (f := failedRun "[]") rfl hm).2 hnone).1 _ rfl
  exact ⟨hm, ⟨output, hreports, hlike⟩, by decide +kernel, hnone, hfails⟩

end ReactiveContract.Toolchain
