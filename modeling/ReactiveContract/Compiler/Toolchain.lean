import ReactiveContract.Inquiry
import ReactiveContract.Json.Reader
import ReactiveContract.Options.Basic
import ReactiveContract.Text.Blank
/-! A compiler that is installed on first use. -/
namespace ReactiveContract.Toolchain
open Text

/-- A call of the tools that manage and run compilers. -/
inductive Call where
  | listInstalled
  | install (version : String)
  | compile (version : String)
  deriving DecidableEq, Repr

/-- How the tools that manage compilers behave at the moment. -/
structure Manager where
  installed : Except Failure (List String)
  install : Except Failure Unit

/-- Whether the compiler is known to be installed, and what comes of making sure of it. -/
structure Readiness where
  ready : Bool
  calls : List Call
  result : Traced Unit

/-- Failures of installations and of the system are reported as such; others pass through. -/
def installationFailure (version : String) : Failure → Failure
  | .foreign failure =>
    match failure.family with
    | .installer | .system | .timeout => .service (.notInstallable version failure.text)
    | _ => .foreign failure
  | failure => failure

/-- Makes sure that the compiler is installed. Nothing is asked any more once that is known. -/
def ensureInstalled (o : CompilerOptions) (ready : Bool) (m : Manager) : Readiness :=
  let version := o.solcVersion
  if ready then ⟨true, [], pure ()⟩
  else match m.installed with
    | .error failure =>
      ⟨false, [.listInstalled], Traced.fail (installationFailure version failure)⟩
    | .ok installed =>
      if version ∈ installed then ⟨true, [.listInstalled], pure ()⟩
      else if !o.installMissing.isTruthy then
        ⟨false, [.listInstalled], Traced.fail (.service (.notInstalled version))⟩
      else
        let calls := [.listInstalled, .install version]
        match m.install with
        | .error failure =>
          ⟨false, calls,
            ⟨[.installing version], .error (installationFailure version failure)⟩⟩
        | .ok () => ⟨true, calls, Traced.note (.installing version)⟩

/-- What a failed run of the compiler reports. -/
structure RunReport where
  message : String
  command : List String := []
  returnCode : Option Int := none
  stdout : Option String := none
  stderr : Option String := none
  deriving DecidableEq, Repr

/-- The report in full, without blanks around it. -/
def RunReport.text (r : RunReport) : String :=
  let shown (t : Option String) : String := t.getD "None"
  let command := " ".intercalate r.command
  let code := shown (r.returnCode.map toString)
  trim ("\n".intercalate [
    r.message, "> command: \x60" ++ command ++ "\x60", "> return code: \x60" ++ code ++ "\x60",
    "> stdout:", shown r.stdout, "> stderr:", shown r.stderr])

/-- The output of a failed run, if it is an object with diagnostics. -/
def structuredOutput? (stdout : Option String) : Option Json := do
  let text ← stdout.filter (· ≠ "")
  match Json.read text with
  | .ok (.obj fields) => if Fields.contains fields "errors" then some (.obj fields) else none
  | _ => none

/-- The answer of the compiler, also that of a run which failed with diagnostics. -/
def runResult (version : String) : Except Failure Json → Except Failure Json
  | .ok output => .ok output
  | .error (.foreign failure) =>
    match failure.family with
    | .notInstalled => .error (.service (.notInstalled version))
    | .compilerRun stdout =>
      match structuredOutput? stdout with
      | some output => .ok output
      | none => .error (.service (.outputUnstructured failure.text))
    | .system | .timeout => .error (.service (.notRunnable failure.text))
    | _ => .error (.foreign failure)
  | .error failure => .error failure

/-- One use of the compiler. -/
structure Use where
  ready : Bool
  calls : List Call
  result : Traced Json

/-- Makes sure that the compiler is installed, then runs it. -/
def use (o : CompilerOptions) (ready : Bool) (m : Manager) (run : Except Failure Json) : Use :=
  let made := ensureInstalled o ready m
  match made.result.outcome with
  | .error failure => ⟨made.ready, made.calls, ⟨made.result.notes, .error failure⟩⟩
  | .ok () =>
    ⟨made.ready, made.calls ++ [.compile o.solcVersion],
      ⟨made.result.notes, runResult o.solcVersion run⟩⟩

/-- The compiler as a backend that replies at once. -/
def Use.reply (u : Use) : Reply Json :=
  match u.result.outcome with
  | .ok output => .returned output
  | .error failure => .failed failure

end ReactiveContract.Toolchain
