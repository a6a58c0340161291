import ReactiveContract.Generation
import ReactiveContract.Proofs.Contract.Emission
import ReactiveContract.Proofs.Inquiry
import ReactiveContract.Proofs.Solidity.Call
/-! Compiling what was generated: the backend is asked once, after everything else has been
checked, and not at all if a check fails. -/
namespace ReactiveContract
open Outcome Solidity

private theorem Text.isBlank_of_trim_eq_empty {s : String} (h : trim s = "") :
    ∀ c ∈ s.toList, isBlank c = true := by
  obtain ⟨before, after, hsplit, hbefore, hafter⟩ := exists_trimming isBlank s.toList
  have hnil : trimming isBlank s.toList = [] := by
    have hl := congrArg String.toList h
    rwa [trim, String.toList_ofList] at hl
  rw [hnil, List.append_nil] at hsplit
  rw [hsplit]
  exact List.forall_mem_append.mpr ⟨hbefore, hafter⟩

/-- A source begins with a comment, so it is not blank. -/
private theorem Plan.trim_render_ne_empty (p : Plan) : Text.trim p.render ≠ "" := by
  intro h
  have hcomment : '/' ∈ preamble.toList := by
    rw [preamble, joinLines_cons (List.cons_ne_nil _ _)]
    exact List.mem_append_left _ (by decide)
  have hslash : '/' ∈ p.render.toList := by
    rw [render, joinLines_cons (List.cons_ne_nil _ _)]
    exact List.mem_append_left _ hcomment
  have hblank := Text.isBlank_of_trim_eq_empty h '/' hslash
  exact absurd hblank (by decide)

private theorem Spec.trim_sourceText_ne_empty {spec : Spec} {a : Artifact}
    (h : spec.emit.outcome = .ok a) : Text.trim a.sourceText ≠ "" := by
  obtain ⟨plan, -, rfl⟩ := emit_eq_ok.mp h
  exact plan.trim_render_ne_empty

/-- The value at the end of a path of keys. -/
def Json.valueAt? : List String → Json → Option Json
  | [], j => some j
  | key :: keys, j => (j.get? key).bind (valueAt? keys)

namespace Compiler

/-- A request for the interface and the bytecode of all contracts of a source, with the optimizer
and the version as they are configured. -/
structure Asks (o : CompilerOptions) (source : String) (request : Json) : Prop where
  language : request.valueAt? ["language"] = some (.str "Solidity")
  source : request.valueAt? ["sources", sourceFile, "content"] = some (.str source)
  selection : request.valueAt? ["settings", "outputSelection", "*", "*"]
    = some (.arr [.str "abi", .str "evm.bytecode.object"])
  optimizer : request.valueAt? ["settings", "optimizer"]
    = if o.optimize.isTruthy then
        some (.obj [("enabled", .bool true), ("runs", o.optimizeRuns.toJson)])
      else none
  version : request.valueAt? ["settings", "evmVersion"]
    = if o.evmVersion.isTruthy then some o.evmVersion else none

theorem asks_request (o : CompilerOptions) (source : String) :
    Asks o source (request o source) := by
  refine ⟨rfl, rfl, rfl, ?_, ?_⟩
  · unfold request
    cases o.optimize.isTruthy <;> cases o.evmVersion.isTruthy <;> rfl
  · unfold request
    cases o.optimize.isTruthy <;> cases o.evmVersion.isTruthy <;> rfl

/-- A source that is not blank is compiled with the given time to wait, or the configured one. -/
theorem compile_eq_ask (o : CompilerOptions) {source : String} (h : Text.trim source ≠ "")
    (name : String) (timeout : Option Quantity)
    (ht : ∀ limit, timeout = some limit → limit.isAtMost 0 = false) :
    compile o source name timeout
      = .ask [.compiling (Text.pointCount source) name] (request o source)
        (conclude source name (timeout.getD o.timeout)) := by
  have hcheck : checkCall o source timeout = .ok (timeout.getD o.timeout) := by
    unfold checkCall
    rw [if_neg h]
    cases timeout with
    | none => rfl
    | some limit => simp [ht limit rfl]
  rw [compile, hcheck]

theorem await_eq_ok {reply : Reply Json} {what : String} {limit : Quantity} {output : Json} :
    (reply.await what limit).outcome = .ok output ↔ reply = .returned output := by
  unfold Reply.await
  cases reply with
  | returned value => simp [eq_comm]
  | hung => simp [Traced.outcome_bind_eq_ok]
  | failed failure =>
    cases failure with
    | foreign failure =>
      dsimp only
      split <;> simp [Traced.outcome_bind_eq_ok]
    | _ => simp

theorem classify_eq_ok {x : Traced Json} {output : Json} :
    (classify x).outcome = .ok output ↔ x.outcome = .ok output := by
  unfold classify
  cases hx : x.outcome with
  | ok value => simp [hx]
  | error failure =>
    dsimp only
    split <;> simp [hx]

/-- There is an artifact only if the backend has returned an output with the contract. -/
theorem conclude_eq_ok {source name : String} {limit : Quantity} {reply : Reply Json}
    {c : Artifact} :
    (conclude source name limit reply).outcome = .ok c
      ↔ ∃ output, reply = .returned output ∧ (readOutput source name output).outcome = .ok c := by
  rw [conclude, Traced.outcome_bind_eq_ok]
  simp only [classify_eq_ok, await_eq_ok]

/-- The first error among the diagnostics is what a compilation fails with. -/
theorem readOutput_of_errors {source name : String} {output : Fields} {ds : List Diagnostic}
    (hds : diagnosticsOf (.obj output) = .ok ds) {first : Diagnostic} {rest : List Diagnostic}
    (h : Diagnostic.errors ds = first :: rest) :
    (readOutput source name (.obj output)).outcome = .error (.compilation first.message ds) := by
  have hread : (Traced.ofExcept (diagnosticsOf (.obj output))).outcome = .ok ds := hds
  rw [readOutput, Traced.outcome_bind_of_ok hread, h]
  rfl

theorem readOutput_of_no_errors {source name : String} {output : Fields} {ds : List Diagnostic}
    (hds : diagnosticsOf (.obj output) = .ok ds) (h : Diagnostic.errors ds = []) :
    (readOutput source name (.obj output)).outcome
      = (extract source name (Diagnostic.warnings ds) (.obj output)).outcome := by
  have hread : (Traced.ofExcept (diagnosticsOf (.obj output))).outcome = .ok ds := hds
  rw [readOutput, Traced.outcome_bind_of_ok hread, h]
  dsimp only
  split <;> rfl

/-- An output with an error among its diagnostics has no artifact. -/
private theorem readOutput_of_error {source name : String} {output : Json} {ds : List Diagnostic}
    {d : Diagnostic} (hds : diagnosticsOf output = .ok ds) (hd : d ∈ ds)
    (he : d.severity = .error) (c : Artifact) :
    (readOutput source name output).outcome ≠ .ok c := by
  have herror : d ∈ Diagnostic.errors ds := List.mem_filter.mpr ⟨hd, by simp [he]⟩
  cases output with
  | obj fields =>
    obtain ⟨first, rest, hfound⟩ := List.exists_cons_of_ne_nil (List.ne_nil_of_mem herror)
    rw [readOutput_of_errors hds hfound]
    nofun
  | _ => cases hds

private theorem markedBytecode_eq (code : String) :
    markedBytecode code = "" ∨ ∃ digits, markedBytecode code = "0x" ++ digits := by
  unfold markedBytecode
  by_cases hempty : code = ""
  · exact .inl (by simp [hempty])
  · right
    by_cases hmark : "0x".isPrefixOf code = true
    · obtain ⟨cs, hcs⟩ := String.startsWith_string_iff.mp hmark
      refine ⟨String.ofList cs, ?_⟩
      apply String.toList_injective
      simp [hmark, ← hcs]
    · exact ⟨code, by simp [hempty, hmark]⟩

private theorem extract_of_readOutput {source name : String} {output : Json} {c : Artifact}
    (h : (readOutput source name output).outcome = .ok c) :
    ∃ warnings, (extract source name warnings output).outcome = .ok c := by
  cases output with
  | obj fields =>
    obtain ⟨ds, hds, -⟩ := Traced.outcome_bind_eq_ok.mp h
    cases herrors : Diagnostic.errors ds with
    | nil => exact ⟨Diagnostic.warnings ds, (readOutput_of_no_errors hds herrors).symm.trans h⟩
    | cons first rest =>
      rw [readOutput_of_errors hds herrors] at h
      cases h
  | _ => cases h

/-- The bytecode of an artifact is empty or begins with the mark of hexadecimal digits. -/
private theorem bytecode_of_readOutput {source name : String} {output : Json} {c : Artifact}
    (h : (readOutput source name output).outcome = .ok c) :
    ∃ code, c.compiledBytecode = some code ∧ (code = "" ∨ ∃ digits, code = "0x" ++ digits) := by
  obtain ⟨warnings, h⟩ := extract_of_readOutput h
  obtain ⟨contracts, -, h⟩ := Traced.outcome_bind_eq_ok.mp h
  obtain ⟨contract, -, h⟩ := Traced.outcome_bind_eq_ok.mp h
  obtain ⟨code, hcode, h⟩ := Traced.outcome_bind_eq_ok.mp h
  obtain ⟨abi, -, h⟩ := Traced.outcome_bind_eq_ok.mp h
  rw [Traced.outcome_pure, Except.ok.injEq] at h
  refine ⟨code, by rw [← h], ?_⟩
  obtain ⟨object, -, hcode⟩ := Traced.outcome_bind_eq_ok.mp hcode
  dsimp only at hcode
  split at hcode
  · simp at hcode
  · obtain ⟨-, -, hcode⟩ := Traced.outcome_bind_eq_ok.mp hcode
    split at hcode
    · rw [Traced.outcome_pure, Except.ok.injEq] at hcode
      rw [← hcode]
      exact markedBytecode_eq _
    · simp at hcode

end Compiler

namespace Submission

/-- The artifact with what the compiler has made of it. -/
def merged (a c : Artifact) : Artifact :=
  { a with
    compiledAbi := c.compiledAbi
    compiledBytecode := c.compiledBytecode
    warnings := c.warnings }

variable {o : Options} {s : Submission}

theorem artifact_eq_error {failure : Failure} :
    (s.artifact o).outcome = .error failure
      ↔ (s.toSpec o.generator.callbackGasLimit).outcome = .error failure
        ∨ ∃ spec, (s.toSpec o.generator.callbackGasLimit).outcome = .ok spec
          ∧ spec.emit.outcome = .error failure :=
  Traced.outcome_bind_eq_error

private theorem generate_of_error {failure : Failure}
    (h : (s.artifact o).outcome = .error failure) :
    (s.generate o).outcome = .error failure :=
  Traced.outcome_bind_eq_error.mpr (.inl h)

/-- What becomes of an emitted source: one question, whose reply decides. -/
private theorem against_of_ok {σ : Type} (backend : Json → σ → Reply Json × σ) (start : σ)
    {a : Artifact} (h : (s.artifact o).outcome = .ok a) (hsource : Text.trim a.sourceText ≠ "") :
    (s.generateAndCompile o).against backend start
      = ((Compiler.conclude a.sourceText a.contractName o.compiler.timeout
          (backend (Compiler.request o.compiler a.sourceText) start).1).outcome.map (merged a),
        (backend (Compiler.request o.compiler a.sourceText) start).2) := by
  have hmap : ∀ x : Except Failure Artifact,
      (x.bind fun c => (pure (merged a c) : Traced Artifact).outcome) = x.map (merged a) := by
    intro x
    cases x <;> rfl
  rw [generateAndCompile, Inquiry.against_after_of_ok h, Inquiry.against_andThen,
    Compiler.compile_eq_ask _ hsource _ none nofun]
  exact congrArg (·, _) (hmap _)

/-- If a request is refused or its contract cannot be emitted, the backend stays as it is, and the
failure is the one of the generation alone. Otherwise the backend is asked once, for the emitted
source. There is an artifact exactly if it returns an output that has the contract; the artifact is
the emitted one with the interface, the bytecode and the warnings that the output gives. -/
theorem generateAndCompile_asks_once {σ : Type} (o : Options) (s : Submission)
    (backend : Json → σ → Reply Json × σ) (start : σ) :
    (∀ failure,
      ((s.toSpec o.generator.callbackGasLimit).outcome = .error failure
        ∨ ∃ spec, (s.toSpec o.generator.callbackGasLimit).outcome = .ok spec
          ∧ spec.emit.outcome = .error failure) →
      (s.generate o).outcome = .error failure
        ∧ (s.generateAndCompile o).against backend start = (.error failure, start))
    ∧ ∀ spec a, (s.toSpec o.generator.callbackGasLimit).outcome = .ok spec →
      spec.emit.outcome = .ok a → ∃ reply result,
        backend (Compiler.request o.compiler a.sourceText) start = (reply, result.2)
          ∧ Compiler.Asks o.compiler a.sourceText (Compiler.request o.compiler a.sourceText)
          ∧ (s.generateAndCompile o).against backend start = result
          ∧ (∀ r, result.1 = .ok r ↔ ∃ output c, reply = .returned output
            ∧ (Compiler.readOutput a.sourceText a.contractName output).outcome = .ok c
            ∧ r = { a with
                compiledAbi := c.compiledAbi
                compiledBytecode := c.compiledBytecode
                warnings := c.warnings })
          ∧ (∀ r, result.1 = .ok r → ∃ code, r.compiledBytecode = some code
            ∧ (code = "" ∨ ∃ digits, code = "0x" ++ digits))
          ∧ ((∀ output, reply ≠ .returned output)
              ∨ (∃ output ds, reply = .returned output ∧ Compiler.diagnosticsOf output = .ok ds
                ∧ ∃ d ∈ ds, d.severity = .error) →
            ∃ failure, result.1 = .error failure) := by
  refine ⟨fun failure h => ?_, fun spec a hspec hemit => ?_⟩
  · have hartifact := artifact_eq_error.mpr h
    exact ⟨generate_of_error hartifact, Inquiry.against_after_of_error hartifact _⟩
  · have hartifact : (s.artifact o).outcome = .ok a :=
      Traced.outcome_bind_eq_ok.mpr ⟨spec, hspec, hemit⟩
    have hresult := against_of_ok backend start hartifact
      (Spec.trim_sourceText_ne_empty hemit)
    generalize hreply : backend (Compiler.request o.compiler a.sourceText) start = answer at hresult
    obtain ⟨reply, state⟩ := answer
    have hok : ∀ r, ((Compiler.conclude a.sourceText a.contractName o.compiler.timeout
          reply).outcome.map (merged a)) = .ok r
        ↔ ∃ output c, reply = .returned output
          ∧ (Compiler.readOutput a.sourceText a.contractName output).outcome = .ok c
          ∧ r = merged a c := by
      intro r
      simp only [map_eq_ok, Compiler.conclude_eq_ok]
      constructor
      · intro h
        obtain ⟨c, ⟨output, hreturned, hread⟩, rfl⟩ := h
        exact ⟨output, c, hreturned, hread, rfl⟩
      · intro h
        obtain ⟨output, c, hreturned, hread, rfl⟩ := h
        exact ⟨c, ⟨output, hreturned, hread⟩, rfl⟩
    refine ⟨reply, _, rfl, Compiler.asks_request _ _, hresult, hok, fun r hr => ?_,
      fun hfailed => ?_⟩
    · obtain ⟨output, c, -, hread, rfl⟩ := (hok r).mp hr
      obtain ⟨code, hcode, hform⟩ := Compiler.bytecode_of_readOutput hread
      exact ⟨code, hcode, hform⟩
    · dsimp only
      cases hresult : (Compiler.conclude a.sourceText a.contractName o.compiler.timeout
          reply).outcome.map (merged a) with
      | error failure => exact ⟨failure, rfl⟩
      | ok r =>
        obtain ⟨output, c, hreturned, hread, -⟩ := (hok r).mp hresult
        rcases hfailed with hnone | ⟨output', ds, hreturned', hds, d, hd, herror⟩
        · exact absurd hreturned (hnone output)
        · obtain rfl : output = output' := Reply.returned.inj (hreturned.symm.trans hreturned')
          exact absurd hread (Compiler.readOutput_of_error hds hd herror c)

end Submission

/-- What a compiler could answer for a contract of the usual name. -/
def compilerOutput : Json := .obj [
  ("contracts", .obj [(Compiler.sourceFile, .obj [("ReactiveSmartContract", .obj [
    ("abi", .arr []),
    ("evm", .obj [("bytecode", .obj [("object", .str "6000")])])])])])]

def transferArtifact : Artifact :=
  { sourceText := transferPlan.render
    contractName := "ReactiveSmartContract"
    destinationSignatures := ["credit(address,uint256)"] }

private theorem emit_transferSpec : transferSpec.emit.outcome = .ok transferArtifact :=
  Spec.emit_eq_ok.mpr ⟨transferPlan, Plan.ofSpec_transferSpec, rfl⟩

/-- A backend that counts its calls has one for the transfers, and none for a request that is not
even a record. -/
theorem transferDocument_compiles :
    (∃ r, ((Submission.document transferDocument).generateAndCompile {}).against
        (fun _ calls => (.returned compilerOutput, calls + 1)) 0 = (.ok r, 1)
      ∧ r.sourceText = transferPlan.render ∧ r.compiledBytecode = some "0x6000")
    ∧ ∃ failure, ((Submission.document .null).generateAndCompile {}).against
        (fun _ calls => (.returned compilerOutput, calls + 1)) 0 = (.error failure, 0) := by
  constructor
  · obtain ⟨reply, result, hbackend, -, hagainst, hok, -⟩ :=
      (Submission.generateAndCompile_asks_once {} (.document transferDocument)
        (fun _ calls => (Reply.returned compilerOutput, calls + 1)) 0).2 transferSpec
        transferArtifact toSpec_transferDocument emit_transferSpec
    obtain ⟨hreply, hstate⟩ := Prod.mk.inj hbackend
    obtain ⟨c, hread, hcode⟩ : ∃ c, (Compiler.readOutput transferArtifact.sourceText
        transferArtifact.contractName compilerOutput).outcome = .ok c
        ∧ c.compiledBytecode = some "0x6000" := by
      have hmarked : Compiler.markedBytecode "6000" = "0x6000" := by decide +kernel
      exact ⟨_, rfl, congrArg some hmarked⟩
    have hresult := (hok _).mpr ⟨compilerOutput, c, hreply.symm, hread, rfl⟩
    refine ⟨Submission.merged transferArtifact c, ?_, rfl, hcode⟩
    rw [hagainst]
    exact Prod.ext hresult hstate.symm
  · obtain ⟨failure, hfailure⟩ : ∃ failure,
        ((Submission.document .null).toSpec (.whole 1000000)).outcome = .error failure := ⟨_, rfl⟩
    have hrefused := (Submission.generateAndCompile_asks_once {} (.document .null)
      (fun _ calls => (Reply.returned compilerOutput, calls + 1)) 0).1 failure (.inl hfailure)
    exact ⟨failure, hrefused.2⟩

end ReactiveContract
