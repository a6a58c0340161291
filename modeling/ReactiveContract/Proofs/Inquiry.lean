import ReactiveContract.Inquiry
import ReactiveContract.Proofs.Outcome
/-! Inquiries run against collaborators that have a state: what they are asked shows in it. -/
namespace ReactiveContract.Inquiry
variable {q r σ α β : Type}

/-- The outcome against a collaborator, and the state that it is left in. -/
def against (call : q → σ → r × σ) : Inquiry q r α → σ → Except Failure α × σ
  | done result, s => (result.outcome, s)
  | ask _ question resume, s =>
    ((resume (call question s).1).outcome, (call question s).2)

variable {call : q → σ → r × σ} {s : σ}

theorem against_after_of_error {x : Traced α} {failure : Failure}
    (h : x.outcome = .error failure) (f : α → Inquiry q r β) :
    (after x f).against call s = (.error failure, s) := by
  unfold after
  rw [h]
  rfl

theorem against_after_of_ok {x : Traced α} {a : α} (h : x.outcome = .ok a)
    (f : α → Inquiry q r β) : (after x f).against call s = (f a).against call s := by
  unfold after
  rw [h]
  dsimp only
  cases f a <;> rfl

/-- What follows the reply has no influence on the collaborator. -/
theorem against_andThen (x : Inquiry q r α) (f : α → Traced β) :
    (x.andThen f).against call s
      = ((x.against call s).1.bind fun a => (f a).outcome, (x.against call s).2) := by
  have houtcome : ∀ result : Traced α,
      (result.bind f).outcome = result.outcome.bind fun a => (f a).outcome := by
    intro result
    unfold Traced.bind
    cases result.outcome <;> rfl
  cases x with
  | done result => exact congrArg (·, s) (houtcome result)
  | ask notes question resume =>
    exact congrArg (·, (call question s).2) (houtcome (resume (call question s).1))

end ReactiveContract.Inquiry
