import ReactiveContract.Traced
/-! Computations that put at most one question to a collaborator. -/
namespace ReactiveContract

/-- How a collaborator's call ends. -/
inductive Reply (α : Type) where
  | returned (value : α)
  | failed (failure : Failure)
  | hung

/-- Either no question is put, or one of type `q` after some notes, and a reply of type `r` decides
what follows. -/
inductive Inquiry (q r α : Type) where
  | done (result : Traced α)
  | ask (notes : List Note) (question : q) (resume : r → Traced α)

namespace Inquiry

/-- The question that is put, if any. -/
def question? : Inquiry q r α → Option q
  | done _ => none
  | ask _ question _ => some question

/-- The result, given the collaborator. -/
def run (answer : q → Traced r) : Inquiry q r α → Traced α
  | done result => result
  | ask notes question resume => do
    Traced.mk notes (.ok ())
    resume (← answer question)

/-- Goes on with the result. -/
def andThen (x : Inquiry q r α) (f : α → Traced β) : Inquiry q r β :=
  match x with
  | done result => done (result.bind f)
  | ask notes question resume => ask notes question fun r => (resume r).bind f

/-- What comes before the question. -/
def after (x : Traced α) (f : α → Inquiry q r β) : Inquiry q r β :=
  match x.outcome with
  | .error failure => done ⟨x.notes, .error failure⟩
  | .ok a =>
    match f a with
    | done result => done ⟨x.notes ++ result.notes, result.outcome⟩
    | ask notes question resume => ask (x.notes ++ notes) question resume

end Inquiry

/-- The value of a reply. A collaborator that says it ran out of time is taken like one that does
not answer in time; all other failures pass through. -/
def Reply.await (what : String) (limit : Quantity) (reply : Reply α) : Traced α :=
  let timedOut : Traced α := do
    Traced.note (.timedOut what limit)
    Traced.fail (.service (.timedOut what limit))
  match reply with
  | .returned value => pure value
  | .hung => timedOut
  | .failed (.foreign failure) =>
    if failure.family = .timeout then timedOut else Traced.fail (.foreign failure)
  | .failed failure => Traced.fail failure

end ReactiveContract
