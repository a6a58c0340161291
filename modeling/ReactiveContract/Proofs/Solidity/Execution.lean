import ReactiveContract.Proofs.Solidity.Subscription
/-! Running the instructions of a constructor on its Boolean variables. Calls take their outcomes
from a list, one after the other, and the record of a failure accumulates. -/
namespace ReactiveContract.Solidity

/-- The Boolean values of variables; none for a variable that holds no such value. -/
def Store := String → Option Bool

namespace Store

def set (s : Store) (name : String) (value : Option Bool) : Store :=
  fun other => if other = name then value else s other

theorem set_self (s : Store) (name : String) (value : Option Bool) :
    s.set name value name = value :=
  if_pos rfl

private theorem set_of_ne (s : Store) {name other : String} (value : Option Bool)
    (h : other ≠ name) :
    s.set name value other = s other :=
  if_neg h

/-- The value of a literal or of a variable. -/
def word? (s : Store) (name : String) : Option Bool :=
  if name = "true" then some true else if name = "false" then some false else s name

/-- The value of a word, which may be negated. -/
def operand? (s : Store) : List Token → Option Bool
  | [.word name] => s.word? name
  | .symbol '!' :: ts => (s.operand? ts).map not
  | _ => none

/-- What stands between the signs for "or". -/
def disjuncts : List Token → List (List Token)
  | [] => [[]]
  | .symbol '|' :: .symbol '|' :: ts => [] :: disjuncts ts
  | t :: ts => (disjuncts ts).modifyHead (t :: ·)

/-- The value of operands that are joined by "or"; each of them has to have one. -/
def value? (s : Store) (ts : List Token) : Option Bool :=
  ((disjuncts ts).mapM s.operand?).map (·.any id)

theorem value?_word (s : Store) (name : String) : s.value? [.word name] = s.word? name := by
  have hsplit : disjuncts [.word name] = [[.word name]] := rfl
  rw [value?, hsplit]
  cases hword : s.word? name <;> simp [List.mapM_cons, operand?, hword]

end Store

namespace Instruction

/-- A call stores the next of the outcomes in its result; any other instruction stores the value
of its expression. -/
def execute? : Instruction → Store × List Bool → Option (Store × List Bool)
  | assign name value, (s, outcomes) => some (s.set name (s.value? value), outcomes)
  | declare _ name value, (s, outcomes) => some (s.set name (s.value? value), outcomes)
  | call result _ _, (s, outcome :: outcomes) => some (s.set result (some outcome), outcomes)
  | call _ _ _, (_, []) => none

/-- The tokens of the expressions that an instruction evaluates. -/
def reads : Instruction → List Token
  | assign _ value => value
  | declare _ _ value => value
  | call _ _ arguments => arguments.flatten

end Instruction

/-- Executes instructions in order, and leaves the outcomes that no call has taken. -/
def execute? (is : List Instruction) (state : Store × List Bool) : Option (Store × List Bool) :=
  is.foldlM (fun state i => i.execute? state) state

/-- Wherever a variable is read, it has been declared before; the names declared so far are
given. -/
def ReadsDeclared (name : String) : List String → List Instruction → Prop
  | _, [] => True
  | scope, i :: is =>
    (.word name ∈ i.reads → name ∈ scope) ∧ ReadsDeclared name (scope ++ i.local?.toList) is

theorem execute?_append (is js : List Instruction) (state : Store × List Bool) :
    execute? (is ++ js) state = (execute? is state).bind (execute? js) :=
  List.foldlM_append

theorem readsDeclared_append {name : String} {is js : List Instruction} (scope : List String) :
    ReadsDeclared name scope (is ++ js)
      ↔ ReadsDeclared name scope is
        ∧ ReadsDeclared name (scope ++ is.filterMap Instruction.local?) js := by
  induction is generalizing scope with
  | nil => simp [ReadsDeclared]
  | cons i is ih =>
    have hscope : scope ++ i.local?.toList ++ is.filterMap Instruction.local?
        = scope ++ (i :: is).filterMap Instruction.local? := by
      cases hl : i.local? <;> simp [hl]
    rw [List.cons_append, ReadsDeclared, ReadsDeclared, ih, hscope, and_assoc]

/-- Assignments take no outcome. -/
theorem execute?_assignments {is : List Instruction}
    (h : ∀ i ∈ is, ∃ name value, i = .assign name value) (store : Store) (outcomes : List Bool) :
    ∃ store', execute? is (store, outcomes) = some (store', outcomes) := by
  induction is generalizing store with
  | nil => exact ⟨store, rfl⟩
  | cons i is ih =>
    obtain ⟨name, value, rfl⟩ := h i List.mem_cons_self
    exact ih (fun j hj => h j (List.mem_cons_of_mem _ hj)) (store.set name (store.value? value))

/-- What does not read a variable does not need it. -/
theorem readsDeclared_of_notMem {name : String} {is : List Instruction}
    (h : .word name ∉ is.flatMap Instruction.reads) (scope : List String) :
    ReadsDeclared name scope is := by
  induction is generalizing scope with
  | nil => trivial
  | cons i is ih =>
    rw [List.flatMap_cons, List.mem_append, not_or] at h
    constructor
    · intro hread
      exact absurd hread h.1
    · exact ih h.2 _

namespace Subscription
variable {s : Subscription}

/-- A result that is neither a literal nor the record of failures. -/
def IsFresh (name : String) : Prop :=
  name ≠ "true" ∧ name ≠ "false" ∧ name ≠ "subscription_failed"

private theorem value?_failure (hname : IsFresh s.resultName) {store : Store}
    {failed outcome : Bool} (hfailed : store "subscription_failed" = some failed)
    (houtcome : store s.resultName = some outcome) :
    store.value? s.failure = some (failed || !outcome) := by
  have hsplit : Store.disjuncts s.failure
      = [[.word "subscription_failed"], [.symbol '!', .word s.resultName]] := rfl
  have hrecord : store.operand? [.word "subscription_failed"] = some failed := hfailed
  have hresult : store.operand? [.symbol '!', .word s.resultName] = some (!outcome) := by
    have hword : store.word? s.resultName = some outcome := by
      rw [Store.word?, if_neg hname.1, if_neg hname.2.1, houtcome]
    simp [Store.operand?, hword]
  rw [Store.value?, hsplit]
  simp [List.mapM_cons, hrecord, hresult]

/-- What one subscription does to the record. -/
private theorem execute?_instructions (hname : IsFresh s.resultName) {store : Store} {failed : Bool}
    (hfailed : store "subscription_failed" = some failed) (outcome : Bool) (outcomes : List Bool) :
    ∃ store', execute? s.instructions (store, outcome :: outcomes) = some (store', outcomes)
      ∧ store' "subscription_failed" = some (failed || !outcome) := by
  have hcalled : (store.set s.resultName (some outcome)) "subscription_failed" = some failed := by
    rw [Store.set_of_ne _ _ hname.2.2.symm, hfailed]
  have hvalue := value?_failure hname hcalled (store.set_self s.resultName (some outcome))
  refine ⟨_, rfl, ?_⟩
  rw [Store.set_self, hvalue]

/-- What a run over subscriptions does to the record: it holds whether any of them failed. -/
theorem execute?_flatMap {subscriptions : List Subscription}
    (hnames : ∀ s ∈ subscriptions, IsFresh s.resultName) {store : Store} {failed : Bool}
    (hfailed : store "subscription_failed" = some failed) {outcomes : List Bool}
    (hlen : outcomes.length = subscriptions.length) :
    ∃ store', execute? (subscriptions.flatMap instructions) (store, outcomes) = some (store', [])
      ∧ store' "subscription_failed" = some (failed || outcomes.any not) := by
  induction subscriptions generalizing store failed outcomes with
  | nil =>
    have hnil : outcomes = [] := List.length_eq_zero_iff.mp hlen
    subst hnil
    refine ⟨store, rfl, ?_⟩
    rw [List.any_nil, Bool.or_false, hfailed]
  | cons s subscriptions ih =>
    cases outcomes with
    | nil => simp at hlen
    | cons outcome outcomes =>
      obtain ⟨called, hcall, hrecord⟩ :=
        execute?_instructions (hnames s List.mem_cons_self) hfailed outcome outcomes
      have hrest : ∀ t ∈ subscriptions, IsFresh t.resultName := fun t ht =>
        hnames t (List.mem_cons_of_mem s ht)
      have hlen' : outcomes.length = subscriptions.length := by simpa using hlen
      obtain ⟨store', hrun, hany⟩ := ih hrest hrecord hlen'
      refine ⟨store', ?_, ?_⟩
      · rw [List.flatMap_cons, execute?_append, hcall, Option.bind_some, hrun]
      · rw [hany, List.any_cons, Bool.or_assoc]

section Reads
variable {subscriptions : List Subscription} {name : String}
  (hargs : ∀ s ∈ subscriptions, ∀ a ∈ s.criteria.arguments, .word name ∉ tokens a)
  (hname : name ≠ "subscription_failed")
include hargs hname

/-- A variable is read once by each subscription of which it is the result. -/
theorem count_reads :
    ((subscriptions.flatMap instructions).flatMap Instruction.reads).count (.word name)
      = (subscriptions.map resultName).count name := by
  induction subscriptions with
  | nil => rfl
  | cons s subscriptions ih =>
    have hcall : ((s.criteria.arguments.map tokens).flatten).count (.word name) = 0 := by
      rw [List.count_eq_zero, ← List.flatMap_def, List.mem_flatMap]
      intro h
      obtain ⟨a, ha, hmem⟩ := h
      exact hargs s List.mem_cons_self a ha hmem
    have hrecord : s.failure.count (.word name) = if s.resultName = name then 1 else 0 := by
      simp [failure, List.count_cons, hname.symm]
    have hrest := ih fun t ht => hargs t (List.mem_cons_of_mem s ht)
    rw [List.flatMap_cons, List.flatMap_append, List.count_append, hrest]
    simp only [instructions, List.flatMap_cons, List.flatMap_nil, Instruction.reads,
      List.append_nil, List.count_append, hcall, hrecord, List.map_cons, List.count_cons,
      beq_iff_eq]
    omega

/-- Its call declares it before. -/
theorem readsDeclared_flatMap (scope : List String) :
    ReadsDeclared name scope (subscriptions.flatMap instructions) := by
  induction subscriptions generalizing scope with
  | nil => trivial
  | cons s subscriptions ih =>
    rw [List.flatMap_cons, readsDeclared_append]
    constructor
    · constructor
      · intro hread
        obtain ⟨ts, hts, hmem⟩ := List.mem_flatten.mp hread
        obtain ⟨a, ha, rfl⟩ := List.mem_map.mp hts
        exact absurd hmem (hargs s List.mem_cons_self a ha)
      · constructor
        · intro hread
          have hresult : name = s.resultName := by
            simpa [Instruction.reads, failure, hname] using hread
          rw [hresult]
          exact List.mem_append_right _ (List.mem_singleton_self _)
        · trivial
    · exact ih (fun t ht => hargs t (List.mem_cons_of_mem s ht)) _

end Reads

end Subscription
end ReactiveContract.Solidity
