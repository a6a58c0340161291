import ReactiveContract.Proofs.Solidity.Statement
/-! Reading the conditions that compare a topic or an address with constants. -/
namespace ReactiveContract.Solidity
open Text

/-- The constant that the head of a branch compares the topic with. -/
def readHead? (text : String) : Option String :=
  let ts := tokens text
  let condition := (ts.dropPrefix? (tokens "\x7d else ")).getD ts
  match condition.dropPrefix? (tokens "if (topic_0 ==") with
  | some [.word name, .symbol ')', .symbol '\x7b'] => some name
  | _ => none

private theorem tokens_head {b : Branch} (h : IsWord b.topicConstant) :
    tokens (b.head true) = tokens "if (topic_0 =="
      ++ [.word b.topicConstant, .symbol ')', .symbol '\x7b'] := by
  have hsur : Surrounds ("if (" ++ "topic_0 == ") ") \x7b" := by decide
  have hhead : b.head true = "if (" ++ "topic_0 == " ++ b.topicConstant ++ ") \x7b" := by
    simp only [Branch.head, Branch.condition, String.append_assoc]
    rfl
  rw [hhead, tokens_surrounded hsur h]
  rfl

/-- A later branch is read as an alternative. -/
private theorem tokens_later (b : Branch) :
    tokens (b.head false) = tokens "\x7d else " ++ tokens (b.head true) := by
  have hlater : b.head false = "\x7d else " ++ b.head true := by
    simp only [Branch.head, if_true, Bool.false_eq_true, if_false, ← String.append_assoc]
    rfl
  rw [hlater, tokens_append (by decide) (.inl (by decide))]

/-- A condition is read as its constant, both in the first branch and in a later one. -/
theorem readHead?_head {b : Branch} (h : IsWord b.topicConstant) (first : Bool) :
    readHead? (b.head first) = some b.topicConstant := by
  have hcondition : (tokens (b.head true)).dropPrefix? (tokens "if (topic_0 ==")
      = some [.word b.topicConstant, .symbol ')', .symbol '\x7b'] := by
    rw [tokens_head h]
    exact List.dropPrefix?_append_of_beq _ (beq_self_eq_true (tokens "if (topic_0 =="))
  cases first with
  | true =>
    have hdrop : (tokens (b.head true)).dropPrefix? (tokens "\x7d else ") = none := by
      rw [tokens_head h]
      rfl
    simp only [readHead?, hdrop, Option.getD_none, hcondition]
  | false =>
    have hdrop : (tokens (b.head false)).dropPrefix? (tokens "\x7d else ")
        = some (tokens (b.head true)) := by
      rw [tokens_later]
      exact List.dropPrefix?_append_of_beq _ (beq_self_eq_true (tokens "\x7d else "))
    simp only [readHead?, hdrop, Option.getD_some, hcondition]

namespace AllowList

def head : String := "function isApplicableAddress(address addr) private pure returns (bool) \x7b"

def testTokens (name : String) : List Token :=
  [.word "addr", .symbol '=', .symbol '=', .word name]

/-- The names that an address is compared with. -/
def readTests? : List Token → Option (List String)
  | .word subject :: .symbol '=' :: .symbol '=' :: .word name :: rest =>
    if subject = "addr" then
      match rest with
      | [] => some [name]
      | .symbol '|' :: .symbol '|' :: rest => (readTests? rest).map (name :: ·)
      | _ => none
    else none
  | _ => none

def read? (text : String) : Option (List String) := do
  let body ← (tokens text).dropPrefix? (tokens head)
  let sts ← statements? [.symbol '\x7d'] body
  match sts with
  | [st] => (st.dropPrefix? [.word "return"]).bind readTests?
  | _ => none

theorem readTests?_eq_some {names : List String} (hne : names ≠ []) :
    readTests? ([.symbol '|', .symbol '|'].intercalate (names.map testTokens)) = some names := by
  induction names with
  | nil => exact absurd rfl hne
  | cons name names ih =>
    cases names with
    | nil => rfl
    | cons next names =>
      have hrest := ih (List.cons_ne_nil _ _)
      have hstep : ∀ ts, readTests? (testTokens name ++ [.symbol '|', .symbol '|'] ++ ts)
          = (readTests? ts).map (name :: ·) := fun _ => rfl
      rw [List.map_cons, List.map_cons, List.intercalate_cons_cons, hstep, ← List.map_cons, hrest]
      rfl

private theorem tokens_closeLast {lines : List String} (hne : lines ≠ [])
    (h : ∀ line ∈ lines, Closed line) :
    (closeLast lines).flatMap tokens = lines.flatMap tokens ++ [semicolon] := by
  induction lines with
  | nil => exact absurd rfl hne
  | cons line lines ih =>
    cases lines with
    | nil =>
      have hclose : tokens (line ++ ";") = tokens line ++ [semicolon] :=
        tokens_append (h line (by simp)) (.inr (by decide))
      simp [closeLast, hclose]
    | cons next lines =>
      have hrest := ih (List.cons_ne_nil _ _) fun l hl => h l (by simp [hl])
      change tokens line ++ (closeLast (next :: lines)).flatMap tokens = _
      rw [hrest, ← List.append_assoc, ← List.flatMap_cons]

private theorem closed_closeLast {lines : List String} (h : ∀ line ∈ lines, Closed line) :
    ∀ line ∈ closeLast lines, Closed line := by
  induction lines with
  | nil => simp [closeLast]
  | cons line lines ih =>
    have hrest := ih fun l hl => h l (by simp [hl])
    have hline : Closed line := h line (by simp)
    cases lines with
    | nil =>
      have hclose : Closed (line ++ ";") := hline.append (by decide)
      simpa [closeLast] using hclose
    | cons next lines => exact List.forall_mem_cons.mpr ⟨hline, hrest⟩

private theorem intercalate_cons {α : Type} (sep x : List α) (xs : List (List α)) :
    sep.intercalate (x :: xs) = x ++ xs.flatMap (sep ++ ·) := by
  induction xs generalizing x with
  | nil => simp
  | cons y xs ih => rw [List.intercalate_cons_cons, ih, List.flatMap_cons, List.append_assoc,
      List.append_assoc]

/-- The tests of an address, one for each constant. -/
private theorem tokens_checks {constants : List Constant} (hne : constants ≠ [])
    (h : ∀ c ∈ constants, IsWord c.name) :
    (∀ line ∈ checks constants, Closed line)
      ∧ (checks constants).flatMap tokens = .word "return"
        :: [.symbol '|', .symbol '|'].intercalate (constants.map fun c => testTokens c.name) := by
  cases constants with
  | nil => exact absurd rfl hne
  | cons c rest =>
    have hfirst : Surrounds (indentUnit ++ "return addr == ") "" := by decide
    have hnext : Surrounds (indentation 2 ++ "|| addr == ") "" := by decide
    have hc : IsWord c.name := h c (by simp)
    have hrest : ∀ d ∈ rest, IsWord d.name := fun d hd => h d (by simp [hd])
    have hhead : tokens (indentUnit ++ "return addr == " ++ c.name)
        = .word "return" :: testTokens c.name := tokens_ending hfirst hc
    have htail : (rest.map fun d => indentation 2 ++ "|| addr == " ++ d.name).flatMap tokens
        = rest.flatMap fun d => [.symbol '|', .symbol '|'] ++ testTokens d.name := by
      rw [List.flatMap_map]
      exact List.flatMap_congr fun d hd => tokens_ending hnext (hrest d hd)
    constructor
    · refine List.forall_mem_cons.mpr ⟨closed_ending hfirst hc, ?_⟩
      rw [List.forall_mem_map]
      exact fun d hd => closed_ending hnext (hrest d hd)
    · rw [checks, List.flatMap_cons, hhead, htail, List.map_cons, intercalate_cons,
        List.flatMap_map]
      rfl

/-- The test of an address is read as the names of all constants. -/
theorem read?_render {l : AllowList} (h : ∀ c ∈ l.constants, IsWord c.name) {lines : List String}
    (hr : l.render? = some lines) (level : Nat) :
    read? (joinLines (indent level lines)) = some (l.constants.map (·.name)) := by
  obtain ⟨hne, hlines⟩ : l.constants ≠ []
      ∧ lines = [head] ++ closeLast (checks l.constants) ++ ["\x7d"] := by
    unfold render? at hr
    split at hr
    · cases hr
    · rename_i hne
      exact ⟨hne, (Option.some.inj hr).symm⟩
  have hchecks : checks l.constants ≠ [] := by
    cases hc : l.constants with
    | nil => exact absurd hc hne
    | cons c rest => exact List.cons_ne_nil _ _
  obtain ⟨hclosed, htests⟩ := tokens_checks hne h
  have hhead : Closed head := by decide +kernel
  have hbrace : Closed "\x7d" := by decide
  have hall : ∀ line ∈ lines, Closed line := by
    rw [hlines]
    refine List.forall_mem_append.mpr ⟨List.forall_mem_append.mpr ⟨?_, ?_⟩, ?_⟩
    · simpa using hhead
    · exact closed_closeLast hclosed
    · simpa using hbrace
  let test : List Token := .word "return"
    :: [.symbol '|', .symbol '|'].intercalate (l.constants.map fun c => testTokens c.name)
  have htokens : tokens (joinLines (indent level lines))
      = tokens head ++ ([test].flatMap (· ++ [semicolon]) ++ [.symbol '\x7d']) := by
    have hend : tokens "\x7d" = [.symbol '\x7d'] := by decide
    rw [tokens_joinLines (closed_indent hall), tokens_indent, hlines]
    simp only [List.flatMap_append, List.flatMap_singleton, tokens_closeLast hchecks hclosed,
      htests, hend, List.append_assoc, test]
  have hsingle : ∀ st ∈ [test], semicolon ∉ st := by
    have hnames : semicolon ∉ [Token.symbol '|', .symbol '|'].intercalate
        (l.constants.map fun c => testTokens c.name) := by
      refine notMem_intercalate (by decide) ?_
      rw [List.forall_mem_map]
      intro c hc
      simp [testTokens, semicolon]
    rw [List.forall_mem_singleton]
    simpa [test, semicolon] using hnames
  have hend : semicolon ∉ [Token.symbol '\x7d'] := by decide
  have hdrop := List.dropPrefix?_append_of_beq
    ([test].flatMap (· ++ [semicolon]) ++ [.symbol '\x7d']) (beq_self_eq_true (tokens head))
  have hne' : l.constants.map (·.name) ≠ [] := by simpa using hne
  have hnames := readTests?_eq_some hne'
  have hreturn : test.dropPrefix? [.word "return"] = some _ :=
    List.dropPrefix?_append_of_beq _ (beq_self_eq_true [Token.word "return"])
  rw [List.map_map] at hnames
  rw [read?, htokens, hdrop, Option.bind_eq_bind, Option.bind_some,
    statements?_eq_some hend hsingle, Option.bind_eq_bind, Option.bind_some]
  change (test.dropPrefix? [.word "return"]).bind readTests? = _
  rw [hreturn]
  exact hnames

end AllowList
end ReactiveContract.Solidity
