import ReactiveContract.Proofs.Solidity.Statement
/-! Reading the statements of a constructor and the table of a pausable contract, each as a whole:
a statement that is not understood makes the reading fail. -/
namespace ReactiveContract.Solidity
open Text

/-- A statement of a constructor. Values and arguments are tokens; values call nothing. -/
inductive Instruction where
  | assign (name : String) (value : List Token)
  | declare (type name : String) (value : List Token)
  | call (result signature : String) (arguments : List (List Token))
  deriving DecidableEq, Repr

namespace Instruction

/-- What stands between the result of a call and the signature of the called function. -/
def callOpening : String := ",) = address(service).call(abi.encodeWithSignature("

def tokens : Instruction → List Token
  | assign name value => .word name :: .symbol '=' :: value
  | declare type name value => .word type :: .word name :: .symbol '=' :: value
  | call result signature arguments =>
    .symbol '(' :: .word "bool" :: .word result :: (Solidity.tokens callOpening
      ++ .quoted signature :: comma :: ([comma].intercalate arguments
        ++ [.symbol ')', .symbol ')']))

/-- Reads a call from after its result on. -/
def readCall? (result : String) (ts : List Token) : Option Instruction :=
  match ts.dropPrefix? (Solidity.tokens callOpening) with
  | some (.quoted signature :: .symbol ',' :: list) =>
    match readItems 0 list with
    | some (arguments, [.symbol ')']) => some (call result signature arguments)
    | _ => none
  | _ => none

def read? : List Token → Option Instruction
  | .word name :: .symbol '=' :: value =>
    if .symbol '(' ∈ value then none else some (assign name value)
  | .word type :: .word name :: .symbol '=' :: value =>
    if .symbol '(' ∈ value then none else some (declare type name value)
  | .symbol '(' :: .word type :: .word result :: rest =>
    if type = "bool" then readCall? result rest else none
  | _ => none

/-- The signature and the arguments of a call. -/
def call? : Instruction → Option (String × List (List Token))
  | call _ signature arguments => some (signature, arguments)
  | _ => none

/-- The local variable that an instruction declares. -/
def local? : Instruction → Option String
  | call result _ _ => some result
  | declare _ name _ => some name
  | assign _ _ => none

/-- An instruction that is read as itself, and that a semicolon ends. -/
structure Readable (i : Instruction) : Prop where
  read?_tokens : read? i.tokens = some i
  single : semicolon ∉ i.tokens

/-- A value without calls, which goes on up to the semicolon. -/
def IsPlain (value : List Token) : Prop := .symbol '(' ∉ value ∧ semicolon ∉ value

instance : DecidablePred IsPlain := fun value =>
  inferInstanceAs (Decidable (.symbol '(' ∉ value ∧ semicolon ∉ value))

theorem readable_assign {name : String} {value : List Token} (h : IsPlain value) :
    (assign name value).Readable := by
  obtain ⟨hcall, hsingle⟩ := h
  refine ⟨if_neg hcall, ?_⟩
  simpa [tokens, semicolon] using hsingle

theorem readable_declare {type name : String} {value : List Token} (h : IsPlain value) :
    (declare type name value).Readable := by
  obtain ⟨hcall, hsingle⟩ := h
  refine ⟨if_neg hcall, ?_⟩
  simpa [tokens, semicolon] using hsingle

private theorem readable_call {result signature : String} {arguments : List String}
    (hne : arguments ≠ []) (h : ∀ a ∈ arguments, IsItem a) :
    (call result signature (arguments.map Solidity.tokens)).Readable := by
  have hsingle := semicolon_notMem_arguments h
  have hopening : semicolon ∉ Solidity.tokens callOpening := by decide +kernel
  constructor
  · have hdrop : ∀ ts, (Solidity.tokens callOpening ++ ts).dropPrefix?
        (Solidity.tokens callOpening) = some ts := fun ts =>
      List.dropPrefix?_append_of_beq ts (beq_self_eq_true _)
    have hitems := readItems_arguments h hne [.symbol ')']
    simp only [tokens, read?, if_true, readCall?, hdrop, comma] at hitems ⊢
    rw [hitems]
    rfl
  · simp [tokens, hopening, hsingle]
    simp [semicolon, comma]

end Instruction

/-- All instructions of a text. -/
def readInstructions? (text : String) : Option (List Instruction) :=
  (statements? [] (tokens text)).bind (·.mapM Instruction.read?)

/-- Lines that are written as some instructions, each with a semicolon at its end. -/
structure Writes (lines : List String) (is : List Instruction) : Prop where
  closed : ∀ line ∈ lines, Closed line
  tokens_eq : lines.flatMap tokens = (is.map Instruction.tokens).flatMap (· ++ [semicolon])
  readable : ∀ i ∈ is, i.Readable

theorem mapM_eq_some {α β γ : Type} {f : β → Option γ} {g : α → β} {h : α → γ} {xs : List α}
    (hread : ∀ x ∈ xs, f (g x) = some (h x)) : (xs.map g).mapM f = some (xs.map h) := by
  induction xs with
  | nil => rfl
  | cons x xs ih =>
    have hx : f (g x) = some (h x) := hread x (by simp)
    have hrest := ih fun y hy => hread y (by simp [hy])
    simp [List.mapM_cons, hx, hrest]

/-- Lines are read as the instructions that they are written as. -/
theorem readInstructions?_eq_some {lines : List String} {is : List Instruction}
    (h : Writes lines is) (level : Nat) :
    readInstructions? (joinLines (indent level lines)) = some is := by
  have hsingle : ∀ st ∈ is.map Instruction.tokens, semicolon ∉ st := by
    rw [List.forall_mem_map]
    exact fun i hi => (h.readable i hi).single
  have hend : semicolon ∉ ([] : List Token) := by simp
  have hsplit := statements?_eq_some hend hsingle
  have hread := mapM_eq_some (h := id) fun i hi => (h.readable i hi).read?_tokens
  rw [List.append_nil] at hsplit
  rw [readInstructions?, tokens_joinLines (closed_indent h.closed), tokens_indent, h.tokens_eq,
    hsplit, Option.bind_some, hread, List.map_id]

namespace Writes

theorem append {lines lines' : List String} {is is' : List Instruction} (h : Writes lines is)
    (h' : Writes lines' is') : Writes (lines ++ lines') (is ++ is') where
  closed := List.forall_mem_append.mpr ⟨h.closed, h'.closed⟩
  tokens_eq := by simp only [List.flatMap_append, List.map_append, h.tokens_eq, h'.tokens_eq]
  readable := List.forall_mem_append.mpr ⟨h.readable, h'.readable⟩

theorem flatMap {α : Type} {f : α → List String} {g : α → List Instruction} {xs : List α}
    (h : ∀ x ∈ xs, Writes (f x) (g x)) : Writes (xs.flatMap f) (xs.flatMap g) := by
  induction xs with
  | nil => exact ⟨by simp, rfl, by simp⟩
  | cons x xs ih => exact (h x (by simp)).append (ih fun y hy => h y (by simp [hy]))

/-- One line for one instruction. -/
theorem line {line : String} {i : Instruction} (hc : Closed line)
    (ht : tokens line = i.tokens ++ [semicolon]) (hi : i.Readable) : Writes [line] [i] where
  closed := by simpa using hc
  tokens_eq := by simpa using ht
  readable := by simpa using hi

/-- An empty line is none. -/
theorem blank {lines : List String} {is : List Instruction} (h : Writes lines is) :
    Writes ("" :: lines) is where
  closed := List.forall_mem_cons.mpr ⟨rfl, h.closed⟩
  tokens_eq := h.tokens_eq
  readable := h.readable

end Writes

/-- Whether this or an earlier subscription failed. -/
def Subscription.failure (s : Subscription) : List Token :=
  [.word "subscription_failed", .symbol '|', .symbol '|', .symbol '!', .word s.resultName]

/-- The call for a subscription, and the record of its failure. -/
def Subscription.instructions (s : Subscription) : List Instruction :=
  [.call s.resultName subscribeSignature (s.criteria.arguments.map tokens),
    .assign "subscription_failed" s.failure]

theorem flatMap_tokens_indentation (level : Nat) (lines : List String) :
    (lines.map (indentation level ++ ·)).flatMap tokens = lines.flatMap tokens := by
  rw [List.flatMap_map]
  exact List.flatMap_congr fun line _ => tokens_indentation level line

namespace Subscription

variable {s : Subscription}

/-- The lines of the call. -/
def callLines (s : Subscription) : List String :=
  ["(bool " ++ s.resultName ++ ",) = address(service).call(",
    indentUnit ++ "abi.encodeWithSignature("]
  ++ (commaLines (("\"" ++ subscribeSignature ++ "\"") :: s.criteria.arguments)).map
    (indentation 2 ++ ·)
  ++ [indentUnit ++ ")", ");"]

private theorem render_eq (s : Subscription) :
    s.render = s.callLines
      ++ ["subscription_failed = subscription_failed || !" ++ s.resultName ++ ";"] := by
  simp only [callLines, List.append_assoc]
  rfl

private theorem writes_callLines (hr : IsWord s.resultName)
    (h : ∀ a ∈ s.criteria.arguments, IsItem a) :
    Writes s.callLines
      [.call s.resultName subscribeSignature (s.criteria.arguments.map tokens)] := by
  have hquoted : Closed ("\"" ++ subscribeSignature ++ "\"") := by decide +kernel
  have hitems : ∀ item ∈ ("\"" ++ subscribeSignature ++ "\"") :: s.criteria.arguments,
      Closed item := List.forall_mem_cons.mpr ⟨hquoted, fun a ha => (h a ha).closed⟩
  have hsur : Surrounds "(bool " ",) = address(service).call(" := by decide +kernel
  have hopen : Closed (indentUnit ++ "abi.encodeWithSignature(") := by decide +kernel
  have hclose : ∀ line ∈ [indentUnit ++ ")", ");"], Closed line := by decide +kernel
  constructor
  · refine List.forall_mem_append.mpr ⟨List.forall_mem_append.mpr ⟨?_, ?_⟩, hclose⟩
    · simpa using ⟨closed_surrounded hsur hr, hopen⟩
    · rw [List.forall_mem_map]
      exact fun line hline => closed_indentation (closed_commaLines hitems line hline) 2
  · have hhead : tokens ("(bool " ++ s.resultName ++ ",) = address(service).call(")
        = .symbol '(' :: .word "bool" :: .word s.resultName
          :: tokens ",) = address(service).call(" := tokens_surrounded hsur hr
    have hopening : tokens Instruction.callOpening = tokens ",) = address(service).call("
        ++ tokens (indentUnit ++ "abi.encodeWithSignature(") := by decide +kernel
    have hclose : tokens (indentUnit ++ ")") = [.symbol ')'] := by decide +kernel
    have hend : tokens ");" = [.symbol ')', semicolon] := by decide +kernel
    have hsignature : tokens ("\"" ++ subscribeSignature ++ "\"")
        = [.quoted subscribeSignature] := by decide +kernel
    have hargs : s.criteria.arguments.map tokens ≠ [] := by simp [Criteria.arguments]
    simp only [callLines, List.flatMap_append, List.flatMap_cons, flatMap_tokens_indentation, hhead,
      tokens_commaLines hitems, Instruction.tokens, hopening, List.map_cons, hsignature,
      List.intercalate_cons_of_ne_nil hargs, hclose, hend]
    simp
  · have hne : s.criteria.arguments ≠ [] := by simp [Criteria.arguments]
    simpa using Instruction.readable_call hne h

theorem writes (hr : IsWord s.resultName) (h : ∀ a ∈ s.criteria.arguments, IsItem a) :
    Writes s.render s.instructions := by
  have hsur : Surrounds "subscription_failed = subscription_failed || !" ";" := by decide +kernel
  have hplain : Instruction.IsPlain s.failure := by
    simp [Instruction.IsPlain, failure, semicolon]
  have hassign : (Instruction.assign "subscription_failed" s.failure).Readable :=
    Instruction.readable_assign hplain
  have hline : Writes ["subscription_failed = subscription_failed || !" ++ s.resultName ++ ";"]
      [.assign "subscription_failed" s.failure] :=
    .line (closed_surrounded hsur hr) (tokens_surrounded hsur hr) hassign
  rw [render_eq]
  exact (writes_callLines hr h).append hline

end Subscription

namespace SubscriptionTable

def head : String :=
  "function getPausableSubscriptions() internal pure override returns (Subscription[] memory) \x7b"

/-- What a table is read as: the size of the array, and the arguments assigned to each index. -/
structure Reading where
  size : String
  entries : List (String × List (List Token))
  deriving DecidableEq, Repr

def readSize? (ts : List Token) : Option String :=
  match ts.dropPrefix? (tokens "Subscription[] memory result = new Subscription[](") with
  | some [.word size, .symbol ')'] => some size
  | _ => none

def readEntry? : List Token → Option (String × List (List Token))
  | .word name :: .symbol '[' :: .word index :: rest =>
    match rest.dropPrefix? (tokens "] = Subscription(") with
    | some list =>
      match readItems 0 list with
      | some (arguments, []) => if name = "result" then some (index, arguments) else none
      | _ => none
    | none => none
  | _ => none

/-- The statements of a table: the array, its entries, and its return. -/
def readBody? (sts : List (List Token)) : Option Reading :=
  match sts with
  | [] => none
  | first :: rest =>
    if rest.getLast? = some (tokens "return result") then do
      let size ← readSize? first
      let entries ← rest.dropLast.mapM readEntry?
      return ⟨size, entries⟩
    else none

def read? (text : String) : Option Reading := do
  let body ← (tokens text).dropPrefix? (tokens head)
  let sts ← statements? [.symbol '\x7d'] body
  readBody? sts

/-- The tokens of the declaration of an array of a size. -/
def sizeTokens (size : Nat) : List Token :=
  tokens "Subscription[] memory result = new Subscription[]("
    ++ [.word (toString size), .symbol ')']

/-- The tokens of an entry without the semicolon. -/
def entryTokens (i : Nat) (c : Criteria) : List Token :=
  .word "result" :: .symbol '[' :: .word (toString i) :: (tokens "] = Subscription("
    ++ ([comma].intercalate (c.arguments.map tokens) ++ [.symbol ')']))

private theorem readSize?_sizeTokens (size : Nat) :
    readSize? (sizeTokens size) = some (toString size) := by
  have hdrop := List.dropPrefix?_append_of_beq [Token.word (toString size), .symbol ')']
    (beq_self_eq_true (tokens "Subscription[] memory result = new Subscription[]("))
  rw [readSize?, sizeTokens, hdrop]
  rfl

private theorem readEntry?_entryTokens {c : Criteria} (h : ∀ a ∈ c.arguments, IsItem a) (i : Nat) :
    readEntry? (entryTokens i c) = some (toString i, c.arguments.map tokens) := by
  have hne : c.arguments ≠ [] := by simp [Criteria.arguments]
  have hitems := readItems_arguments h hne []
  have hdrop := List.dropPrefix?_append_of_beq
    ([comma].intercalate (c.arguments.map tokens) ++ [.symbol ')'])
    (beq_self_eq_true (tokens "] = Subscription("))
  simp only [entryTokens, readEntry?, hdrop, hitems, if_true]

private theorem semicolon_notMem_sizeTokens (size : Nat) : semicolon ∉ sizeTokens size := by
  have hopening : semicolon ∉ tokens "Subscription[] memory result = new Subscription[](" := by
    decide +kernel
  simp [sizeTokens, hopening]
  simp [semicolon]

private theorem semicolon_notMem_entryTokens {c : Criteria} (h : ∀ a ∈ c.arguments, IsItem a)
    (i : Nat) :
    semicolon ∉ entryTokens i c := by
  have hopening : semicolon ∉ tokens "] = Subscription(" := by decide +kernel
  have hitems := semicolon_notMem_arguments h
  simp [entryTokens, hopening, hitems]
  simp [semicolon]

theorem surrounds_index :
    Surrounds (indentUnit ++ "result[") "] = Subscription(" := by decide +kernel

theorem entryLines_eq (i : Nat) (c : Criteria) :
    entryLines i c = [indentUnit ++ "result[" ++ toString i ++ "] = Subscription("]
      ++ (commaLines c.arguments).map (indentation 2 ++ ·) ++ [indentUnit ++ ");"] := rfl

private theorem closed_entryLines {c : Criteria} (h : ∀ a ∈ c.arguments, IsItem a) (i : Nat) :
    ∀ line ∈ entryLines i c, Closed line := by
  have hitems := closed_commaLines fun a ha => (h a ha).closed
  have hclose : Closed (indentUnit ++ ");") := by decide +kernel
  rw [entryLines_eq]
  refine List.forall_mem_append.mpr ⟨List.forall_mem_append.mpr ⟨?_, ?_⟩, by simpa using hclose⟩
  · simpa using closed_surrounded surrounds_index (isWord_toString i)
  · rw [List.forall_mem_map]
    exact fun line hline => closed_indentation (hitems line hline) 2

private theorem tokens_entryLines {c : Criteria} (h : ∀ a ∈ c.arguments, IsItem a) (i : Nat) :
    (entryLines i c).flatMap tokens = entryTokens i c ++ [semicolon] := by
  have hhead : tokens (indentUnit ++ "result[" ++ toString i ++ "] = Subscription(")
      = .word "result" :: .symbol '[' :: .word (toString i) :: tokens "] = Subscription(" :=
    tokens_surrounded surrounds_index (isWord_toString i)
  have hitems := tokens_commaLines fun a ha => (h a ha).closed
  have hclose : tokens (indentUnit ++ ");") = [.symbol ')', semicolon] := by decide +kernel
  rw [entryLines_eq]
  simp only [List.flatMap_append, List.flatMap_singleton, flatMap_tokens_indentation, hhead, hitems,
    hclose, entryTokens]
  simp

/-- The statements of a table, without their semicolons. -/
def statements (t : SubscriptionTable) : List (List Token) :=
  sizeTokens t.entries.length :: (t.entries.zipIdx.map (fun (c, i) => entryTokens i c)
    ++ [tokens "return result"])

private theorem tokens_render {t : SubscriptionTable}
    (h : ∀ c ∈ t.entries, ∀ a ∈ c.arguments, IsItem a) (level : Nat) :
    tokens (joinLines (indent level t.render))
      = tokens head ++ (t.statements.flatMap (· ++ [semicolon]) ++ [.symbol '\x7d']) := by
  have hentry : ∀ p ∈ t.entries.zipIdx, ∀ a ∈ p.1.arguments, IsItem a := fun p hp =>
    h p.1 (List.fst_mem_of_mem_zipIdx hp)
  have hsur : Surrounds (indentUnit ++ "Subscription[] memory result = new Subscription[](") ");" :=
    by decide +kernel
  have hsize := isWord_toString t.entries.length
  have hrender : t.render
      = [head, indentUnit ++ "Subscription[] memory result = new Subscription[]("
          ++ toString t.entries.length ++ ");"]
        ++ t.entries.zipIdx.flatMap (fun (c, i) => entryLines i c)
        ++ [indentUnit ++ "return result;", "\x7d"] := rfl
  have hclosed : ∀ line ∈ t.render, Closed line := by
    have hhead : Closed head := by decide +kernel
    have hlast : ∀ line ∈ [indentUnit ++ "return result;", "\x7d"], Closed line := by decide +kernel
    rw [hrender]
    refine List.forall_mem_append.mpr ⟨List.forall_mem_append.mpr ⟨?_, ?_⟩, hlast⟩
    · simpa using ⟨hhead, closed_surrounded hsur hsize⟩
    · rw [List.forall_mem_flatMap]
      exact fun p hp => closed_entryLines (hentry p hp) p.2
  have hentries : (t.entries.zipIdx.flatMap fun (c, i) => entryLines i c).flatMap tokens
      = (t.entries.zipIdx.map fun (c, i) => entryTokens i c).flatMap (· ++ [semicolon]) := by
    rw [List.flatMap_assoc, List.flatMap_map]
    exact List.flatMap_congr fun p hp => tokens_entryLines (hentry p hp) p.2
  have hfirst := tokens_surrounded hsur hsize
  have hend : tokens ");" = [.symbol ')', semicolon] := by decide +kernel
  have hreturn : tokens (indentUnit ++ "return result;") = tokens "return result" ++ [semicolon] :=
    by decide +kernel
  have hbrace : tokens "\x7d" = [.symbol '\x7d'] := by decide +kernel
  rw [tokens_joinLines (closed_indent hclosed), tokens_indent, hrender]
  simp only [List.flatMap_append, List.flatMap_cons, List.flatMap_nil, hfirst, hentries, hreturn,
    hend, hbrace, statements, sizeTokens, tokens_indentUnit]
  simp

/-- A table is read as its size, and its entries at their indices. -/
theorem read?_render {t : SubscriptionTable} (h : ∀ c ∈ t.entries, ∀ a ∈ c.arguments, IsItem a)
    (level : Nat) :
    read? (joinLines (indent level t.render))
      = some {
          size := toString t.entries.length
          entries := t.entries.zipIdx.map fun (c, i) => (toString i, c.arguments.map tokens) } := by
  have hentry : ∀ p ∈ t.entries.zipIdx, ∀ a ∈ p.1.arguments, IsItem a := fun p hp =>
    h p.1 (List.fst_mem_of_mem_zipIdx hp)
  have hsingle : ∀ st ∈ t.statements, semicolon ∉ st := by
    have hreturn : semicolon ∉ tokens "return result" := by decide +kernel
    refine List.forall_mem_cons.mpr ⟨semicolon_notMem_sizeTokens _, ?_⟩
    refine List.forall_mem_append.mpr ⟨?_, by simpa using hreturn⟩
    rw [List.forall_mem_map]
    exact fun p hp => semicolon_notMem_entryTokens (hentry p hp) p.2
  have hbrace : semicolon ∉ [Token.symbol '\x7d'] := by decide +kernel
  have hdrop := List.dropPrefix?_append_of_beq
    (t.statements.flatMap (· ++ [semicolon]) ++ [.symbol '\x7d']) (beq_self_eq_true (tokens head))
  have hread : (t.entries.zipIdx.map fun (c, i) => entryTokens i c).mapM readEntry?
      = some (t.entries.zipIdx.map fun (c, i) => (toString i, c.arguments.map tokens)) :=
    mapM_eq_some fun p hp => readEntry?_entryTokens (hentry p hp) p.2
  rw [read?, tokens_render h, hdrop, Option.bind_eq_bind, Option.bind_some,
    statements?_eq_some hbrace hsingle, Option.bind_eq_bind, Option.bind_some]
  simp [readBody?, statements, readSize?_sizeTokens, hread]

end SubscriptionTable

end ReactiveContract.Solidity
