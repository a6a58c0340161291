import ReactiveContract.Proofs.Solidity.Argument
import ReactiveContract.Proofs.Solidity.Literal
import ReactiveContract.Solidity.Fragment
/-! Source text as tokens. Blanks are between tokens, except within quotes; comments are not looked
for. -/
namespace ReactiveContract.Solidity
open Expression Text

/-- A run of the characters of names, what stands between quotes, or any other character. -/
inductive Token where
  | word (text : String)
  | quoted (text : String)
  | symbol (c : Char)
  deriving DecidableEq, Repr

/-- The word that has been read so far, if any. -/
def wordOf (cs : List Char) : List Token := if cs = [] then [] else [.word (String.ofList cs)]

/-- The token that a character completes, if any; the characters of it so far are given. -/
def completed (taken : List Char) : Mode → Char → List Token
  | .outside, c =>
    if isNameCharacter c then []
    else if isQuote c || isBlank c then wordOf taken
    else wordOf taken ++ [.symbol c]
  | .quoted quote, c => if c = quote ∧ c ≠ '\\' then [.quoted (String.ofList taken)] else []
  | .escaped _, _ => []

/-- The characters of an incomplete token after one more character. -/
def pending (taken : List Char) : Mode → Char → List Char
  | .outside, c => if isNameCharacter c then taken ++ [c] else []
  | .quoted quote, c => if c = quote ∧ c ≠ '\\' then [] else taken ++ [c]
  | .escaped _, c => taken ++ [c]

/-- The tokens from within one of them on, whose characters so far are given. -/
def tokensFrom : Mode → List Char → List Char → List Token
  | .outside, taken, [] => wordOf taken
  | _, taken, [] => [.quoted (String.ofList taken)]
  | mode, taken, c :: cs =>
    completed taken mode c ++ tokensFrom (mode.next c) (pending taken mode c) cs

def tokens (text : String) : List Token := tokensFrom .outside [] text.toList

/-- Every quote in the text is closed. -/
def Closed (text : String) : Prop := text.toList.foldl Mode.next .outside = .outside

instance : DecidablePred Closed := fun text =>
  inferInstanceAs (Decidable (text.toList.foldl Mode.next .outside = .outside))

/-- The last character, if any, is one that no name has. -/
def EndsApart (s : String) : Prop := ∀ c ∈ s.toList.getLast?, isNameCharacter c = false

/-- The first character, if any, is one that no name has. -/
def BeginsApart (t : String) : Prop := ∀ c ∈ t.toList.head?, isNameCharacter c = false

-- By the one character at hand: a search over all characters would decide these too.
instance : DecidablePred EndsApart := fun s =>
  decidable_of_iff (s.toList.getLast?.all (!isNameCharacter ·) = true) <| by
    simp [EndsApart, Option.all_eq_true]

instance : DecidablePred BeginsApart := fun t =>
  decidable_of_iff (t.toList.head?.all (!isNameCharacter ·) = true) <| by
    simp [BeginsApart, Option.all_eq_true]

def Apart (s t : String) : Prop := EndsApart s ∨ BeginsApart t

private theorem next_outside_of_name {c : Char} (h : isNameCharacter c = true) :
    Mode.next .outside c = .outside := by
  have hq : isQuote c = false := (ne_of_notMem_specials (notMem_specials (by decide) h)).1
  simp [Mode.next, hq]

theorem tokensFrom_cons (mode : Mode) (taken : List Char) (c : Char) (cs : List Char) :
    tokensFrom mode taken (c :: cs)
      = completed taken mode c ++ tokensFrom (mode.next c) (pending taken mode c) cs := by
  cases mode <;> rfl

/-- A word goes on as long as there are characters of names. -/
private theorem tokensFrom_name {cs : List Char} (h : ∀ c ∈ cs, isNameCharacter c = true)
    (taken rest : List Char) :
    tokensFrom .outside taken (cs ++ rest) = tokensFrom .outside (taken ++ cs) rest := by
  induction cs generalizing taken with
  | nil => rw [List.nil_append, List.append_nil]
  | cons c cs ih =>
    have hc : isNameCharacter c = true := h c (by simp)
    have hstep : tokensFrom .outside taken (c :: (cs ++ rest))
        = tokensFrom .outside (taken ++ [c]) (cs ++ rest) := by
      rw [tokensFrom_cons, next_outside_of_name hc]
      simp [completed, pending, hc]
    rw [List.cons_append, hstep, ih fun d hd => h d (by simp [hd]), List.append_assoc,
      List.singleton_append]

/-- Outside of quotes, a character that no name has ends the token before it. -/
private theorem tokensFrom_outside {c : Char} (hc : isNameCharacter c = false)
    (taken rest : List Char) :
    tokensFrom .outside taken (c :: rest) = wordOf taken ++ tokensFrom .outside [] (c :: rest) := by
  have hcompleted : completed taken .outside c = wordOf taken ++ completed [] .outside c := by
    by_cases hb : (isQuote c || isBlank c) = true <;> simp [completed, hc, hb, wordOf]
  rw [tokensFrom_cons, tokensFrom_cons, hcompleted, List.append_assoc]
  simp [pending, hc]

/-- Tokens are read one after the other where a new one begins. -/
private theorem tokensFrom_append {mode : Mode} {taken cs : List Char}
    (hcs : cs.foldl Mode.next mode = .outside) {c : Char} (hc : isNameCharacter c = false)
    (rest : List Char) :
    tokensFrom mode taken (cs ++ c :: rest)
      = tokensFrom mode taken cs ++ tokensFrom .outside [] (c :: rest) := by
  induction cs generalizing mode taken with
  | nil =>
    rw [List.foldl_nil] at hcs
    subst hcs
    exact tokensFrom_outside hc taken rest
  | cons d cs ih =>
    rw [List.foldl_cons] at hcs
    rw [List.cons_append, tokensFrom_cons, tokensFrom_cons, ih hcs, List.append_assoc]

/-- The same where the last character ends a token. -/
private theorem tokensFrom_append_of_last {mode : Mode} {taken cs : List Char}
    (hcs : cs.foldl Mode.next mode = .outside)
    (hlast : ∀ c ∈ cs.getLast?, isNameCharacter c = false) (hnil : cs = [] → taken = [])
    (rest : List Char) :
    tokensFrom mode taken (cs ++ rest)
      = tokensFrom mode taken cs ++ tokensFrom .outside [] rest := by
  induction cs generalizing mode taken with
  | nil =>
    rw [List.foldl_nil] at hcs
    rw [hcs, hnil rfl]
    rfl
  | cons c cs ih =>
    rw [List.foldl_cons] at hcs
    rw [List.cons_append, tokensFrom_cons, tokensFrom_cons, List.append_assoc]
    congr 1
    refine ih hcs (fun d hd => hlast d ?_) fun h => ?_
    · rw [List.getLast?_cons, Option.mem_def.mp hd]
      rfl
    · subst h
      have hc : isNameCharacter c = false := hlast c rfl
      rw [List.foldl_nil] at hcs
      -- Outside of quotes after a character of no name, nothing is left incomplete.
      cases mode with
      | outside => simp [pending, hc]
      | quoted quote =>
        by_cases he : c = '\\'
        · simp [Mode.next, he] at hcs
        · by_cases hq : c = quote
          · exact if_pos ⟨hq, he⟩
          · simp [Mode.next, he, hq] at hcs
      | escaped quote => simp [Mode.next] at hcs

theorem tokens_append {s t : String} (hs : Closed s) (h : Apart s t) :
    tokens (s ++ t) = tokens s ++ tokens t := by
  unfold tokens
  rw [String.toList_append]
  rcases h with h | h
  · exact tokensFrom_append_of_last hs h (fun _ => rfl) t.toList
  · cases ht : t.toList with
    | nil => simp [tokensFrom, wordOf]
    | cons c cs => exact tokensFrom_append hs (h c (by rw [ht]; rfl)) cs

theorem Closed.append {s t : String} (hs : Closed s) (ht : Closed t) : Closed (s ++ t) := by
  unfold Closed at hs ⊢
  rw [String.toList_append, List.foldl_append, hs]
  exact ht

theorem closed_of_unquoted {s : String} (h : ∀ c ∈ s.toList, isQuote c = false) : Closed s := by
  unfold Closed
  generalize s.toList = cs at h
  induction cs with
  | nil => rfl
  | cons c cs ih =>
    have hc : Mode.next .outside c = .outside := by simp [Mode.next, h c (by simp)]
    rw [List.foldl_cons, hc]
    exact ih fun d hd => h d (by simp [hd])

theorem closed_of_name {s : String} (h : ∀ c ∈ s.toList, isNameCharacter c = true) : Closed s :=
  closed_of_unquoted fun c hc => (ne_of_notMem_specials (notMem_specials (by decide) (h c hc))).1

theorem tokens_name {s : String} (h : ∀ c ∈ s.toList, isNameCharacter c = true) (hne : s ≠ "") :
    tokens s = [.word s] := by
  have hread := tokensFrom_name h [] []
  rw [List.append_nil, List.nil_append] at hread
  have hcs : s.toList ≠ [] := fun hnil => hne (String.toList_eq_nil_iff.mp hnil)
  rw [tokens, hread, tokensFrom, wordOf, if_neg hcs, String.ofList_toList]

private theorem tokensFrom_blank {cs : List Char} (h : ∀ c ∈ cs, c = ' ') (rest : List Char) :
    tokensFrom .outside [] (cs ++ rest) = tokensFrom .outside [] rest := by
  induction cs with
  | nil => rfl
  | cons c cs ih =>
    rw [h c (by simp), List.cons_append, tokensFrom_cons]
    exact ih fun d hd => h d (by simp [hd])

theorem eq_of_mem_indentation {level : Nat} {c : Char} (h : c ∈ (indentation level).toList) :
    c = ' ' := by
  rw [indentation, String.toList_join, List.mem_flatMap] at h
  obtain ⟨u, hu, hc⟩ := h
  rw [List.eq_of_mem_replicate hu] at hc
  have hunit : indentUnit.toList = [' ', ' ', ' ', ' '] := rfl
  simpa [hunit] using hc

theorem tokens_indentation (level : Nat) (s : String) :
    tokens (indentation level ++ s) = tokens s := by
  unfold tokens
  rw [String.toList_append, tokensFrom_blank fun c hc => eq_of_mem_indentation hc]

theorem tokens_indentUnit (s : String) : tokens (indentUnit ++ s) = tokens s :=
  tokens_indentation 1 s

theorem closed_indentation {s : String} (h : Closed s) (level : Nat) :
    Closed (indentation level ++ s) := by
  refine Closed.append (closed_of_unquoted fun c hc => ?_) h
  rw [eq_of_mem_indentation hc]
  rfl

/-- What follows a line is read apart from it. -/
theorem tokens_joinLines_cons {line : String} (h : Closed line) (lines : List String) :
    tokens (joinLines (line :: lines)) = tokens line ++ tokens (joinLines lines) := by
  by_cases hnil : lines = []
  · have hempty : tokens (joinLines []) = [] := rfl
    rw [hnil, hempty, joinLines, String.intercalate_singleton, List.append_nil]
  · have hbreak : tokens ("\n" ++ joinLines lines) = tokens (joinLines lines) :=
      tokens_append (s := "\n") (by decide) (.inl (by decide))
    have hsplit : joinLines (line :: lines) = line ++ ("\n" ++ joinLines lines) := by
      rw [joinLines, String.intercalate_cons_of_ne_nil hnil, String.append_assoc]
      rfl
    have hapart : Apart line ("\n" ++ joinLines lines) := by
      right
      rw [BeginsApart, String.toList_append]
      simp [isNameCharacter]
    rw [hsplit, tokens_append h hapart, hbreak]

/-- Lines begin with the tokens that their first line begins with. -/
theorem exists_tokens_joinLines {line : String} (h : Closed line) {t u : Token}
    (htake : (tokens line).take 2 = [t, u]) (lines : List String) :
    ∃ ts, tokens (joinLines (line :: lines)) = t :: u :: ts := by
  rw [tokens_joinLines_cons h, ← List.take_append_drop 2 (tokens line), htake]
  exact ⟨_, rfl⟩

/-- Lines are read one by one. -/
theorem tokens_joinLines {lines : List String} (h : ∀ line ∈ lines, Closed line) :
    tokens (joinLines lines) = lines.flatMap tokens := by
  induction lines with
  | nil => rfl
  | cons line lines ih =>
    have hrest := ih fun l hl => h l (by simp [hl])
    rw [tokens_joinLines_cons (h line (by simp)), hrest, List.flatMap_cons]

theorem tokens_indent (level : Nat) (lines : List String) :
    (indent level lines).flatMap tokens = lines.flatMap tokens := by
  rw [indent, List.flatMap_map]
  refine List.flatMap_congr fun line _ => ?_
  by_cases h : line = ""
  · rw [if_pos h, h]
  · rw [if_neg h, tokens_indentation]

theorem closed_indent {level : Nat} {lines : List String} (h : ∀ line ∈ lines, Closed line) :
    ∀ line ∈ indent level lines, Closed line := by
  intro line hline
  obtain ⟨inner, hinner, rfl⟩ := List.mem_map.mp hline
  by_cases hempty : inner = ""
  · rw [if_pos hempty]
    rfl
  · rw [if_neg hempty]
    exact closed_indentation (h inner hinner) level

end ReactiveContract.Solidity
