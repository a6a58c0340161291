import ReactiveContract.Proofs.Solidity.Layout
import ReactiveContract.Solidity.Library
import ReactiveContract.Solidity.Word
/-! The names that have a meaning before a contract is declared: the words of the language and what
the library declares. Where a line uses a name that is declared elsewhere. -/
namespace ReactiveContract.Solidity
open Expression Text

/-- The words with a meaning in the syntax. -/
def syntaxWords : List String := [
  "abstract", "address", "anonymous", "as", "assembly", "bool", "break", "bytes", "calldata",
  "catch", "constant", "constructor", "continue", "contract", "delete", "do", "else", "emit", "enum",
  "event", "external", "fallback", "false", "fixed", "for", "function", "hex", "if", "immutable",
  "import", "indexed", "int", "interface", "internal", "is", "library", "mapping", "memory",
  "modifier", "new", "override", "payable", "pragma", "private", "public", "pure", "receive",
  "return", "returns", "storage", "string", "struct", "throw", "true", "try", "type", "ufixed",
  "uint", "unchecked", "unicode", "using", "view", "virtual", "while"]

/-- The units of value and of time, which stand after numbers. -/
def denominations : List String :=
  ["wei", "gwei", "ether", "seconds", "minutes", "hours", "days", "weeks", "years"]

/-- The words that are kept for later versions. -/
def futureWords : List String := [
  "after", "alias", "apply", "auto", "byte", "case", "copyof", "default", "define", "final",
  "implements", "in", "inline", "let", "macro", "match", "mutable", "null", "of", "partial",
  "promise", "reference", "relocatable", "sealed", "sizeof", "static", "supports", "switch",
  "typedef", "typeof", "var"]

/-- The names of the elementary types that have a size. -/
inductive SizedType : String → Prop
  | integer {base : String} (hb : base = "int" ∨ base = "uint") {n : Nat} (hn : 1 ≤ n ∧ n ≤ 32) :
    SizedType (base ++ toString (8 * n))
  | bytes {n : Nat} (hn : 1 ≤ n ∧ n ≤ 32) : SizedType ("bytes" ++ toString n)
  | fixed {base : String} (hb : base = "fixed" ∨ base = "ufixed") {m n : Nat}
    (hm : 1 ≤ m ∧ m ≤ 32) (hn : n ≤ 80) :
    SizedType (base ++ (toString (8 * m) ++ "x" ++ toString n))

/-- A word of the language, which no declaration can have for a name. -/
def ReservedWord (name : String) : Prop :=
  name ∈ syntaxWords ∨ name ∈ denominations ∨ name ∈ futureWords ∨ SizedType name

/-- The words of the language that are not refused. -/
def unlistedWords : List String := denominations ++ ["fallback", "receive", "unicode"]

/-- The words that begin a declaration with a name. -/
def declaringWords : List String :=
  ["contract", "interface", "library", "struct", "enum", "error", "event", "function"]

/-- The name that a declaration gives. -/
def declared? : List Token → Option String
  | .word first :: .word second :: rest =>
    if first ∈ declaringWords then some second else declared? (.word second :: rest)
  | _ => none

/-- The names of the declarations that begin on unindented lines. -/
def topLevelNames (text : String) : List String :=
  ((linesOf text).filter (dedent? · = none)).filterMap fun line => declared? (tokens line)

/-- Where a scan of a line stands: in the code, after a slash there, between quotes, after a
backslash there, in a comment, after an asterisk there, or in a comment up to the end of the line. -/
inductive Place where
  | code
  | slash
  | quoted (quote : Char)
  | escaped (quote : Char)
  | comment
  | asterisk
  | remark
  deriving DecidableEq, Repr

namespace Place

def next : Place → Char → Place
  | .code, c => if isQuote c then .quoted c else if c = '/' then .slash else .code
  | .slash, c =>
    if c = '/' then .remark
    else if c = '*' then .comment
    else if isQuote c then .quoted c
    else .code
  | .quoted quote, c =>
    if c = '\\' then .escaped quote else if c = quote then .code else .quoted quote
  | .escaped quote, _ => .quoted quote
  | .comment, c => if c = '*' then .asterisk else .comment
  | .asterisk, c => if c = '/' then .code else if c = '*' then .asterisk else .comment
  | .remark, _ => .remark

def isCode (place : Place) : Bool := place = .code || place = .slash

end Place

/-- The name stands in the code of the line by itself, and not for a member of something. -/
def StandsIn (line name : String) : Prop :=
  ∃ before after, line = before ++ name ++ after ∧ EndsApart before ∧ BeginsApart after
    ∧ (before.toList.foldl Place.next .code).isCode = true ∧ before.toList.getLast? ≠ some '.'

theorem StandsIn.mentions {line name : String} (h : StandsIn line name) (hname : IsWord name) :
    Mentions line name := by
  obtain ⟨before, after, rfl, hbefore, hafter, -⟩ := h
  rw [mentions_append hname.1 (.inr hafter), mentions_append hname.1 (.inl hbefore)]
  exact .inl (.inr (hname.mentions_iff.mpr rfl))

/-- A finer division of a list divides the parts of a coarser one. -/
private theorem mem_splitOnP_of_mem {α : Type} {p q : α → Bool} (hpq : ∀ a, p a = true → q a = true)
    {xs part piece : List α} (hpart : part ∈ xs.splitOnP p) (hpiece : piece ∈ part.splitOnP q) :
    piece ∈ xs.splitOnP q := by
  induction hlength : xs.length using Nat.strong_induction_on generalizing xs with
  | h n ih =>
    by_cases hx : ∀ a ∈ xs, p a = false
    · rw [List.splitOnP_eq_singleton hx, List.mem_singleton] at hpart
      rwa [hpart] at hpiece
    · push Not at hx
      obtain ⟨a, ha, hp⟩ := hx
      rw [ne_eq, Bool.not_eq_false] at hp
      obtain ⟨before, after, rfl⟩ := List.append_of_mem ha
      rw [List.length_append, List.length_cons] at hlength
      rw [List.splitOnP_append_cons _ _ hp] at hpart
      rw [List.splitOnP_append_cons _ _ (hpq a hp)]
      rcases List.mem_append.mp hpart with hpart | hpart
      · exact List.mem_append_left _ (ih before.length (by omega) hpart rfl)
      · exact List.mem_append_right _ (ih after.length (by omega) hpart rfl)

/-- What a line mentions, its text does. -/
theorem mentions_of_mem_linesOf {text line name : String} (hline : line ∈ linesOf text)
    (h : Mentions line name) : Mentions text name := by
  have hbreak : ∀ c, isLineBreak c = true → (!isNameCharacter c) = true := by
    intro c hc
    rw [isLineBreak, Bool.or_eq_true, decide_eq_true_eq, decide_eq_true_eq] at hc
    rcases hc with rfl | rfl <;> decide
  obtain ⟨cs, hcs, rfl⟩ := List.mem_map.mp hline
  rw [Mentions, String.toList_ofList] at h
  exact mem_splitOnP_of_mem hbreak hcs h

section Digits
variable {ds es : List Char}

theorem ne_x_of_isDigit (h : ∀ c ∈ ds, c.isDigit = true) : ∀ c ∈ ds, (c != 'x') = true := by
  intro c hc
  rw [bne_iff_ne]
  rintro rfl
  exact absurd (h _ hc) (by decide)

private theorem isSizeSuffix_digits (hne : ds ≠ []) (h : ∀ c ∈ ds, c.isDigit = true) :
    isSizeSuffix ds = true := by
  have hend : ∀ c ∈ ([] : List Char).head?, (c != 'x') = false := by simp
  obtain ⟨-, hdrop⟩ := takeWhile_append_of_all (ne_x_of_isDigit h) hend
  rw [List.append_nil] at hdrop
  simp [isSizeSuffix, hdrop, hne, List.all_eq_true.mpr h]

private theorem isSizeSuffix_pair (hds : ds ≠ []) (hd : ∀ c ∈ ds, c.isDigit = true) (hes : es ≠ [])
    (he : ∀ c ∈ es, c.isDigit = true) : isSizeSuffix (ds ++ 'x' :: es) = true := by
  have hx : ∀ c ∈ ('x' :: es).head?, (c != 'x') = false := by simp
  obtain ⟨htake, hdrop⟩ := takeWhile_append_of_all (ne_x_of_isDigit hd) hx
  simp [isSizeSuffix, htake, hdrop, hds, hes, List.all_eq_true.mpr hd, List.all_eq_true.mpr he]

end Digits

theorem isSizedType_append {base suffix : String}
    (hb : base ∈ ["int", "uint", "bytes", "fixed", "ufixed"])
    (hs : isSizeSuffix suffix.toList = true) (hd : ∀ c ∈ suffix.toList.head?, c.isDigit = true) :
    isSizedType (base ++ suffix) = true := by
  have hletters : ∀ base ∈ ["int", "uint", "bytes", "fixed", "ufixed"],
      base.toList.all Char.isAlpha = true := by decide
  have hhead : ∀ c ∈ suffix.toList.head?, c.isAlpha = false := fun c hc => by
    have hdigit := isDigit_iff.mp (hd c hc)
    rw [← Bool.not_eq_true, isAlpha_iff]
    omega
  obtain ⟨htake, hdrop⟩ := takeWhile_append_of_all (List.all_eq_true.mp (hletters base hb)) hhead
  rw [isSizedType, String.toList_append, htake, hdrop, String.ofList_toList]
  simp [hb, hs]

/-- The names of elementary types are refused. -/
theorem SizedType.refused {name : String} (h : SizedType name) : isSizedType name = true := by
  have hdigits (n : Nat) : ∀ c ∈ (toString n).toList, c.isDigit = true := fun _ =>
    isDigit_of_mem_toString
  have hhead (n : Nat) (rest : List Char) :
      ∀ c ∈ ((toString n).toList ++ rest).head?, c.isDigit = true := fun c hc => by
    rw [List.head?_append_of_ne_nil _ (toString_toList_ne_nil n)] at hc
    exact hdigits n c (List.mem_of_mem_head? hc)
  have hnumber {base : String} (hb : base ∈ ["int", "uint", "bytes", "fixed", "ufixed"]) (n : Nat) :
      isSizedType (base ++ toString n) = true := by
    refine isSizedType_append hb (isSizeSuffix_digits (toString_toList_ne_nil n) (hdigits n)) ?_
    exact List.append_nil (toString n).toList ▸ hhead n []
  cases h with
  | integer hb => rcases hb with rfl | rfl <;> exact hnumber (by simp) _
  | bytes => exact hnumber (by simp) _
  | @fixed base hb m n =>
    have hlist : (toString (8 * m) ++ "x" ++ toString n).toList
        = (toString (8 * m)).toList ++ 'x' :: (toString n).toList := by
      rw [String.toList_append, String.toList_append, List.append_assoc]
      rfl
    refine isSizedType_append ?_ ?_ ?_
    · rcases hb with rfl | rfl <;> simp
    · rw [hlist]
      exact isSizeSuffix_pair (toString_toList_ne_nil _) (hdigits _) (toString_toList_ne_nil _)
        (hdigits _)
    · rw [hlist]
      exact hhead _ _

/-- Of the words of the language that are not refused there is a list. -/
theorem reservedWord_iff {name : String} (h : isReserved name = false) :
    ReservedWord name ↔ name ∈ unlistedWords := by
  have hwords : ∀ w ∈ syntaxWords ++ denominations ++ futureWords,
      isReserved w = true ∨ w ∈ unlistedWords := by decide +kernel
  have hlisted : ∀ w ∈ unlistedWords, w ∈ syntaxWords ∨ w ∈ denominations := by decide +kernel
  constructor
  · intro hword
    have hsome : name ∈ syntaxWords ++ denominations ++ futureWords := by
      rcases hword with hword | hword | hword | hsized
      · exact List.mem_append_left _ (List.mem_append_left _ hword)
      · exact List.mem_append_left _ (List.mem_append_right _ hword)
      · exact List.mem_append_right _ hword
      · rw [isReserved, hsized.refused, Bool.or_true] at h
        cases h
    rcases hwords name hsome with hrefused | hunlisted
    · rw [hrefused] at h
      cases h
    · exact hunlisted
  · intro hunlisted
    rcases hlisted name hunlisted with hword | hword
    · exact .inl hword
    · exact .inr (.inl hword)

section Library

/-- The parts of the library, which empty lines separate. -/
def libraryParts : List String := [
  reactiveInterface, payableInterface, payerInterface, payerContract, subscriptionInterface,
  systemInterface, reactiveContract, pausableContract]

theorem library_eq : library = "\n\n".intercalate libraryParts ++ "\n" := rfl

theorem topLevelNames_append_break (s t : String) :
    topLevelNames (s ++ "\n" ++ t) = topLevelNames s ++ topLevelNames t := by
  simp only [topLevelNames, linesOf_append_break, List.filter_append, List.filterMap_append]

theorem mem_linesOf_of_chars {text line : String} {cs ds : List Char}
    (ht : text = String.ofList cs) (hl : line = String.ofList ds)
    (h : ds ∈ cs.splitOnP isLineBreak) : line ∈ linesOf text := by
  rw [linesOf, ht, hl, String.toList_ofList]
  exact List.mem_map_of_mem h

/-- The names that a text declares, by its characters. -/
def declaredNames (cs : List Char) : List String :=
  ((cs.splitOnP isLineBreak).filter fun line => ¬ indentUnit.toList <+: line).filterMap
    fun line => declared? (tokensFrom .outside [] line)

theorem topLevelNames_of_chars {s : String} {cs : List Char} (hs : s = String.ofList cs) :
    topLevelNames s = declaredNames cs := by
  have hunindented (line : List Char) :
      decide (dedent? (String.ofList line) = none) = decide (¬ indentUnit.toList <+: line) := by
    rw [dedent?, String.toList_ofList]
    by_cases h : indentUnit.toList <+: line <;> simp [h]
  unfold topLevelNames declaredNames linesOf
  rw [hs, String.toList_ofList, List.filter_map, List.filterMap_map]
  simp only [Function.comp_def, hunindented, tokens, String.toList_ofList]

set_option maxRecDepth 20000 in
private theorem topLevelNames_parts : libraryParts.flatMap topLevelNames = [
    "IReactive", "IPayable", "IPayer", "AbstractPayer", "ISubscriptionService", "ISystemContract",
    "AbstractReactive", "AbstractPausableReactive"] := by
  simp only [libraryParts, List.flatMap_cons, List.flatMap_nil]
  rw [topLevelNames_of_chars (s := reactiveInterface) rfl,
    topLevelNames_of_chars (s := payableInterface) rfl,
    topLevelNames_of_chars (s := payerInterface) rfl,
    topLevelNames_of_chars (s := payerContract) rfl,
    topLevelNames_of_chars (s := subscriptionInterface) rfl,
    topLevelNames_of_chars (s := systemInterface) rfl,
    topLevelNames_of_chars (s := reactiveContract) rfl,
    topLevelNames_of_chars (s := pausableContract) rfl]
  decide +kernel

private theorem topLevelNames_blocks (texts : List String) :
    topLevelNames ("\n\n".intercalate texts) = texts.flatMap topLevelNames := by
  have hnone : topLevelNames "" = [] := rfl
  induction texts with
  | nil => exact hnone
  | cons text rest ih =>
    by_cases hnil : rest = []
    · rw [hnil, String.intercalate_singleton, List.flatMap_singleton]
    · have hblank : text ++ "\n" ++ "\n" = text ++ "\n\n" := String.append_assoc
      have hsplit : "\n\n".intercalate (text :: rest)
          = text ++ "\n" ++ "" ++ "\n" ++ "\n\n".intercalate rest := by
        rw [String.intercalate_cons_of_ne_nil hnil, String.append_empty, hblank]
      rw [hsplit, topLevelNames_append_break, topLevelNames_append_break, ih, hnone,
        List.append_nil, List.flatMap_cons]

/-- The contracts and interfaces of the library. -/
theorem topLevelNames_library : topLevelNames library = [
    "IReactive", "IPayable", "IPayer", "AbstractPayer", "ISubscriptionService", "ISystemContract",
    "AbstractReactive", "AbstractPausableReactive"] := by
  have hend : library = "\n\n".intercalate libraryParts ++ "\n" ++ "" := by
    rw [library_eq, String.append_empty]
  have hnone : topLevelNames "" = [] := rfl
  rw [hend, topLevelNames_append_break, topLevelNames_blocks, topLevelNames_parts, hnone]
  rfl

theorem silent_of_chars {s : String} {cs : List Char} (hs : s = String.ofList cs)
    (h : isSilent cs = true) : ∀ w ∈ otherBuiltins, ¬ Mentions s w := by
  rw [← isSilent_iff, hs, String.toList_ofList]
  exact h

set_option maxRecDepth 20000 in
theorem silent_parts : ∀ part ∈ libraryParts, ∀ w ∈ otherBuiltins, ¬ Mentions part w := by
  simp only [libraryParts, List.forall_mem_cons, List.not_mem_nil, false_implies, implies_true,
    and_true]
  exact ⟨silent_of_chars rfl (by decide +kernel), silent_of_chars rfl (by decide +kernel),
    silent_of_chars rfl (by decide +kernel), silent_of_chars rfl (by decide +kernel),
    silent_of_chars rfl (by decide +kernel), silent_of_chars rfl (by decide +kernel),
    silent_of_chars rfl (by decide +kernel), silent_of_chars rfl (by decide +kernel)⟩

/-- The library is made of its parts. -/
theorem composed_library {Given : String → Prop} (hbreak : Composed Given "\n")
    (h : ∀ part ∈ libraryParts, Composed Given part) : Composed Given library :=
  (Composed.blocks hbreak h).append hbreak (.inr separates_break.begins)

end Library

end ReactiveContract.Solidity
