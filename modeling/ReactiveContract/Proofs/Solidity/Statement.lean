import ReactiveContract.Proofs.Solidity.Token
import ReactiveContract.Proofs.Text.Joined
import ReactiveContract.Proofs.Text.Numeral
/-! Tokens as statements, and the items of the lists in brackets. -/
namespace ReactiveContract.Solidity
open Expression Text

def semicolon : Token := .symbol ';'

def comma : Token := .symbol ','

/-- The statements before a closing; each of them ends with a semicolon. -/
def statements? (closing ts : List Token) : Option (List (List Token)) :=
  let pieces := ts.splitOn semicolon
  if pieces.getLast? = some closing then some pieces.dropLast else none

/-- The number of open brackets after a token that belongs to an item; none if it ends the item. -/
def Token.depthAfter (level : Nat) : Token → Option Nat
  | .symbol c => Solidity.depthAfter .outside level c
  | _ => some level

/-- The number of open brackets after some tokens that belong to an item. -/
def scanItem (level : Nat) (ts : List Token) : Option Nat := ts.foldlM Token.depthAfter level

/-- Reads items up to the bracket that closes their list, from within the first of them, and
returns what follows the bracket too. -/
def readItems : Nat → List Token → Option (List (List Token) × List Token)
  | _, [] => none
  | level, t :: ts =>
    match t.depthAfter level with
    | some k => (readItems k ts).map fun (items, rest) => (items.modifyHead (t :: ·), rest)
    | none =>
      if t = comma then (readItems 0 ts).map fun (items, rest) => ([] :: items, rest)
      else some ([[]], ts)

/-- A text that is one item wherever it stands in a list. -/
structure IsItem (text : String) : Prop where
  closed : Closed text
  scanned : scanItem 0 (tokens text) = some 0
  single : semicolon ∉ tokens text

/-- A text of the characters of names, such as a name or a numeral. -/
def IsWord (s : String) : Prop := s ≠ "" ∧ ∀ c ∈ s.toList, isNameCharacter c = true

instance : DecidablePred IsWord := fun s =>
  decidable_of_iff (s ≠ "" ∧ s.toList.all isNameCharacter = true) <| by
    rw [IsWord, List.all_eq_true]

/-- A word between two texts does not run into either of them. -/
def Surrounds (before after : String) : Prop :=
  Closed before ∧ Closed after ∧ EndsApart before ∧ BeginsApart after

instance (before after : String) : Decidable (Surrounds before after) :=
  inferInstanceAs (Decidable (Closed before ∧ Closed after ∧ EndsApart before ∧ BeginsApart after))

theorem IsWord.append {s t : String} (hs : IsWord s) (ht : IsWord t) : IsWord (s ++ t) := by
  refine ⟨fun h => ?_, fun c hc => ?_⟩
  · have hnil := congrArg String.toList h
    rw [String.toList_append] at hnil
    exact hs.1 (String.toList_eq_nil_iff.mp (List.append_eq_nil_iff.mp hnil).1)
  · rw [String.toList_append] at hc
    rcases List.mem_append.mp hc with hc | hc
    · exact hs.2 c hc
    · exact ht.2 c hc

theorem isWord_toString (n : Nat) : IsWord (toString n) := by
  refine ⟨fun h => toString_toList_ne_nil n (String.toList_eq_nil_iff.mpr h), fun c hc => ?_⟩
  have hd : c.isDigit = true := isDigit_of_mem_toString hc
  simp [isNameCharacter, Char.isAlphanum, hd]

theorem IsWord.tokens_eq {s : String} (h : IsWord s) : tokens s = [.word s] :=
  tokens_name h.2 h.1

theorem IsWord.isItem {s : String} (h : IsWord s) : IsItem s := by
  refine ⟨closed_of_name h.2, ?_, ?_⟩
  · rw [h.tokens_eq]
    rfl
  · rw [h.tokens_eq]
    simp [semicolon]

theorem IsWord.closed {s : String} (h : IsWord s) : Closed s := closed_of_name h.2

theorem tokens_surrounded {before after word : String} (h : Surrounds before after)
    (hw : IsWord word) :
    tokens (before ++ word ++ after) = tokens before ++ .word word :: tokens after := by
  obtain ⟨hbefore, -, hlast, hfirst⟩ := h
  rw [tokens_append (hbefore.append hw.closed) (.inr hfirst),
    tokens_append hbefore (.inl hlast), hw.tokens_eq, List.append_assoc, List.singleton_append]

theorem closed_surrounded {before after word : String} (h : Surrounds before after)
    (hw : IsWord word) : Closed (before ++ word ++ after) :=
  (h.1.append hw.closed).append h.2.1

/-- A word after a text that it does not run into. -/
theorem tokens_ending {before word : String} (h : Surrounds before "") (hw : IsWord word) :
    tokens (before ++ word) = tokens before ++ [.word word] := by
  have hread := tokens_surrounded h hw
  rwa [String.append_empty] at hread

theorem closed_ending {before word : String} (h : Surrounds before "") (hw : IsWord word) :
    Closed (before ++ word) := h.1.append hw.closed

/-- Statements are read as they are written. -/
theorem statements?_eq_some {closing : List Token} (hc : semicolon ∉ closing)
    {sts : List (List Token)} (h : ∀ st ∈ sts, semicolon ∉ st) :
    statements? closing (sts.flatMap (· ++ [semicolon]) ++ closing) = some sts := by
  have hsplit : (sts.flatMap (· ++ [semicolon]) ++ closing).splitOn semicolon
      = sts ++ [closing] := by
    induction sts with
    | nil => exact List.splitOn_eq_singleton hc
    | cons st sts ih =>
      rw [List.flatMap_cons, List.append_assoc, List.append_assoc, List.singleton_append,
        List.splitOn_append_cons_self_of_not_mem (h st (by simp)),
        ih fun st' hst => h st' (by simp [hst])]
      rfl
  simp [statements?, hsplit]

/-- What is scanned as part of an item is read as part of it. -/
theorem readItems_append {level level' : Nat} {ts : List Token}
    (h : scanItem level ts = some level') (rest : List Token) :
    readItems level (ts ++ rest)
      = (readItems level' rest).map fun (items, rest) =>
          (items.modifyHead (ts ++ ·), rest) := by
  induction ts generalizing level with
  | nil =>
    have hid : (fun p : List (List Token) × List Token => (p.1.modifyHead ([] ++ ·), p.2))
        = id := by
      funext ⟨items, rest⟩
      cases items <;> rfl
    rw [Option.some.inj h]
    exact ((congrArg (Option.map · _) hid).trans (congrFun Option.map_id _)).symm
  | cons t ts ih =>
    obtain ⟨k, hk, hscan⟩ := Option.bind_eq_some_iff.mp h
    have hcons : ∀ items : List (List Token),
        (items.modifyHead (ts ++ ·)).modifyHead (t :: ·) = items.modifyHead (t :: ts ++ ·) := by
      intro items
      cases items <;> rfl
    simp only [List.cons_append, readItems, hk, ih hscan, Option.map_map]
    congr 1
    funext p
    exact congrArg (·, p.2) (hcons p.1)

/-- The items of a list are read as they are written, and the rest is left. -/
private theorem readItems_intercalate {items : List (List Token)} (hne : items ≠ [])
    (h : ∀ item ∈ items, scanItem 0 item = some 0) (rest : List Token) :
    readItems 0 ([comma].intercalate items ++ .symbol ')' :: rest) = some (items, rest) := by
  induction items with
  | nil => exact absurd rfl hne
  | cons item items ih =>
    have hitem : scanItem 0 item = some 0 := h item (by simp)
    cases items with
    | nil =>
      have hclose : readItems 0 (.symbol ')' :: rest) = some ([[]], rest) := rfl
      rw [List.intercalate_singleton, readItems_append hitem, hclose]
      simp
    | cons next items =>
      have hrest := ih (List.cons_ne_nil _ _) fun item' hi => h item' (by simp [hi])
      have hcomma : ∀ ts, readItems 0 (comma :: ts)
          = (readItems 0 ts).map fun (items, rest) => ([] :: items, rest) := fun _ => rfl
      rw [List.intercalate_cons_cons, List.append_assoc, List.append_assoc, readItems_append hitem,
        List.singleton_append, hcomma, hrest]
      simp

/-- Lines with a comma after each but the last are the items with commas between them. -/
theorem tokens_commaLines {items : List String} (h : ∀ item ∈ items, Closed item) :
    (commaLines items).flatMap tokens = [comma].intercalate (items.map tokens) := by
  induction items with
  | nil => rfl
  | cons item items ih =>
    have hrest := ih fun item' hi => h item' (by simp [hi])
    cases items with
    | nil => simp [commaLines]
    | cons next items =>
      have hcomma : tokens (item ++ ",") = tokens item ++ [comma] :=
        tokens_append (h item (by simp)) (.inr (by decide))
      rw [commaLines.eq_3 _ _ (List.cons_ne_nil _ _), List.flatMap_cons, hcomma, hrest]
      simp only [List.map_cons, List.intercalate_cons_cons]

theorem closed_commaLines {items : List String} (h : ∀ item ∈ items, Closed item) :
    ∀ line ∈ commaLines items, Closed line := by
  induction items with
  | nil => simp [commaLines]
  | cons item items ih =>
    have hrest := ih fun item' hi => h item' (by simp [hi])
    have hitem : Closed item := h item (by simp)
    cases items with
    | nil => simpa [commaLines] using hitem
    | cons next items =>
      have hcomma : Closed (item ++ ",") := hitem.append (by decide)
      exact List.forall_mem_cons.mpr ⟨hcomma, hrest⟩

section Arguments
variable {arguments : List String} (h : ∀ a ∈ arguments, IsItem a)
include h

/-- Arguments are read one by one. -/
theorem readItems_arguments (hne : arguments ≠ []) (rest : List Token) :
    readItems 0 ([comma].intercalate (arguments.map tokens) ++ .symbol ')' :: rest)
      = some (arguments.map tokens, rest) := by
  have hne' : arguments.map tokens ≠ [] := by simpa using hne
  refine readItems_intercalate hne' ?_ rest
  rw [List.forall_mem_map]
  exact fun a ha => (h a ha).scanned

theorem semicolon_notMem_arguments : semicolon ∉ [comma].intercalate (arguments.map tokens) := by
  refine notMem_intercalate (by decide) ?_
  rw [List.forall_mem_map]
  exact fun a ha => (h a ha).single

end Arguments

end ReactiveContract.Solidity
