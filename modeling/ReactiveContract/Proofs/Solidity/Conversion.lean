import ReactiveContract.Address
import ReactiveContract.Proofs.Abi.Extraction
import ReactiveContract.Proofs.Solidity.Statement
/-! Values of the elementary types, the conversions between them, and the value of an expression
over one word. -/
namespace ReactiveContract.Solidity
open Abi Text

/-- A value of an elementary type; signed integers are in two's complement, and the first byte of
a byte string is the highest. -/
inductive Value where
  | address (a : Address)
  | bool (b : Bool)
  | uint (bits : Nat) (n : BitVec bits)
  | int (bits : Nat) (n : BitVec bits)
  | bytes (size : Nat) (bs : BitVec (8 * size))
  deriving DecidableEq

namespace Value

inductive HasType : Value → ValueType → Prop
  | address (a : Address) : HasType (.address a) .address
  | bool (b : Bool) (suffix : Suffix) : HasType (.bool b) (.bool suffix)
  | uint {bits : Nat} (n : BitVec bits) : HasType (.uint bits n) (.uint bits)
  | int {bits : Nat} (n : BitVec bits) : HasType (.int bits n) (.int bits)
  | bytes {size : Nat} (bs : BitVec (8 * size)) : HasType (.bytes size bs) (.bytes (some size))

/-- An explicit conversion, if the language has it. An unsigned integer keeps its low bits, and so
does a signed one, whose sign bit fills what is added; a byte string keeps its first bytes. From
one kind to another only the bits of one and the same width are read anew. -/
def convert? : ValueType → Value → Option Value
  | .uint bits, .uint _ n => some (.uint bits (n.setWidth bits))
  | .int bits, .int _ n => some (.int bits (n.signExtend bits))
  | .int bits, .uint width n =>
    if width = bits then some (.int bits (n.setWidth bits)) else none
  | .bytes (some size), .uint width n =>
    if width = 8 * size then some (.bytes size (n.setWidth (8 * size))) else none
  | .bytes (some size), .bytes length bs =>
    if size ≤ length then some (.bytes size (bs.extractLsb' (8 * (length - size)) (8 * size)))
    else none
  | .address, .uint width n => if width = 160 then some (.address ⟨n.setWidth 160⟩) else none
  | _, _ => none

/-- The comparison of an integer with zero. -/
def nonzero? : Value → Option Value
  | .uint _ n | .int _ n => some (.bool (n != 0))
  | _ => none

end Value

/-- Reads a topic by the tokens of its name, or the conversion of a term by the name of the type,
and returns what follows too. -/
def readTerm (topic : List Token) (word : BitVec 256) : List Token → Option (Value × List Token)
  | .word name :: .symbol '(' :: rest =>
    match ValueType.ofText name, readTerm topic word rest with
    | .ok t, some (v, .symbol ')' :: rest) => (v.convert? t).map (·, rest)
    | _, _ => none
  | ts => (ts.dropPrefix? topic).map (.uint 256 word, ·)

/-- The value of a term, or of its comparison with zero, where a topic has a name and a word. -/
def evaluate? (name : String) (word : BitVec 256) (text : String) : Option Value :=
  match readTerm (tokens name) word (tokens text) with
  | some (v, rest) =>
    if rest = [] then some v else if rest = tokens "!= 0" then v.nonzero? else none
  | none => none

section Reading
variable {name : String} {word : BitVec 256}

/-- A text that is read as a value in front of everything but an opening bracket. -/
structure Denotes (name : String) (word : BitVec 256) (text : String) (v : Value) : Prop where
  closed : Closed text
  read : ∀ rest, rest.head? ≠ some (.symbol '(') →
    readTerm (tokens name) word (tokens text ++ rest) = some (v, rest)

private theorem isWord_type {t : ValueType} (h : t.WellFormed) : IsWord t.text := by
  refine ⟨fun hempty => ?_, fun c hc => ?_⟩
  · have hread := ValueType.ofText_text h
    rw [hempty] at hread
    cases hread
  · have hcanonical : Canonical t.text := ⟨t, h, rfl⟩
    simp [isNameCharacter, hcanonical.isAlphanum c hc]

private theorem readTerm_name {topic ts : List Token} {first : String}
    (h : ts.head? ≠ some (.symbol '(')) :
    readTerm topic word (.word first :: ts)
      = ((.word first :: ts).dropPrefix? topic).map (.uint 256 word, ·) := by
  cases ts with
  | nil => rfl
  | cons t ts =>
    rw [readTerm]
    rintro _ _ ⟨⟩
    exact h rfl

/-- The name of a topic is read as its word. -/
theorem denotes_name {first : String} {others : List Token} (hclosed : Closed name)
    (htokens : tokens name = .word first :: others) (hothers : others.head? ≠ some (.symbol '(')) :
    Denotes name word name (.uint 256 word) := by
  refine ⟨hclosed, fun rest hrest => ?_⟩
  have hdrop : (tokens name ++ rest).dropPrefix? (tokens name) = some rest :=
    List.dropPrefix?_append_of_beq _ (beq_self_eq_true (tokens name))
  have hhead : (others ++ rest).head? ≠ some (.symbol '(') := by
    cases others with
    | nil => exact hrest
    | cons t others => exact hothers
  have hterm := @readTerm_name word (tokens name) _ first hhead
  rw [← List.cons_append, ← htokens, hdrop] at hterm
  exact hterm

/-- A type applied to a term is read as the conversion of its value. -/
theorem Denotes.convert {text : String} {v u : Value} {t : ValueType}
    (h : Denotes name word text v) (ht : t.WellFormed) (hconvert : v.convert? t = some u) :
    Denotes name word (t.text ++ "(" ++ text ++ ")") u := by
  have hword := isWord_type ht
  have hhead : Closed (t.text ++ "(") := hword.closed.append (by decide)
  have htokens : tokens (t.text ++ "(" ++ text ++ ")")
      = .word t.text :: .symbol '(' :: (tokens text ++ [.symbol ')']) := by
    have hopen : tokens (t.text ++ "(") = [.word t.text, .symbol '('] := by
      rw [tokens_append hword.closed (.inr (by decide)), hword.tokens_eq]
      rfl
    have hlast : EndsApart (t.text ++ "(") := by
      rw [EndsApart, String.toList_append]
      simp [isNameCharacter]
    rw [tokens_append (hhead.append h.closed) (.inr (by decide)),
      tokens_append hhead (.inl hlast), hopen]
    rfl
  refine ⟨(hhead.append h.closed).append (by decide), fun rest _ => ?_⟩
  have hread := h.read (.symbol ')' :: rest) (by simp)
  rw [htokens]
  simp only [List.cons_append, List.append_assoc, List.nil_append, readTerm,
    ValueType.ofText_text ht, hread, hconvert, Option.map_some]

theorem Denotes.evaluate?_eq {text : String} {v : Value} (h : Denotes name word text v) :
    evaluate? name word text = some v := by
  have hread := h.read [] (by simp)
  rw [List.append_nil] at hread
  simp [evaluate?, hread]

theorem Denotes.evaluate?_nonzero {text : String} {v : Value} (h : Denotes name word text v) :
    evaluate? name word (text ++ " != 0") = v.nonzero? := by
  have htokens : tokens (text ++ " != 0") = tokens text ++ tokens "!= 0" :=
    tokens_append h.closed (.inr (by decide))
  have hread := h.read (tokens "!= 0") (by decide)
  have hne : tokens "!= 0" ≠ [] := by decide
  simp [evaluate?, htokens, hread, hne]

end Reading
end ReactiveContract.Solidity
