/-! Texts as sequences of code points, and sets of characters as tables.

A text may hold any code point. Surrogates are no characters, so each is spelled by two of them, a
mark and a sign. The mark itself is spelled by two marks, and every other code point by its own
character. -/
namespace ReactiveContract.Text

/-- Stands before the sign of a surrogate, and before another mark that is meant as such. -/
def escapeMark : Char := Char.ofNat 0x10ffff

def isSurrogate (point : Nat) : Bool := 0xd800 ≤ point && point < 0xe000

/-- How far above a surrogate its sign lies. -/
def signOffset : Nat := 0xf2800

/-- The characters for a code point. -/
def spell (point : Nat) : List Char :=
  if isSurrogate point then [escapeMark, Char.ofNat (point + signOffset)]
  else if point = escapeMark.toNat then [escapeMark, escapeMark]
  else [Char.ofNat point]

/-- The characters of a text, with those that spell one code point taken together. -/
def spellings : List Char → List (List Char)
  | [] => []
  | [c] => [[c]]
  | c :: d :: rest =>
    if c = escapeMark then [c, d] :: spellings rest else [c] :: spellings (d :: rest)

/-- The code point that some characters spell. -/
def pointOf : List Char → Nat
  | [c] => c.toNat
  | [_, c] => if c = escapeMark then c.toNat else c.toNat - signOffset
  | _ => 0

def points (s : String) : List Nat := (spellings s.toList).map pointOf

/-- Whether a text comes before another one in the order of code points. -/
def isBefore (s t : String) : Bool := (points s).lex (points t)

/-- How many code points a text has. -/
def pointCount (s : String) : Nat := (spellings s.toList).length

/-- The first code points of a text, at most the given number. -/
def takePoints (n : Nat) (s : String) : String :=
  String.ofList ((spellings s.toList).take n).flatten

/-- The character that a code point is; a surrogate is none. -/
def scalar? : List Char → Option Char
  | [c] => if c = escapeMark then none else some c
  | [mark, c] => if mark = escapeMark ∧ c = escapeMark then some c else none
  | _ => none

/-- A text in characters for themselves, provided that it has no surrogates. -/
def plain? (s : String) : Option String :=
  ((spellings s.toList).mapM scalar?).map String.ofList

/-- The bytes of a text in UTF-8, which has none for surrogates. -/
def utf8? (s : String) : Option (List UInt8) := (plain? s).map (·.toUTF8.data.toList)

/-- A text with replacement characters for each surrogate, one for each of its three bytes. -/
def replacingSurrogates (s : String) : String :=
  let shown (spelling : List Char) : List Char :=
    if (scalar? spelling).isSome then spelling else List.replicate 3 '\ufffd'
  String.ofList ((spellings s.toList).flatMap shown)

/-- Membership of a character in a table of inclusive code point ranges. -/
def inRanges (table : List (Nat × Nat)) (c : Char) : Bool :=
  table.any fun r => r.1 ≤ c.toNat && c.toNat ≤ r.2

/-- Membership in ranges whose members lie a step apart. -/
def inStrides (table : List (Nat × Nat × Nat)) (c : Char) : Bool :=
  table.any fun (first, last, step) =>
    first ≤ c.toNat && c.toNat ≤ last && (c.toNat - first) % step == 0

end ReactiveContract.Text
