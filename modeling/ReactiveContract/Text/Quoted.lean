import ReactiveContract.Text.CodePoint
import ReactiveContract.Text.Hexadecimal
import ReactiveContract.Text.Printable
/-! Texts in quotes, as messages show them. -/
namespace ReactiveContract.Text

/-- The number of a code point, in as few digits as are usual for its size. -/
def numbered (point : Nat) : List Char :=
  if point < 0x100 then '\\' :: 'x' :: hexDigits 2 point
  else if point < 0x10000 then '\\' :: 'u' :: hexDigits 4 point
  else '\\' :: 'U' :: hexDigits 8 point

/-- A character inside quotes of the given kind. -/
def quotedChar (quote c : Char) : List Char :=
  if c = quote ∨ c = '\\' then ['\\', c]
  else if c = '\n' then ['\\', 'n']
  else if c = '\r' then ['\\', 'r']
  else if c = '\t' then ['\\', 't']
  else if isPrintable c then [c]
  else numbered c.toNat

/-- A code point inside quotes; one that takes two characters to spell is not printable. -/
def quotedSpelling (quote : Char) : List Char → List Char
  | [c] => quotedChar quote c
  | spelling => numbered (pointOf spelling)

/-- Single quotes, unless the text has one of them and no double quote. -/
def quoteFor (cs : List Char) : Char :=
  if cs.contains '\'' && !cs.contains '"' then '"' else '\''

/-- A text in quotes, with everything unprintable escaped. -/
def quoted (s : String) : String :=
  let quote := quoteFor s.toList
  String.ofList (quote :: (spellings s.toList).flatMap (quotedSpelling quote) ++ [quote])

end ReactiveContract.Text
