/-! Letter case, as far as comparison with words of ASCII letters needs it. -/
namespace ReactiveContract.Text

/-- Lower case of the characters whose lower case is an ASCII letter: the Latin capitals and the
Kelvin sign. -/
def lowerChar (c : Char) : Char := if c = '\u212a' then 'k' else c.toLower

/-- Equals a word of ASCII characters exactly when the full lower case of the text does. -/
def lower (s : String) : String := String.ofList (s.toList.map lowerChar)

/-- Upper case of the characters whose upper case consists of ASCII letters. -/
def upperChar (c : Char) : List Char :=
  match c with
  | '\u0131' => ['I']
  | '\u017f' => ['S']
  | '\u00df' => ['S', 'S']
  | '\ufb00' => ['F', 'F']
  | '\ufb01' => ['F', 'I']
  | '\ufb02' => ['F', 'L']
  | '\ufb03' => ['F', 'F', 'I']
  | '\ufb04' => ['F', 'F', 'L']
  | '\ufb05' => ['S', 'T']
  | '\ufb06' => ['S', 'T']
  | c => [c.toUpper]

/-- Equals a word of ASCII characters exactly when the full upper case of the text does. -/
def upper (s : String) : String := String.ofList (s.toList.flatMap upperChar)

end ReactiveContract.Text
