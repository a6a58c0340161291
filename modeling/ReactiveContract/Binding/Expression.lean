import ReactiveContract.Failure
import ReactiveContract.Text.Blank
/-! Texts that can stand in an argument list as one expression. -/
namespace ReactiveContract.Expression
open Text

/-- Where a scan stands: outside of quotes, inside of them, or right after a backslash there. -/
inductive Mode where
  | outside
  | quoted (quote : Char)
  | escaped (quote : Char)
  deriving DecidableEq, Repr

def isLineBreak (c : Char) : Bool := c = '\n' || c = '\r'

def isQuote (c : Char) : Bool := c = '"' || c = '\''

/-- A separator of statements or a brace. -/
def isSeparator (c : Char) : Bool := c = ';' || c = '\x7b' || c = '\x7d'

/-- Whether a comment begins with a character and the text after it. -/
def opensComment (c : Char) (rest : List Char) : Bool :=
  c = '/' && (rest.head? = some '/' || rest.head? = some '*')

/-- Takes in one character in sight of the text after it, or refuses it. -/
def step (mode : Mode) (c : Char) (rest : List Char) : Option Mode :=
  if isLineBreak c then none
  else match mode with
    | .outside =>
      if isQuote c then some (.quoted c)
      else if isSeparator c || opensComment c rest then none
      else some .outside
    | .quoted quote =>
      if c = '\\' then some (.escaped quote)
      else if c = quote then some .outside
      else some (.quoted quote)
    | .escaped quote => some (.quoted quote)

def scan : Mode → List Char → Option Mode
  | mode, [] => some mode
  | mode, c :: rest => (step mode c rest).bind fun mode => scan mode rest

/-- No line break, every quote closed, and neither separators nor comments outside of quotes. -/
def isSingle (cs : List Char) : Bool := scan .outside cs = some .outside

/-- The text without blanks around it, provided that it is one nonempty expression. -/
def check (text what : String) : Except Violation.Cause String :=
  let text := trim text
  if text = "" then .error (.expressionEmpty what)
  else if isSingle text.toList then .ok text
  else .error (.notOneExpression what text)

end ReactiveContract.Expression
