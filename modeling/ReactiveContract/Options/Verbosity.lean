import ReactiveContract.Options.Basic
import ReactiveContract.Text.Case
/-! How much of the log an application sees. -/
namespace ReactiveContract.Verbosity

/-- The layout of a record of the log. -/
def recordFormat : String := "%(asctime)s - %(name)s - %(levelname)s - %(message)s"

/-- A format that is known by a name like a level's. -/
def basicFormat : String := "%(levelname)s:%(name)s:%(message)s"

/-- The threshold that is used when a name means nothing. -/
def default : Nat := 20

def thresholds : List (String × Nat) := [
  ("CRITICAL", 50), ("FATAL", 50), ("ERROR", 40), ("WARNING", 30), ("WARN", 30), ("INFO", 20),
  ("DEBUG", 10), ("NOTSET", 0)]

/-- The threshold of a level, whose name may be in either case. -/
def ofName (name : String) : Except OptionFault Nat :=
  let name := Text.upper name
  if name = "BASIC_FORMAT" then .error (.notLevel basicFormat)
  else if name = "_STYLES" then .error (.wrongType name)
  else .ok ((thresholds.lookup name).getD default)

/-- The threshold of a nonempty name, or else of the one that the environment gives. -/
def choose (name environment : Option String) : Except OptionFault Nat :=
  ofName ((name.filter (· ≠ "")).getD (environment.getD "INFO"))

end ReactiveContract.Verbosity
