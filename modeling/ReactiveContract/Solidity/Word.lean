/-! Words that cannot name a contract. -/
namespace ReactiveContract.Solidity

/-- Names that the library declares and that a contract of the same name would hide. -/
def libraryNames : List String := [
  "IReactive", "IPayable", "IPayer", "AbstractPayer", "ISubscriptionService", "ISystemContract",
  "AbstractReactive", "AbstractPausableReactive", "Subscription", "Callback"]

/-- Reserved words and elementary type names without a suffix. -/
def keywords : List String := [
  "abstract", "address", "after", "alias", "anonymous", "apply", "as", "assembly", "auto", "bool",
  "break", "byte", "bytes", "calldata", "case", "catch", "constant", "constructor", "continue",
  "contract", "copyof", "default", "define", "delete", "do", "else", "emit", "enum", "event",
  "external", "false", "final", "fixed", "for", "function", "hex", "if", "immutable", "implements",
  "import", "in", "indexed", "inline", "int", "interface", "internal", "is", "let", "library",
  "macro", "mapping", "match", "memory", "modifier", "mutable", "new", "null", "of", "override",
  "partial", "payable", "pragma", "private", "promise", "public", "pure", "reference",
  "relocatable", "return", "returns", "sealed", "sizeof", "static", "storage", "string", "struct",
  "super", "supports", "switch", "this", "throw", "true", "try", "type", "typedef", "typeof",
  "ufixed", "uint", "unchecked", "using", "var", "view", "virtual", "while"]

/-- Digits, which may be followed by `x` and more digits. -/
def isSizeSuffix (cs : List Char) : Bool :=
  let isNumber (ds : List Char) := !ds.isEmpty && ds.all Char.isDigit
  match cs.dropWhile (· != 'x') with
  | [] => isNumber cs
  | _ :: rest => isNumber (cs.takeWhile (· != 'x')) && isNumber rest

/-- An elementary type name with a size. -/
def isSizedType (name : String) : Bool :=
  String.ofList (name.toList.takeWhile Char.isAlpha) ∈ ["int", "uint", "bytes", "fixed", "ufixed"]
    && isSizeSuffix (name.toList.dropWhile Char.isAlpha)

def isReserved (name : String) : Bool :=
  name ∈ libraryNames || name ∈ keywords || isSizedType name

end ReactiveContract.Solidity
