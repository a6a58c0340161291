import ReactiveContract.Failure
/-! Values in the topics of a log: how a topic is read as a value, and the zero values. -/
namespace ReactiveContract
open Abi

/-- An expression over one topic word, in the conversions of the contract language. -/
inductive TopicExpr where
  | topic
  | address (e : TopicExpr)
  | uint (bits : Nat) (e : TopicExpr)
  | int (bits : Nat) (e : TopicExpr)
  | bytes (size : Nat) (e : TopicExpr)
  | nonzero (e : TopicExpr)
  deriving DecidableEq, Repr

namespace TopicExpr

def render (index : Int) : TopicExpr → String
  | .topic => s!"topic_{index}"
  | .address e => s!"address({e.render index})"
  | .uint bits e => s!"uint{bits}({e.render index})"
  | .int bits e => s!"int{bits}({e.render index})"
  | .bytes size e => s!"bytes{size}({e.render index})"
  | .nonzero e => s!"{e.render index} != 0"

end TopicExpr

namespace Abi.ValueType

/-- How a topic is read as a value; texts and byte strings of any length do not fit into one. -/
def topicExpr? : ValueType → Option TopicExpr
  | .address => some (.address (.uint 160 .topic))
  | .bool _ => some (.nonzero .topic)
  | .uint bits => some (if bits = 256 then .topic else .uint bits .topic)
  | .int bits => some (if bits = 256 then .int 256 .topic else .int bits (.int 256 .topic))
  | .bytes (some size) =>
    some (if size = 32 then .bytes 32 .topic else .bytes size (.bytes 32 .topic))
  | .bytes none | .string => none

/-- The literal of the zero value. -/
def zero : ValueType → String
  | .address => "address(0)"
  | .bool _ => "false"
  | .uint _ | .int _ => "0"
  | .bytes (some size) => s!"bytes{size}(0)"
  | .bytes none | .string => "\"\""

end Abi.ValueType

/-- The expression that reads a topic as a value of a type given by name. -/
def topicExpression (type : String) (index : Int) : Except Failure String :=
  match ValueType.ofText type with
  | .error fault => .error (.invalidAbi (.type fault))
  | .ok t =>
    match t.topicExpr? with
    | some e => .ok (e.render index)
    | none => .error (.typeNotInTopic type)

/-- The zero literal of a type given by name. -/
def zeroValue (type : String) : Except Failure String :=
  match ValueType.ofText type with
  | .error fault => .error (.invalidAbi (.type fault))
  | .ok t => .ok t.zero

end ReactiveContract
