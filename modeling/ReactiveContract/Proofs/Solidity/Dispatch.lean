import ReactiveContract.Abi.Interface
import ReactiveContract.Proofs.Text.Hexadecimal
import ReactiveContract.Solidity.Fragment
/-! Which branch of a dispatch runs for a topic: the first one whose constant has its value. -/
namespace ReactiveContract
open Abi Text

/-- A topic in all of its digits. -/
def topicText (topic : BitVec 256) : String := "0x" ++ String.ofList (hexDigits 64 topic.toNat)

namespace Solidity

/-- The number that a hexadecimal literal stands for. -/
def hexLiteral? (text : String) : Option Nat :=
  match text.toList with
  | '0' :: 'x' :: cs => (cs.mapM hexValue?).map ofHexDigits
  | _ => none

/-- The value of the first constant of a name. -/
def Constant.valueOf? (constants : List Constant) (name : String) : Option Nat :=
  (constants.find? (·.name = name)).bind fun c => hexLiteral? c.value

/-- The index of the first branch whose constant has the value of the topic. -/
def Dispatch.taken? (d : Dispatch) (constants : List Constant) (topic : BitVec 256) : Option Nat :=
  d.branches.findIdx? fun b => Constant.valueOf? constants b.topicConstant = some topic.toNat

theorem hexLiteral?_topicText (topic : BitVec 256) :
    hexLiteral? (topicText topic) = some topic.toNat := by
  obtain ⟨ds, hlen, hlt, hds, hn⟩ := exists_digits 64 topic.toNat
  have hword : ofHexDigits ds = topic.toNat := by
    rw [hn]
    exact Nat.mod_eq_of_lt topic.isLt
  have htext : (topicText topic).toList = '0' :: 'x' :: ds.map hexDigit := by
    simp only [topicText, String.toList_append, String.toList_ofList, hds]
    rfl
  unfold hexLiteral?
  rw [htext]
  simp [mapM_hexValue?_map_hexDigit hlt, hword]

end Solidity

theorem topicText_injective {t u : BitVec 256} (h : topicText t = topicText u) : t = u := by
  have hn := Solidity.hexLiteral?_topicText t
  rw [h, Solidity.hexLiteral?_topicText u, Option.some.injEq] at hn
  exact BitVec.eq_of_toNat_eq hn.symm

theorem exists_topicText (message : List UInt8) : ∃ topic, topicOf message = topicText topic := by
  have hlt : ∀ d ∈ nibbles (Keccak256.hash message), d < 16 := fun d hd =>
    lt_of_mem_nibbles hd
  have hlen : (nibbles (Keccak256.hash message)).length = 64 := by
    rw [length_nibbles, Keccak256.length_hash]
  have hbound := ofHexDigits_lt hlt
  rw [hlen] at hbound
  refine ⟨BitVec.ofNat 256 (ofHexDigits (nibbles (Keccak256.hash message))), ?_⟩
  rw [topicText, BitVec.toNat_ofNat, Nat.mod_eq_of_lt hbound, ← hlen, hexDigits_ofHexDigits hlt]
  rfl

end ReactiveContract
