import ReactiveContract.Binding.Topic
import ReactiveContract.Proofs.Abi.Acceptance
import ReactiveContract.Proofs.Solidity.Conversion
/-! The expression that reads a topic as a value takes back how the topic was made of the value. -/
namespace ReactiveContract
open Abi Solidity Text

namespace Solidity.Value

/-- The topic of a value: integers are extended by their sign, addresses and truth values by zeros,
and byte strings are followed by zeros. -/
def topic : Value → BitVec 256
  | .address a => a.word.setWidth 256
  | .bool b => if b then 1 else 0
  | .uint _ n => n.setWidth 256
  | .int _ n => n.signExtend 256
  | .bytes size bs => bs.setWidth 256 <<< (256 - 8 * size)

private theorem setWidth_setWidth_word {bits : Nat} (h : bits ≤ 256) (n : BitVec bits) :
    (n.setWidth 256).setWidth bits = n := by
  rw [BitVec.setWidth_setWidth_of_le n h, BitVec.setWidth_eq]

private theorem signExtend_signExtend_word {bits : Nat} (h : bits ≤ 256) (n : BitVec bits) :
    (n.signExtend 256).signExtend bits = n := by
  ext i hi
  have hlt : i < 256 := by omega
  simp [BitVec.getElem_signExtend, hi, hlt]

/-- The first bytes of a word that starts with some bytes are these. -/
private theorem extractLsb'_shiftLeft_word {size : Nat} (h : size ≤ 32) (bs : BitVec (8 * size)) :
    (bs.setWidth 256 <<< (256 - 8 * size)).extractLsb' (8 * (32 - size)) (8 * size) = bs := by
  have hoffset : 8 * (32 - size) = 256 - 8 * size := by omega
  ext i hi
  have hlt : 256 - 8 * size + i < 256 := by omega
  rw [hoffset]
  simp [hlt, BitVec.getLsbD_eq_getElem hi]

end Solidity.Value

namespace TopicExpr

/-- The value of an expression over a topic word. -/
def value? (word : BitVec 256) : TopicExpr → Option Value
  | .topic => some (.uint 256 word)
  | .address e => (e.value? word).bind (Value.convert? .address)
  | .uint bits e => (e.value? word).bind (Value.convert? (.uint bits))
  | .int bits e => (e.value? word).bind (Value.convert? (.int bits))
  | .bytes size e => (e.value? word).bind (Value.convert? (.bytes (some size)))
  | .nonzero e => (e.value? word).bind Value.nonzero?

/-- A topic under conversions to types that the language has. -/
def IsTerm : TopicExpr → Prop
  | .topic => True
  | .address e => e.IsTerm
  | .uint bits e => (ValueType.uint bits).WellFormed ∧ e.IsTerm
  | .int bits e => (ValueType.int bits).WellFormed ∧ e.IsTerm
  | .bytes size e => (ValueType.bytes (some size)).WellFormed ∧ e.IsTerm
  | .nonzero _ => False

/-- A term, or the comparison of one with zero. -/
def IsComparisonOrTerm : TopicExpr → Prop
  | .nonzero e => e.IsTerm
  | e => e.IsTerm

end TopicExpr

/-- The name of a topic. -/
def topicName (k : Int) : String := TopicExpr.topic.render k

section Reading
variable {k : Int} {word : BitVec 256} {e : TopicExpr} {width : Nat}

private theorem denotes_topic (k : Int) (word : BitVec 256) :
    Denotes (topicName k) word (topicName k) (.uint 256 word) := by
  cases k with
  | ofNat n =>
    have hname : topicName n = "topic_" ++ toString n := rfl
    have hword : IsWord (topicName n) := by
      rw [hname]
      exact IsWord.append (by decide) (isWord_toString n)
    exact denotes_name hword.closed hword.tokens_eq (by decide)
  | negSucc n =>
    -- The minus sign is no character of names, so such a name is three tokens.
    have hname : topicName (.negSucc n) = "topic_-" ++ toString (n + 1) := rfl
    have hsur : Surrounds "topic_-" "" := by decide
    have htokens : tokens (topicName (.negSucc n))
        = .word "topic_" :: [.symbol '-', .word (toString (n + 1))] := by
      rw [hname, tokens_ending hsur (isWord_toString (n + 1))]
      rfl
    refine denotes_name ?_ htokens (by simp)
    rw [hname]
    exact closed_ending hsur (isWord_toString (n + 1))

/-- A term is read as its value. -/
theorem denotes_render (he : e.IsTerm) {v : Value} (hv : e.value? word = some v) :
    Denotes (topicName k) word (e.render k) v := by
  -- Each conversion is its type applied to a term, so one lemma serves all of them.
  have hconvert {t : ValueType} {e : TopicExpr} {v : Value} (ht : t.WellFormed)
      (ih : ∀ {u : Value}, e.value? word = some u → Denotes (topicName k) word (e.render k) u)
      (hv : (e.value? word).bind (Value.convert? t) = some v) :
      Denotes (topicName k) word (t.text ++ "(" ++ e.render k ++ ")") v := by
    obtain ⟨u, hu, hv⟩ := Option.bind_eq_some_iff.mp hv
    exact (ih hu).convert ht hv
  induction e generalizing v with
  | topic =>
    obtain rfl := Option.some.inj hv
    exact denotes_topic k word
  | address e ih => exact hconvert (t := .address) trivial (ih he) hv
  | uint bits e ih => exact hconvert (t := .uint bits) he.1 (ih he.2) hv
  | int bits e ih => exact hconvert (t := .int bits) he.1 (ih he.2) hv
  | bytes size e ih => exact hconvert (t := .bytes (some size)) he.1 (ih he.2) hv
  | nonzero e => exact he.elim

/-- An expression is read as its value. -/
private theorem evaluate?_render {v : Value} (he : e.IsComparisonOrTerm)
    (hv : e.value? word = some v) :
    evaluate? (topicName k) word (e.render k) = some v := by
  cases e with
  | nonzero e =>
    obtain ⟨u, hu, hv⟩ := Option.bind_eq_some_iff.mp hv
    have hrender : (TopicExpr.nonzero e).render k = e.render k ++ " != 0" := rfl
    rw [hrender, (denotes_render he hu).evaluate?_nonzero, hv]
  | topic => exact (denotes_render he hv).evaluate?_eq
  | address e => exact (denotes_render he hv).evaluate?_eq
  | uint bits e => exact (denotes_render he hv).evaluate?_eq
  | int bits e => exact (denotes_render he hv).evaluate?_eq
  | bytes size e => exact (denotes_render he hv).evaluate?_eq

end Reading

/-- The expression of a type has a value, and on the topic of a value of the type it is this
value. -/
private theorem Abi.ValueType.topicExpr?_inverts {t : ValueType} (ht : t.WellFormed) {e : TopicExpr}
    (he : t.topicExpr? = some e) :
    e.IsComparisonOrTerm ∧ ∀ v : Value, v.HasType t → e.value? v.topic = some v := by
  have hshort {bits : Nat} (h : TypeExpr.isWordWidth bits = true) : bits ≤ 256 :=
    (isWordWidth_iff.mp h).2.1
  cases t with
  | string => cases he
  | address =>
    cases he
    refine ⟨⟨rfl, trivial⟩, fun v hv => ?_⟩
    cases hv with | address a =>
    simp [TopicExpr.value?, Value.topic, Value.convert?]
  | bool suffix =>
    cases he
    refine ⟨trivial, fun v hv => ?_⟩
    cases hv with | bool b =>
    cases b <;> rfl
  -- A type as wide as a word has the shorter expression, which converts nothing or once.
  | uint bits =>
    have hle := hshort ht
    by_cases h : bits = 256
    · subst h
      cases he
      refine ⟨trivial, fun v hv => ?_⟩
      cases hv with | uint n =>
      simp [TopicExpr.value?, Value.topic]
    · cases he
      rw [if_neg h]
      refine ⟨⟨ht, trivial⟩, fun v hv => ?_⟩
      cases hv with | uint n =>
      simp [TopicExpr.value?, Value.topic, Value.convert?, Value.setWidth_setWidth_word hle]
  | int bits =>
    have hle := hshort ht
    by_cases h : bits = 256
    · subst h
      cases he
      refine ⟨⟨ht, trivial⟩, fun v hv => ?_⟩
      cases hv with | int n =>
      simp [TopicExpr.value?, Value.topic, Value.convert?]
    · cases he
      rw [if_neg h]
      refine ⟨⟨ht, rfl, trivial⟩, fun v hv => ?_⟩
      cases hv with | int n =>
      simp [TopicExpr.value?, Value.topic, Value.convert?, Value.signExtend_signExtend_word hle]
  | bytes size =>
    cases size with
    | none => cases he
    | some size =>
      have hle : size ≤ 32 := ht.2
      by_cases h : size = 32
      · subst h
        cases he
        refine ⟨⟨ht, trivial⟩, fun v hv => ?_⟩
        cases hv with | bytes bs =>
        simp [TopicExpr.value?, Value.topic, Value.convert?]
      · cases he
        rw [if_neg h]
        refine ⟨⟨ht, ⟨by decide, Nat.le_refl 32⟩, trivial⟩, fun v hv => ?_⟩
        cases hv with | bytes bs =>
        simp [TopicExpr.value?, Value.topic, Value.convert?, hle,
          Value.extractLsb'_shiftLeft_word hle]

theorem Abi.ValueType.topicExpr?_eq_none {t : ValueType} :
    t.topicExpr? = none ↔ t = .string ∨ t = .bytes none := by
  cases t with
  | bytes size => cases size <;> simp [topicExpr?]
  | _ => simp [topicExpr?]

/-- The expression for a type and a topic gives each value of the type back where the topic is that
of the value; there is none for texts and byte strings of any length. -/
theorem topicExpression_inverts {type : String} {t : ValueType} (ht : ValueType.ofText type = .ok t)
    (k : Int) :
    (t ≠ .string ∧ t ≠ .bytes none → ∃ text, topicExpression type k = .ok text
      ∧ ∀ v : Value, v.HasType t → evaluate? (topicName k) v.topic text = some v)
    ∧ (t = .string ∨ t = .bytes none →
      topicExpression type k = .error (.typeNotInTopic type)) := by
  have hwell := ValueType.wellFormed_of_ofText ht
  constructor
  · intro hfits
    have hsome : t.topicExpr? ≠ none := fun h =>
      (ValueType.topicExpr?_eq_none.mp h).elim hfits.1 hfits.2
    obtain ⟨e, he⟩ := Option.ne_none_iff_exists'.mp hsome
    obtain ⟨hterm, hvalue⟩ := ValueType.topicExpr?_inverts hwell he
    refine ⟨e.render k, ?_, fun v hv => evaluate?_render hterm (hvalue v hv)⟩
    simp only [topicExpression, ht, he]
  · intro hlong
    simp only [topicExpression, ht, ValueType.topicExpr?_eq_none.mpr hlong]

/-- Minus one of eight bits. -/
theorem minusOne_inverted :
    ∃ text, topicExpression "int8" 2 = .ok text
      ∧ evaluate? (topicName 2) (BitVec.allOnes 256) text = some (.int 8 (-1)) := by
  have ht : ValueType.ofText "int8" = .ok (.int 8) := ValueType.ofText_text (t := .int 8) rfl
  obtain ⟨text, htext, hvalues⟩ := (topicExpression_inverts ht 2).1 (by decide)
  refine ⟨text, htext, ?_⟩
  have htopic : (Value.int 8 (-1)).topic = BitVec.allOnes 256 := by decide
  rw [← htopic]
  exact hvalues _ (.int _)

end ReactiveContract
