import Mathlib.Data.List.Forall2
import ReactiveContract.Binding.Resolution
import ReactiveContract.Proofs.Abi.Spelling
import ReactiveContract.Proofs.Outcome
/-! What the resolution of a binding accepts, rule by rule, and what it makes of a mapping. -/
namespace ReactiveContract
open Abi Text Outcome

namespace Expression

/-- One nonempty expression once the blanks around it are gone. -/
def Acceptable (text : String) : Prop :=
  trim text ≠ "" ∧ isSingle (trim text).toList = true

theorem check_eq_ok {text what expression : String} :
    check text what = .ok expression ↔ Acceptable text ∧ expression = trim text := by
  unfold check Acceptable
  by_cases he : trim text = ""
  · simp [he]
  · by_cases hs : isSingle (trim text).toList = true
    · simp [he, hs, eq_comm]
    · simp [he, hs]

theorem not_acceptable_of_check {text what : String} {cause : Violation.Cause}
    (h : check text what = .error cause) : ¬ Acceptable text := by
  intro ha
  rw [check_eq_ok.mpr ⟨ha, rfl⟩] at h
  cases h

end Expression

namespace Abi.ValueType

theorem topicExpr?_isNone_iff {t : ValueType} :
    t.topicExpr?.isNone = true ↔ t.text = "string" ∨ t.text = "bytes" := by
  rw [text_eq_string_iff, text_eq_bytes_iff]
  rcases t with _ | _ | _ | (_ | _) | _ | _ <;> simp [topicExpr?]

theorem zeroValue_text {t : ValueType} (h : t.WellFormed) : zeroValue t.text = .ok t.zero := by
  simp [zeroValue, ofText_text h]

end Abi.ValueType

/-- Where an argument of a type may come from, given the event. -/
def Source.Fits (event : Event) (type : String) : Source → Prop
  | .fixed literal => Expression.Acceptable literal
  | .topic index =>
    (index = 1 ∨ index = 2 ∨ index = 3) ∧ index ≤ event.indexedInputs.length
      ∧ type ≠ "string" ∧ type ≠ "bytes"
  | .data field =>
    field ≠ "" ∧ ∃ p, event.inputs.find? (·.name = field) = some p
      ∧ p.indexed = false ∧ p.type = type
  | .unbound _ => True

/-- A literal without blanks around it; an address is checksummed. -/
def Source.settledLiteral (type literal : String) : String :=
  if type = "address" then
    match Address.read? (trim literal) with
    | some a => a.text
    | none => trim literal
  else trim literal

/-- The final form of a source: literals are settled, and what is unbound gets its zero. -/
def Source.settled (type : String) : Source → Source
  | .fixed literal => .fixed (settledLiteral type literal)
  | .unbound _ => .unbound (zeroValue type).toOption
  | source => source

namespace Mapping

/-- The topic that a mapping claims. -/
def topic? (m : Mapping) : Option Int :=
  match m.source with
  | .topic index => some index
  | _ => none

/-- The rules for a mapping of an input, apart from those on the other mappings. -/
structure Fits (event : Event) (m : Mapping) (input : CalleeInput) : Prop where
  typed : ∃ t, ValueType.ofText m.type = .ok t ∧ t.text = input.type
  named : input.name ≠ "" → m.target ≠ "" → m.target = input.name
  sourced : m.source.Fits event input.type

/-- The final form of the mapping of an input. -/
def settled (m : Mapping) (input : CalleeInput) : Mapping :=
  { target := if input.name ≠ "" then input.name else m.target
    type := input.type
    source := m.source.settled input.type }

end Mapping

namespace Binding

theorem checkType_eq_ok {index : Nat} {m : Mapping} {input : CalleeInput} {t : ValueType} :
    checkType index m input = .ok t ↔ ValueType.ofText m.type = .ok t ∧ t.text = input.type := by
  unfold checkType
  cases ValueType.ofText m.type with
  | error fault => simp
  | ok u =>
    by_cases hu : u.text = input.type
    · simp only [hu, if_true, Except.ok.injEq]
      constructor
      · intro ht
        exact ⟨ht, ht ▸ hu⟩
      · exact And.left
    · simp only [hu, if_false, reduceCtorEq, false_iff]
      intro ⟨ht, h⟩
      rw [Except.ok.inj ht] at hu
      exact hu h

theorem checkName_eq_ok {index : Nat} {m : Mapping} {input : CalleeInput} :
    checkName index m input = .ok ()
      ↔ (input.name ≠ "" → m.target ≠ "" → m.target = input.name) := by
  unfold checkName
  split <;> simp_all

theorem checkTopic_eq_ok {event : Event} {claimed : List (Int × Nat)} {index : Nat}
    {t : ValueType} {topic : Int} :
    checkTopic event claimed index t topic = .ok ()
      ↔ Source.Fits event t.text (.topic topic) ∧ claimed.lookup topic = none := by
  unfold checkTopic Source.Fits
  dsimp only
  by_cases hr : topic < 1 ∨ 3 < topic
  · rw [if_pos hr]
    simp only [reduceCtorEq, false_iff]
    omega
  · rw [if_neg hr]
    have hk : topic = 1 ∨ topic = 2 ∨ topic = 3 := by omega
    cases hc : claimed.lookup topic with
    | some earlier => simp
    | none =>
      by_cases hl : (event.indexedInputs.length : Int) < topic
      · simp only [hl, if_true, reduceCtorEq, false_iff]
        omega
      · by_cases ht : t.topicExpr?.isNone = true
        · simp only [hl, ht, if_true, if_false, reduceCtorEq, false_iff]
          rw [ValueType.topicExpr?_isNone_iff] at ht
          tauto
        · simp only [hl, ht, if_false, true_iff, Bool.false_eq_true]
          rw [ValueType.topicExpr?_isNone_iff, not_or] at ht
          exact ⟨⟨hk, by omega, ht⟩, trivial⟩

theorem checkField_eq_ok {event : Event} {index : Nat} {t : ValueType} {field : String} :
    checkField event index t field = .ok () ↔ Source.Fits event t.text (.data field) := by
  unfold checkField Source.Fits
  by_cases hf : field = ""
  · have hn : event.inputs.find? (fun p => field ≠ "" && p.name = field) = none := by
      rw [List.find?_eq_none]
      simp [hf]
    rw [hn]
    simp only [reduceCtorEq, false_iff, not_and]
    exact fun h => absurd hf h
  · have hp : (fun p : EventInput => decide (field ≠ "") && decide (p.name = field))
        = fun p => decide (p.name = field) := by
      simp [hf]
    simp only [hp]
    cases event.inputs.find? fun p => p.name = field with
    | none => simp
    | some p =>
      cases hi : p.indexed <;> by_cases ht : p.type = t.text <;> simp [hf, hi, ht]

theorem resolveLiteral_eq_ok {index : Nat} {t : ValueType} {literal resolved : String} :
    resolveLiteral index t literal = .ok resolved
      ↔ Expression.Acceptable literal ∧ resolved = Source.settledLiteral t.text literal := by
  unfold resolveLiteral Source.settledLiteral
  cases hc : Expression.check literal "fixed literal" with
  | error cause =>
    simp only [reduceCtorEq, false_iff]
    exact fun h => Expression.not_acceptable_of_check hc h.1
  | ok expression =>
    obtain ⟨ha, rfl⟩ := Expression.check_eq_ok.mp hc
    simp only [ha, true_and, ValueType.text_eq_address_iff]
    by_cases ht : t = .address
    · simp only [ht, if_true]
      cases Address.read? (trim literal) <;> simp [eq_comm]
    · simp [ht, eq_comm]

theorem resolveSource_eq_ok {event : Event} {claimed : List (Int × Nat)} {index : Nat}
    {t : ValueType} {source resolved : Source} (ht : t.WellFormed) :
    resolveSource event claimed index t source = .ok resolved
      ↔ source.Fits event t.text
        ∧ (∀ topic, source = .topic topic → claimed.lookup topic = none)
        ∧ resolved = source.settled t.text := by
  cases source with
  | fixed literal =>
    simp only [resolveSource, map_eq_ok, resolveLiteral_eq_ok, Source.Fits, Source.settled,
      reduceCtorEq, false_implies, implies_true, true_and]
    constructor
    · intro h
      obtain ⟨_, ⟨ha, rfl⟩, rfl⟩ := h
      exact ⟨ha, rfl⟩
    · intro h
      obtain ⟨ha, rfl⟩ := h
      exact ⟨_, ⟨ha, rfl⟩, rfl⟩
  | topic topic =>
    simp only [resolveSource, map_eq_ok, Source.settled, Source.topic.injEq, forall_eq']
    constructor
    · intro h
      obtain ⟨⟨⟩, hc, rfl⟩ := h
      obtain ⟨hf, hl⟩ := checkTopic_eq_ok.mp hc
      exact ⟨hf, hl, rfl⟩
    · intro h
      obtain ⟨hf, hl, rfl⟩ := h
      exact ⟨(), checkTopic_eq_ok.mpr ⟨hf, hl⟩, rfl⟩
  | data field =>
    simp only [resolveSource, map_eq_ok, Source.settled, reduceCtorEq, false_implies,
      implies_true, true_and]
    constructor
    · intro h
      obtain ⟨⟨⟩, hc, rfl⟩ := h
      exact ⟨checkField_eq_ok.mp hc, rfl⟩
    · intro h
      obtain ⟨hf, rfl⟩ := h
      exact ⟨(), checkField_eq_ok.mpr hf, rfl⟩
  | unbound zero =>
    simp only [resolveSource, Source.Fits, Source.settled, ValueType.zeroValue_text ht,
      Except.toOption, reduceCtorEq, false_implies, implies_true, true_and, Except.ok.injEq]
    exact eq_comm

theorem topic?_eq_some {m : Mapping} {topic : Int} :
    m.topic? = some topic ↔ m.source = .topic topic := by
  unfold Mapping.topic?
  cases m.source <;> simp

theorem resolveMapping_eq_ok {event : Event} {claimed : List (Int × Nat)} {index : Nat}
    {m resolved : Mapping} {input : CalleeInput} :
    resolveMapping event claimed index m input = .ok resolved
      ↔ m.Fits event input ∧ (∀ topic, m.topic? = some topic → claimed.lookup topic = none)
        ∧ resolved = m.settled input := by
  unfold resolveMapping
  simp only [bind_eq_ok, pure_eq_ok, checkType_eq_ok, topic?_eq_some]
  constructor
  · intro h
    obtain ⟨t, ⟨ht, hi⟩, ⟨⟩, hn, source, hs, rfl⟩ := h
    have hw := ValueType.wellFormed_of_ofText ht
    obtain ⟨hf, hc, rfl⟩ := (resolveSource_eq_ok hw).mp hs
    rw [hi] at hf
    exact ⟨⟨⟨t, ht, hi⟩, checkName_eq_ok.mp hn, hf⟩, hc, by rw [Mapping.settled, hi]⟩
  · intro h
    obtain ⟨⟨⟨t, ht, hi⟩, hn, hf⟩, hc, rfl⟩ := h
    have hw := ValueType.wellFormed_of_ofText ht
    rw [← hi] at hf
    refine ⟨t, ⟨ht, hi⟩, (), checkName_eq_ok.mpr hn, _, (resolveSource_eq_ok hw).mpr
      ⟨hf, hc, rfl⟩, ?_⟩
    rw [Mapping.settled, hi]

theorem lookup_claims_eq_none {claimed : List (Int × Nat)} {index : Nat} {m : Mapping}
    {topic : Int} :
    (claims claimed index m).lookup topic = none
      ↔ m.topic? ≠ some topic ∧ claimed.lookup topic = none := by
  unfold claims Mapping.topic?
  cases m.source with
  | topic k =>
    by_cases hk : topic = k
    · subst hk
      simp
    · have hb : (topic == k) = false := beq_false_of_ne hk
      have hk' : k ≠ topic := Ne.symm hk
      simp only [List.lookup_cons, hb, ne_eq, Option.some.injEq, hk', not_false_eq_true, true_and]
  | _ => simp

private theorem nodup_topics_cons {m : Mapping} {mappings : List Mapping} :
    ((m :: mappings).filterMap Mapping.topic?).Nodup
      ↔ (∀ topic, m.topic? = some topic → topic ∉ mappings.filterMap Mapping.topic?)
        ∧ (mappings.filterMap Mapping.topic?).Nodup := by
  cases ht : m.topic? with
  | none => simp [ht]
  | some topic => simp [ht]

theorem forall_mem_topics_cons {m : Mapping} {mappings : List Mapping} {p : Int → Prop} :
    (∀ topic ∈ (m :: mappings).filterMap Mapping.topic?, p topic)
      ↔ (∀ topic, m.topic? = some topic → p topic)
        ∧ ∀ topic ∈ mappings.filterMap Mapping.topic?, p topic := by
  cases ht : m.topic? with
  | none => simp [ht]
  | some topic => simp [ht]

/-- The mappings are taken one by one, but what they ask of each other is only that no two claim
one topic. -/
theorem resolveFrom_eq_ok {event : Event} {inputs : List CalleeInput} :
    ∀ {mappings resolved : List Mapping} {claimed : List (Int × Nat)} {index : Nat},
      mappings.length = inputs.length →
      (resolveFrom event claimed index mappings inputs = .ok resolved
        ↔ List.Forall₂ (Mapping.Fits event) mappings inputs
          ∧ (mappings.filterMap Mapping.topic?).Nodup
          ∧ (∀ topic ∈ mappings.filterMap Mapping.topic?, claimed.lookup topic = none)
          ∧ resolved = List.zipWith Mapping.settled mappings inputs) := by
  induction inputs with
  | nil =>
    intro mappings resolved claimed index hlen
    obtain rfl := List.length_eq_zero_iff.mp hlen
    simp only [resolveFrom, Except.ok.injEq, List.filterMap_nil, List.zipWith_nil_left,
      List.nodup_nil, List.not_mem_nil, List.Forall₂.nil, false_implies, implies_true, true_and]
    exact eq_comm
  | cons input inputs ih =>
    intro mappings resolved claimed index hlen
    obtain ⟨m, ms, rfl⟩ := List.exists_cons_of_length_eq_add_one hlen
    have hlen' : ms.length = inputs.length := Nat.succ.inj hlen
    simp only [resolveFrom, bind_eq_ok, pure_eq_ok, resolveMapping_eq_ok, ih hlen',
      lookup_claims_eq_none, List.forall₂_cons, List.zipWith_cons_cons, nodup_topics_cons,
      forall_mem_topics_cons]
    -- A claim of the first mapping is in the table when the others are taken, so what the table
    -- says of them says that none of them claims the topic again.
    constructor
    · intro h
      obtain ⟨_, ⟨hf, hm, rfl⟩, _, ⟨hfs, hnd, hms, rfl⟩, rfl⟩ := h
      refine ⟨⟨hf, hfs⟩, ⟨?_, hnd⟩, ⟨hm, ?_⟩, rfl⟩
      · exact fun topic ht htopic => (hms topic htopic).1 ht
      · exact fun topic htopic => (hms topic htopic).2
    · intro h
      obtain ⟨⟨hf, hfs⟩, ⟨hfirst, hnd⟩, ⟨hm, hms⟩, rfl⟩ := h
      refine ⟨_, ⟨hf, hm, rfl⟩, _, ⟨hfs, hnd, ?_, rfl⟩, rfl⟩
      exact fun topic htopic => ⟨fun ht => hfirst topic ht htopic, hms topic htopic⟩

private theorem length_filter_isTopic (mappings : List Mapping) :
    (mappings.filter isTopic).length = (mappings.filterMap Mapping.topic?).length := by
  induction mappings with
  | nil => rfl
  | cons m ms ih =>
    cases hs : m.source <;> simp [isTopic, Mapping.topic?, hs, ih]

private theorem topics_subset {event : Event} {mappings : List Mapping} {inputs : List CalleeInput}
    (h : List.Forall₂ (Mapping.Fits event) mappings inputs) :
    ∀ topic ∈ mappings.filterMap Mapping.topic?, topic = 1 ∨ topic = 2 ∨ topic = 3 := by
  induction h with
  | nil => simp
  | @cons m input ms inputs hm _ ih =>
    rw [forall_mem_topics_cons]
    refine ⟨fun topic ht => ?_, ih⟩
    have hs := hm.sourced
    rw [topic?_eq_some.mp ht] at hs
    exact hs.1

/-- Three topics at most come out of mappings that fit and claim none twice. -/
private theorem checkTopicCount_of_fits {event : Event} {mappings : List Mapping}
    {inputs : List CalleeInput} (hf : List.Forall₂ (Mapping.Fits event) mappings inputs)
    (hnd : (mappings.filterMap Mapping.topic?).Nodup) : checkTopicCount mappings = .ok () := by
  have hsub : mappings.filterMap Mapping.topic? ⊆ [1, 2, 3] := by
    intro topic htopic
    simpa using topics_subset hf topic htopic
  -- The topics differ and are among three.
  have hle : (mappings.filterMap Mapping.topic?).length ≤ 3 := hnd.length_le_of_subset hsub
  have hlen := length_filter_isTopic mappings
  unfold checkTopicCount mostTopics
  rw [List.getElem?_eq_none (by omega)]

theorem resolveCondition_eq_ok {condition resolved : Option String} :
    resolveCondition condition = .ok resolved
      ↔ (∀ text, condition = some text → Expression.Acceptable text)
        ∧ resolved = condition.map trim := by
  cases condition with
  | none => simp [resolveCondition, eq_comm]
  | some text =>
    simp only [resolveCondition, Option.some.injEq, forall_eq', Option.map_some]
    cases hc : Expression.check text "condition" with
    | error cause =>
      simp only [reduceCtorEq, false_iff]
      exact fun h => Expression.not_acceptable_of_check hc h.1
    | ok expression =>
      obtain ⟨ha, rfl⟩ := Expression.check_eq_ok.mp hc
      simp only [ha, true_and, Except.ok.injEq]
      exact eq_comm

/-- The rules for the mappings of an event to a function and for the guard. -/
structure Admissible (event : Event) (callee : Callee) (mappings : List Mapping)
    (condition : Option String) : Prop where
  fitting : List.Forall₂ (Mapping.Fits event) mappings callee.inputs
  distinct : (mappings.filterMap Mapping.topic?).Nodup
  guarded : ∀ text, condition = some text → Expression.Acceptable text

theorem resolve_eq_ok {event : Event} {callee : Callee} {mappings : List Mapping}
    {condition : Option String} {b : Binding} :
    resolve event callee mappings condition = .ok b
      ↔ Admissible event callee mappings condition
        ∧ b = { event, callee, mappings := List.zipWith Mapping.settled mappings callee.inputs
                condition := condition.map trim } := by
  unfold resolve
  by_cases hlen : mappings.length = callee.inputs.length
  · simp only [hlen, ne_eq, not_true_eq_false, if_false, bind_eq_ok, pure_eq_ok,
      resolveFrom_eq_ok hlen, resolveCondition_eq_ok]
    constructor
    · intro h
      obtain ⟨-, -, _, ⟨hf, hnd, -, rfl⟩, _, ⟨hg, rfl⟩, rfl⟩ := h
      exact ⟨⟨hf, hnd, hg⟩, rfl⟩
    · intro h
      obtain ⟨⟨hf, hnd, hg⟩, rfl⟩ := h
      exact ⟨(), checkTopicCount_of_fits hf hnd, _, ⟨hf, hnd, fun _ _ => rfl, rfl⟩, _, ⟨hg, rfl⟩,
        rfl⟩
  · simp only [hlen, ne_eq, not_false_eq_true, if_true]
    constructor
    · intro h
      obtain ⟨_, h, -⟩ := bind_eq_ok.mp h
      exact absurd h throw_ne_ok
    · intro h
      exact absurd h.1.fitting.length_eq hlen

theorem Admissible.zeroValue_eq_ok {event : Event} {callee : Callee} {mappings : List Mapping}
    {condition : Option String} (h : Admissible event callee mappings condition)
    {input : CalleeInput} (hi : input ∈ callee.inputs) :
    ∃ zero, zeroValue input.type = .ok zero := by
  obtain ⟨i, hlt, rfl⟩ := List.getElem_of_mem hi
  have hlen := h.fitting.length_eq
  obtain ⟨t, ht, htext⟩ := (h.fitting.get (by omega) hlt).typed
  rw [List.get_eq_getElem] at htext
  rw [← htext]
  exact ⟨t.zero, ValueType.zeroValue_text (ValueType.wellFormed_of_ofText ht)⟩

/-- What the resolver asks for, position by position. -/
structure Rules (event : Event) (callee : Callee) (mappings : List Mapping)
    (condition : Option String) : Prop where
  counted : mappings.length = callee.inputs.length
  fitting : ∀ (i : Nat) (m : Mapping) (input : CalleeInput), mappings[i]? = some m →
    callee.inputs[i]? = some input → m.Fits event input
  distinct : ∀ (i j : Nat) (topic : Int), mappings[i]?.bind Mapping.topic? = some topic →
    mappings[j]?.bind Mapping.topic? = some topic → i = j
  guarded : ∀ text, condition = some text → Expression.Acceptable text

theorem nodup_topics_iff {mappings : List Mapping} :
    (mappings.filterMap Mapping.topic?).Nodup
      ↔ ∀ (i j : Nat) (topic : Int), mappings[i]?.bind Mapping.topic? = some topic →
          mappings[j]?.bind Mapping.topic? = some topic → i = j := by
  rw [List.Nodup, List.pairwise_filterMap, List.pairwise_iff_getElem]
  constructor
  · intro h i j topic hi hj
    obtain ⟨m, hm, hmt⟩ := Option.bind_eq_some_iff.mp hi
    obtain ⟨n, hn, hnt⟩ := Option.bind_eq_some_iff.mp hj
    obtain ⟨hi', rfl⟩ := List.getElem?_eq_some_iff.mp hm
    obtain ⟨hj', rfl⟩ := List.getElem?_eq_some_iff.mp hn
    rcases Nat.lt_trichotomy i j with hlt | heq | hgt
    · exact absurd rfl (h i j hi' hj' hlt topic hmt topic hnt)
    · exact heq
    · exact absurd rfl (h j i hj' hi' hgt topic hnt topic hmt)
  · intro h i j hi hj hlt topic hit other hjt hsame
    subst hsame
    have heq := h i j topic (by simp [hi, hit]) (by simp [hj, hjt])
    omega

private theorem admissible_iff_rules {event : Event} {callee : Callee} {mappings : List Mapping}
    {condition : Option String} :
    Admissible event callee mappings condition ↔ Rules event callee mappings condition := by
  constructor
  · intro ⟨hf, hnd, hg⟩
    refine ⟨hf.length_eq, ?_, nodup_topics_iff.mp hnd, hg⟩
    intro i m input hm hi
    obtain ⟨hlm, rfl⟩ := List.getElem?_eq_some_iff.mp hm
    obtain ⟨hli, rfl⟩ := List.getElem?_eq_some_iff.mp hi
    exact hf.get hlm hli
  · intro ⟨hlen, hf, hnd, hg⟩
    refine ⟨List.forall₂_iff_get.mpr ⟨hlen, ?_⟩, nodup_topics_iff.mpr hnd, hg⟩
    intro i hlm hli
    exact hf i _ _ (List.getElem?_eq_getElem hlm) (List.getElem?_eq_getElem hli)

/-- The resolver succeeds on what meets the rules and on nothing else. It keeps the event and the
function, settles each mapping in its place, every zero literal included, and takes the blanks off
the guard. -/
theorem resolve_iff_rules {event : Event} {callee : Callee} {mappings : List Mapping}
    {condition : Option String} {b : Binding} :
    resolve event callee mappings condition = .ok b
      ↔ Rules event callee mappings condition
        ∧ b.event = event ∧ b.callee = callee ∧ b.condition = condition.map trim
        ∧ b.mappings.length = callee.inputs.length
        ∧ ∀ (i : Nat) (m : Mapping) (input : CalleeInput), mappings[i]? = some m →
            callee.inputs[i]? = some input → b.mappings[i]? = some (m.settled input)
              ∧ ∃ zero, zeroValue input.type = .ok zero := by
  rw [resolve_eq_ok, ← admissible_iff_rules]
  constructor
  · intro ⟨h, hb⟩
    subst hb
    refine ⟨h, rfl, rfl, rfl, by simp [h.fitting.length_eq], ?_⟩
    intro i m input hm hi
    refine ⟨?_, h.zeroValue_eq_ok (List.mem_of_getElem? hi)⟩
    simp only [List.getElem?_zipWith, hm, hi]
  · intro ⟨h, he, hc, hg, hlen, hall⟩
    refine ⟨h, ?_⟩
    have hms : b.mappings = List.zipWith Mapping.settled mappings callee.inputs := by
      apply List.ext_getElem
      · simp [hlen, h.fitting.length_eq]
      · intro i hb hz
        have hlt : i < callee.inputs.length := by omega
        have hlt' : i < mappings.length := by rw [h.fitting.length_eq]; exact hlt
        have hi := (hall i mappings[i] callee.inputs[i] (List.getElem?_eq_getElem hlt')
          (List.getElem?_eq_getElem hlt)).1
        rw [List.getElem?_eq_getElem hb, Option.some.injEq] at hi
        rw [hi, List.getElem_zipWith]
    cases b
    simp only at he hc hg hms
    rw [he, hc, hg, hms]

end Binding
end ReactiveContract
