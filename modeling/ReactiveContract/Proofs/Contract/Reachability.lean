import Mathlib.Order.Bounds.Basic
import ReactiveContract.Proofs.Contract.Reordering
/-! Branches that no log reaches, and the notes that say so. -/
namespace ReactiveContract
open Solidity

/-- The index of the binding that a note calls unreachable. -/
def Note.unreachable? : Note → Option Nat
  | .topicShared _ later _ _ => some later
  | _ => none

theorem Note.mem_unreachable {notes : List Note} {i : Nat} :
    i ∈ notes.filterMap Note.unreachable?
      ↔ ∃ first topic0 event, .topicShared first i topic0 event ∈ notes := by
  rw [List.mem_filterMap]
  constructor
  · rintro ⟨n, hn, hi⟩
    cases n with
    | topicShared first later topic0 event =>
      obtain rfl : later = i := Option.some.inj hi
      exact ⟨first, topic0, event, hn⟩
    | _ => cases hi
  · rintro ⟨first, topic0, event, hn⟩
    exact ⟨_, hn, rfl⟩

/-- No topic is dispatched to the branch of an index. -/
def Plan.Dead (p : Plan) (i : Nat) : Prop :=
  ∀ topic, p.dispatch.taken? p.eventConstants topic ≠ some i

/-- The bindings whose events have a topic, by their indices. -/
def Spec.filedUnder (spec : Spec) (topic0 : String) : Set Nat :=
  { i | ∃ b, spec.bindings[i]? = some b ∧ b.event.topic0 = topic0 }

/-- The topic of the binding of an index is a number of 256 bits, and no binding before it has the
number in another spelling. -/
def Spec.WritesAlike (spec : Spec) (i : Nat) : Prop :=
  ∃ (b : Binding) (topic : BitVec 256), spec.bindings[i]? = some b
    ∧ hexLiteral? b.event.topic0 = some topic.toNat
    ∧ ∀ (j : Nat) (c : Binding), j < i → spec.bindings[j]? = some c →
        hexLiteral? c.event.topic0 = some topic.toNat → c.event.topic0 = b.event.topic0

namespace Spec
variable {spec : Spec}

/-- Topics in all of their digits are spelled alike. -/
theorem writesAlike_of_digits
    (h : ∀ b ∈ spec.bindings, ∃ topic, b.event.topic0 = topicText topic) {i : Nat}
    (hi : i < spec.bindings.length) : spec.WritesAlike i := by
  have hmem : spec.bindings[i] ∈ spec.bindings := List.getElem_mem hi
  obtain ⟨topic, htopic⟩ := h _ hmem
  have hvalue : hexLiteral? spec.bindings[i].event.topic0 = some topic.toNat := by
    rw [htopic, hexLiteral?_topicText]
  refine ⟨spec.bindings[i], topic, List.getElem?_eq_getElem hi, hvalue, fun j c _ hc hct => ?_⟩
  exact spellsAlike_of_digits h topic.toNat c (List.mem_of_getElem? hc) _ hmem hct hvalue

theorem writesAlike_of_resolved (h : ∀ b ∈ spec.bindings, b.Resolved) {i : Nat}
    (hi : i < spec.bindings.length) : spec.WritesAlike i :=
  writesAlike_of_digits (fun b hb => (h b hb).event_declared.exists_topicText) hi

end Spec

namespace Plan
variable {spec : Spec} {plan : Plan} {bindings : List Binding} {b : Binding} {i : Nat}

/-- The first binding of a topic is the least one that is filed under it. -/
theorem isLeast_firstWithTopic (hb : spec.bindings[i]? = some b) :
    IsLeast (spec.filedUnder b.event.topic0) (firstWithTopic spec.bindings b) := by
  obtain ⟨hi, hib⟩ := List.getElem?_eq_some_iff.mp hb
  have hlt : firstWithTopic spec.bindings b < spec.bindings.length :=
    List.findIdx_lt_length_of_exists ⟨b, List.mem_of_getElem? hb, by simp⟩
  constructor
  · have hfirst := List.findIdx_getElem (w := hlt)
    exact ⟨_, List.getElem?_eq_getElem hlt, of_decide_eq_true hfirst⟩
  · rintro j ⟨c, hc, htopic⟩
    obtain ⟨hj, rfl⟩ := List.getElem?_eq_some_iff.mp hc
    by_contra hlt'
    have hnot := List.not_of_lt_findIdx (Nat.lt_of_not_le hlt')
    simp [htopic] at hnot

private theorem notes_branchesFrom {all : List Binding} :
    ∀ {index : Nat} {branches : List Branch},
      (branchesFrom all index bindings).outcome = .ok branches →
      (branchesFrom all index bindings).notes = (bindings.zipIdx index).flatMap fun p =>
        (noteShared all p.2 p.1).notes
          ++ [.bindingPlanned p.2 p.1.event.signature p.1.callee.signature] := by
  induction bindings with
  | nil => exact fun _ => rfl
  | cons b bindings ih =>
    intro index branches h
    obtain ⟨_, -, h⟩ := Traced.outcome_bind_eq_ok.mp h
    obtain ⟨br, hbr, h⟩ := Traced.outcome_bind_eq_ok.mp h
    obtain ⟨_, -, h⟩ := Traced.outcome_bind_eq_ok.mp h
    obtain ⟨rest, hrest, -⟩ := Traced.outcome_bind_eq_ok.mp h
    rw [branchesFrom, Traced.notes_bind_of_ok (outcome_noteShared all index b),
      Traced.notes_bind_of_ok hbr, Traced.notes_bind_of_ok (Traced.outcome_note _),
      Traced.notes_bind_of_ok hrest, ih hrest]
    simp [List.zipIdx_cons]

theorem notes_ofSpec (h : (ofSpec spec).outcome = .ok plan) :
    (ofSpec spec).notes = spec.bindings.zipIdx.flatMap fun p =>
      (noteShared spec.bindings p.2 p.1).notes
        ++ [.bindingPlanned p.2 p.1.event.signature p.1.callee.signature] := by
  obtain ⟨_, hcheck, h⟩ := Traced.outcome_bind_eq_ok.mp h
  obtain ⟨origins, horigins, h⟩ := Traced.outcome_bind_eq_ok.mp h
  obtain ⟨branches, hbranches, -⟩ := Traced.outcome_bind_eq_ok.mp h
  rw [ofSpec, Traced.notes_bind_of_ok hcheck, Traced.notes_bind_of_ok horigins,
    Traced.notes_bind_of_ok hbranches, notes_branchesFrom hbranches]
  simp

theorem mem_noteShared {n : Note} :
    n ∈ (noteShared bindings i b).notes
      ↔ firstWithTopic bindings b ≠ i
        ∧ n = .topicShared (firstWithTopic bindings b) i b.event.topic0 b.event.signature := by
  unfold noteShared
  dsimp only
  split <;> simp [*]

section Accepted
variable (h : (ofSpec spec).outcome = .ok plan)
include h

theorem mem_notes {n : Note} :
    n ∈ (ofSpec spec).notes
      ↔ ∃ (i : Nat) (b : Binding), spec.bindings[i]? = some b
        ∧ (n ∈ (noteShared spec.bindings i b).notes
          ∨ n = .bindingPlanned i b.event.signature b.callee.signature) := by
  rw [notes_ofSpec h, List.mem_flatMap]
  simp only [List.mem_append, List.mem_singleton, Prod.exists, List.mk_mem_zipIdx_iff_getElem?]
  exact exists_comm

private theorem level_of_mem_notes {n : Note} (hn : n ∈ (ofSpec spec).notes) :
    n.level = .debug := by
  obtain ⟨i, b, -, hshared | rfl⟩ := (mem_notes h).mp hn
  · obtain ⟨-, rfl⟩ := mem_noteShared.mp hshared
    rfl
  · rfl

/-- A binding is noted if it is not the first of its topic, and that is the one it is noted with. -/
theorem topicShared_mem_notes {first : Nat} {topic0 event : String} :
    .topicShared first i topic0 event ∈ (ofSpec spec).notes
      ↔ ∃ b, spec.bindings[i]? = some b ∧ b.event.topic0 = topic0 ∧ b.event.signature = event
        ∧ first < i ∧ IsLeast (spec.filedUnder topic0) first := by
  rw [mem_notes h]
  constructor
  · rintro ⟨k, b, hb, hshared | hplanned⟩
    · obtain ⟨hne, heq⟩ := mem_noteShared.mp hshared
      obtain ⟨rfl, rfl, rfl, rfl⟩ := Note.topicShared.inj heq
      have hleast := isLeast_firstWithTopic hb
      have hle : firstWithTopic spec.bindings b ≤ i := hleast.2 ⟨b, hb, rfl⟩
      exact ⟨b, hb, rfl, rfl, by omega, hleast⟩
    · cases hplanned
  · rintro ⟨b, hb, rfl, rfl, hlt, hleast⟩
    have hfirst : firstWithTopic spec.bindings b = first :=
      (isLeast_firstWithTopic hb).unique hleast
    refine ⟨i, b, hb, .inl (mem_noteShared.mpr ⟨by omega, ?_⟩)⟩
    rw [hfirst]

/-- The bindings are noted in their order, and none twice. -/
private theorem pairwise_unreachable :
    ((ofSpec spec).notes.filterMap Note.unreachable?).Pairwise (· < ·) := by
  have hsub : ((ofSpec spec).notes.filterMap Note.unreachable?).Sublist
      (spec.bindings.zipIdx.map (·.2)) := by
    rw [notes_ofSpec h, List.filterMap_flatMap]
    generalize spec.bindings.zipIdx = placed
    induction placed with
    | nil => exact .slnil
    | cons p placed ih =>
      rw [List.flatMap_cons, List.map_cons]
      refine List.Sublist.append (?_ : List.Sublist _ [p.2]) ih
      rw [List.filterMap_append]
      unfold noteShared
      dsimp only
      split <;> simp [Note.unreachable?]
  refine List.Pairwise.sublist hsub ?_
  rw [List.zipIdx_map_snd]
  exact List.pairwise_lt_range'

/-- A topic is dispatched to the first binding whose topic has its value. -/
theorem taken?_eq_findIdx? (topic : BitVec 256) :
    plan.dispatch.taken? plan.eventConstants topic
      = spec.bindings.findIdx? (hexLiteral? ·.event.topic0 = some topic.toNat) := by
  obtain ⟨-, origins, branches, -, hall, rfl⟩ := ofSpec_eq_ok.mp h
  have hzip : spec.bindings.findIdx? (hexLiteral? ·.event.topic0 = some topic.toNat)
      = spec.bindings.zipIdx.findIdx? (hexLiteral? ·.1.event.topic0 = some topic.toNat) := by
    have hbindings := List.zipIdx_map_fst 0 spec.bindings
    conv_lhs => rw [← hbindings, List.findIdx?_map]
    rfl
  rw [hzip]
  refine (findIdx?_eq_of_forall₂ hall ?_).symm
  rintro ⟨b, i⟩ hmem br hbr
  have hb : spec.bindings[i]? = some b := List.mk_mem_zipIdx_iff_getElem?.mp hmem
  obtain ⟨-, args, -, rfl⟩ := branch_eq_ok.mp hbr
  rw [← valueOf?_eventConstantsOf hb]
  rfl

/-- The number of a topic that is spelled alike is dispatched to the first binding of the topic. -/
theorem exists_taken? (hw : spec.WritesAlike i) :
    ∃ (b : Binding) (topic : BitVec 256), spec.bindings[i]? = some b
      ∧ hexLiteral? b.event.topic0 = some topic.toNat
      ∧ plan.dispatch.taken? plan.eventConstants topic
        = some (firstWithTopic spec.bindings b) := by
  obtain ⟨b, topic, hb, hvalue, halike⟩ := hw
  refine ⟨b, topic, hb, hvalue, ?_⟩
  obtain ⟨⟨c, hc, htopic⟩, hleast⟩ := isLeast_firstWithTopic hb
  have hle : firstWithTopic spec.bindings b ≤ i := hleast ⟨b, hb, rfl⟩
  obtain ⟨hlt, hcfirst⟩ := List.getElem?_eq_some_iff.mp hc
  rw [taken?_eq_findIdx? h, List.findIdx?_eq_some_iff_getElem]
  refine ⟨hlt, by rw [hcfirst, htopic, hvalue, decide_eq_true_eq], fun j hj hjvalue => ?_⟩
  have hjlt : j < spec.bindings.length := hj.trans hlt
  have hspelled := halike j _ (hj.trans_le hle) (List.getElem?_eq_getElem hjlt)
    (of_decide_eq_true hjvalue)
  have hlej := hleast ⟨_, List.getElem?_eq_getElem hjlt, hspelled⟩
  omega

/-- The binding that a branch is noted with takes the logs of the branch. -/
private theorem dead_of_noted {first : Nat} {topic0 event : String}
    (hn : .topicShared first i topic0 event ∈ (ofSpec spec).notes) : plan.Dead i := by
  obtain ⟨b, hb, rfl, -, hlt, ⟨c, hc, htopic⟩, -⟩ := (topicShared_mem_notes h).mp hn
  intro topic htaken
  rw [taken?_eq_findIdx? h, List.findIdx?_eq_some_iff_getElem] at htaken
  obtain ⟨hi, hvalue, hbefore⟩ := htaken
  obtain ⟨_, hib⟩ := List.getElem?_eq_some_iff.mp hb
  obtain ⟨hfirst, rfl⟩ := List.getElem?_eq_some_iff.mp hc
  apply hbefore first hlt
  rw [htopic, ← hib]
  exact hvalue

end Accepted

/-- Planning notes in their order the bindings that are not the first of their topic, each once and
with that first one, and nothing else than at the lowest level. The branch of a binding that is noted
is dead. Where the number of its topic is not spelled differently before it, the branch of a binding
is noted exactly if it is dead, and the first one of the topic is the one that its logs reach. This
is so for all resolved bindings. -/
theorem ofSpec_marks_dead (h : (ofSpec spec).outcome = .ok plan) :
    (∀ n ∈ (ofSpec spec).notes, n.level = .debug)
      ∧ ((ofSpec spec).notes.filterMap Note.unreachable?).Pairwise (· < ·)
      ∧ (∀ first i topic0 event, .topicShared first i topic0 event ∈ (ofSpec spec).notes
          ↔ ∃ b, spec.bindings[i]? = some b ∧ b.event.topic0 = topic0 ∧ b.event.signature = event
            ∧ first < i ∧ IsLeast (spec.filedUnder topic0) first)
      ∧ (∀ i ∈ (ofSpec spec).notes.filterMap Note.unreachable?, plan.Dead i)
      ∧ (∀ i, spec.WritesAlike i →
          (i ∈ (ofSpec spec).notes.filterMap Note.unreachable? ↔ plan.Dead i)
          ∧ ∀ first topic0 event, .topicShared first i topic0 event ∈ (ofSpec spec).notes →
              ∃ topic : BitVec 256, hexLiteral? topic0 = some topic.toNat
                ∧ plan.dispatch.taken? plan.eventConstants topic = some first)
      ∧ ((∀ b ∈ spec.bindings, b.Resolved) →
          ∀ i < spec.bindings.length, spec.WritesAlike i) := by
  have hdead : ∀ i ∈ (ofSpec spec).notes.filterMap Note.unreachable?, plan.Dead i := by
    intro i hi
    obtain ⟨first, topic0, event, hn⟩ := Note.mem_unreachable.mp hi
    exact dead_of_noted h hn
  refine ⟨fun n => level_of_mem_notes h, pairwise_unreachable h,
    fun first i topic0 event => topicShared_mem_notes h, hdead,
    fun i hw => ⟨⟨hdead i, ?_⟩, ?_⟩, fun hr i hi => Spec.writesAlike_of_resolved hr hi⟩
  · intro hi
    obtain ⟨b, topic, hb, -, htaken⟩ := exists_taken? h hw
    have hne : firstWithTopic spec.bindings b ≠ i := fun heq => hi topic (heq ▸ htaken)
    have hn := (mem_notes h).mpr ⟨i, b, hb, .inl (mem_noteShared.mpr ⟨hne, rfl⟩)⟩
    exact Note.mem_unreachable.mpr ⟨_, _, _, hn⟩
  · intro first topic0 event hn
    obtain ⟨b, hb, rfl, -, -, hleast⟩ := (topicShared_mem_notes h).mp hn
    obtain ⟨c, topic, hc, hvalue, htaken⟩ := exists_taken? h hw
    obtain rfl : b = c := Option.some.inj (hb.symm.trans hc)
    rw [(isLeast_firstWithTopic hb).unique hleast] at htaken
    exact ⟨topic, hvalue, htaken⟩

/-- Two credits, each for the logs of two topics by turns. -/
def turnsSpec : Spec :=
  { transferSpec with
    bindings := [
      filed 7 "credit(address,uint256)", filed 9 "debit(address,uint256)",
      filed 7 "debit(address,uint256)", filed 9 "credit(address,uint256)"] }

def turnsPlan : Plan :=
  assemble turnsSpec (Origins.ofAny 4) [
    filedBranch 0 "credit(address,uint256)", filedBranch 1 "debit(address,uint256)",
    filedBranch 2 "debit(address,uint256)", filedBranch 3 "credit(address,uint256)"]

private theorem ofSpec_turnsSpec : (ofSpec turnsSpec).outcome = .ok turnsPlan := by
  refine ofSpec_eq_ok.mpr ⟨rfl, _, _, rfl, ?_, rfl⟩
  exact .cons (branch_filedAs 0 _ _) (.cons (branch_filedAs 1 _ _)
    (.cons (branch_filedAs 2 _ _) (.cons (branch_filedAs 3 _ _) .nil)))

private theorem writesAlike_turnsSpec : turnsSpec.WritesAlike 3 := by
  refine Spec.writesAlike_of_digits (fun b hb => ?_) (by decide)
  simp only [turnsSpec, List.mem_cons, List.not_mem_nil, or_false] at hb
  rcases hb with rfl | rfl | rfl | rfl
  · exact ⟨7, rfl⟩
  · exact ⟨9, rfl⟩
  · exact ⟨7, rfl⟩
  · exact ⟨9, rfl⟩

/-- The last binding is noted with the second, which takes its logs. -/
theorem turnsPlan_marks_dead :
    (ofSpec turnsSpec).outcome = .ok turnsPlan ∧ turnsSpec.WritesAlike 3
      ∧ .topicShared 1 3 (topicText 9) "Transfer(address,uint256)" ∈ (ofSpec turnsSpec).notes
      ∧ turnsPlan.Dead 3 ∧ turnsPlan.dispatch.taken? turnsPlan.eventConstants 9 = some 1 := by
  have hne : topicText 7 ≠ topicText 9 := fun h => absurd (topicText_injective h) (by decide)
  have hleast : IsLeast (turnsSpec.filedUnder (topicText 9)) 1 := by
    refine ⟨⟨filed 9 "debit(address,uint256)", rfl, rfl⟩, ?_⟩
    rintro j ⟨b, hb, htopic⟩
    cases j with
    | zero =>
      obtain rfl := Option.some.inj hb
      exact absurd htopic hne
    | succ j => omega
  obtain ⟨-, -, hnotes, -, halike, -⟩ := ofSpec_marks_dead ofSpec_turnsSpec
  have hn := (hnotes 1 3 (topicText 9) "Transfer(address,uint256)").mpr
    ⟨filed 9 "credit(address,uint256)", rfl, rfl, rfl, by decide, hleast⟩
  obtain ⟨hdead, hreached⟩ := halike 3 writesAlike_turnsSpec
  obtain ⟨topic, hvalue, htaken⟩ := hreached _ _ _ hn
  rw [hexLiteral?_topicText, Option.some.injEq] at hvalue
  have htopic : 9 = topic := BitVec.eq_of_toNat_eq hvalue
  rw [← htopic] at htaken
  exact ⟨ofSpec_turnsSpec, writesAlike_turnsSpec, hn,
    hdead.mp (Note.mem_unreachable.mpr ⟨_, _, _, hn⟩), htaken⟩

/-- Two credits for one number in two spellings. -/
def capitalSpec : Spec :=
  { transferSpec with
    bindings := [
      filedAs smallTopic "credit(address,uint256)", filedAs capitalTopic "credit(address,uint256)"] }

def capitalPlan : Plan :=
  assemble capitalSpec (Origins.ofAny 2) [
    filedBranch 0 "credit(address,uint256)", filedBranch 1 "credit(address,uint256)"]

private theorem ofSpec_capitalSpec : (ofSpec capitalSpec).outcome = .ok capitalPlan := by
  refine ofSpec_eq_ok.mpr ⟨rfl, _, _, rfl, ?_, rfl⟩
  exact .cons (branch_filedAs 0 _ _) (.cons (branch_filedAs 1 _ _) .nil)

/-- One number in two spellings: the second branch is dead, and no note says so. -/
theorem capitalPlan_unmarked :
    (ofSpec capitalSpec).outcome = .ok capitalPlan ∧ capitalPlan.Dead 1
      ∧ 1 ∉ (ofSpec capitalSpec).notes.filterMap Note.unreachable?
      ∧ ¬ ∀ i < capitalSpec.bindings.length,
          i ∈ (ofSpec capitalSpec).notes.filterMap Note.unreachable? ↔ capitalPlan.Dead i := by
  have hvalue : hexLiteral? smallTopic = hexLiteral? capitalTopic := by decide +kernel
  have hdead : capitalPlan.Dead 1 := by
    intro topic htaken
    rw [taken?_eq_findIdx? ofSpec_capitalSpec, List.findIdx?_eq_some_iff_getElem] at htaken
    obtain ⟨_, hsecond, hbefore⟩ := htaken
    have hcapital : hexLiteral? capitalTopic = some topic.toNat := of_decide_eq_true hsecond
    exact hbefore 0 (by decide) (decide_eq_true (hvalue.trans hcapital))
  have hunmarked : 1 ∉ (ofSpec capitalSpec).notes.filterMap Note.unreachable? := by
    intro hmem
    obtain ⟨first, topic0, event, hn⟩ := Note.mem_unreachable.mp hmem
    obtain ⟨b, hb, rfl, -, hlt, ⟨c, hc, htopic⟩, -⟩ :=
      (topicShared_mem_notes ofSpec_capitalSpec).mp hn
    obtain rfl : first = 0 := by omega
    obtain rfl := Option.some.inj hb
    obtain rfl := Option.some.inj hc
    have hne : smallTopic ≠ capitalTopic := by decide
    exact hne htopic
  refine ⟨ofSpec_capitalSpec, hdead, hunmarked, fun hall => ?_⟩
  exact hunmarked ((hall 1 (by decide)).mpr hdead)

end Plan
end ReactiveContract
