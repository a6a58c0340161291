import Mathlib.Data.List.Basic
import ReactiveContract.Binding.Resolution
/-! Too many mappings of topics are refused, and which of the mappings the refusal points at. -/
namespace ReactiveContract
open Abi

/-- What a filter keeps at a place is what it keeps after so many others. -/
theorem getElem?_filter_eq_some {α : Type} {p : α → Bool} {x : α} {xs : List α} :
    ∀ {n : Nat}, (xs.filter p)[n]? = some x
      ↔ ∃ i, xs[i]? = some x ∧ p x = true ∧ (xs.take i).countP p = n := by
  induction xs with
  | nil => simp
  | cons y ys ih =>
    intro n
    -- Only a kept head moves the place; the head itself is found where nothing came before it.
    cases hy : p y with
    | false =>
      rw [List.filter_cons_of_neg (by simp [hy]), ih]
      constructor
      · rintro ⟨i, hi, hx, hn⟩
        exact ⟨i + 1, hi, hx, by simpa [hy] using hn⟩
      · rintro ⟨_ | i, hi, hx, hn⟩
        · obtain rfl : y = x := Option.some.inj hi
          simp [hy] at hx
        · exact ⟨i, hi, hx, by simpa [hy] using hn⟩
    | true =>
      rw [List.filter_cons_of_pos hy]
      cases n with
      | zero =>
        constructor
        · intro h
          obtain rfl : y = x := Option.some.inj h
          exact ⟨0, rfl, hy, rfl⟩
        · rintro ⟨_ | i, hi, -, hn⟩
          · exact hi
          · simp [hy] at hn
      | succ n =>
        rw [List.getElem?_cons_succ, ih]
        constructor
        · rintro ⟨i, hi, hx, hn⟩
          exact ⟨i + 1, hi, hx, by simpa [hy] using hn⟩
        · rintro ⟨_ | i, hi, hx, hn⟩
          · simp at hn
          · exact ⟨i, hi, hx, by simpa [hy] using hn⟩

/-- Something kept adds to the number of those before a later place. -/
theorem countP_take_lt {α : Type} {p : α → Bool} {xs : List α} {i j : Nat} {x : α}
    (hi : xs[i]? = some x) (hx : p x = true) (hij : i < j) :
    (xs.take i).countP p < (xs.take j).countP p := by
  have hstep : (xs.take (i + 1)).countP p = (xs.take i).countP p + 1 := by
    rw [List.take_add_one, hi, List.countP_append]
    simp [hx]
  have hle : (xs.take (i + 1)).countP p ≤ (xs.take j).countP p :=
    (List.take_prefix_take_left hij).sublist.countP_le
  omega

/-- What stands at a place is found there or before, and before exactly if it stands there too. -/
theorem idxOf_of_getElem? {α : Type} [BEq α] [LawfulBEq α] {xs : List α} {i : Nat} {x : α}
    (h : xs[i]? = some x) : xs.idxOf x ≤ i ∧ (xs.idxOf x = i ↔ x ∉ xs.take i) := by
  obtain ⟨hi, hx⟩ := List.getElem?_eq_some_iff.mp h
  have hlen : (xs.take i).length = i := List.length_take_of_le (Nat.le_of_lt hi)
  have hsplit : xs.idxOf x
      = if x ∈ xs.take i then (xs.take i).idxOf x else (xs.drop i).idxOf x + i := by
    conv_lhs => rw [← List.take_append_drop i xs, List.idxOf_append, hlen]
  by_cases hmem : x ∈ xs.take i
  · have hlt := List.idxOf_lt_length_of_mem hmem
    rw [hsplit, if_pos hmem]
    exact ⟨by omega, by simp only [hmem, not_true_eq_false, iff_false]; omega⟩
  · have hdrop : (xs.drop i).idxOf x = 0 := by
      rw [List.drop_eq_getElem_cons hi, hx, List.idxOf_cons_self]
    rw [hsplit, if_neg hmem, hdrop, Nat.zero_add]
    exact ⟨Nat.le_refl i, iff_of_true rfl hmem⟩

namespace Binding

/-- The first mapping of a topic that is one too many, and its place. -/
def IsSurplus (mappings : List Mapping) (i : Nat) (m : Mapping) : Prop :=
  mappings[i]? = some m ∧ isTopic m = true ∧ (mappings.take i).countP isTopic = mostTopics

theorem IsSurplus.place_unique {mappings : List Mapping} {i j : Nat} {m n : Mapping}
    (hi : IsSurplus mappings i m) (hj : IsSurplus mappings j n) : i = j := by
  obtain ⟨him, hm, hcount⟩ := hi
  obtain ⟨hjn, hn, hcount'⟩ := hj
  rcases Nat.lt_trichotomy i j with hlt | heq | hgt
  · have h := countP_take_lt him hm hlt
    omega
  · exact heq
  · have h := countP_take_lt hjn hn hgt
    omega

private theorem exists_isSurplus {mappings : List Mapping}
    (h : mostTopics < mappings.countP isTopic) :
    ∃ i m, IsSurplus mappings i m := by
  rw [List.countP_eq_length_filter] at h
  obtain ⟨i, hi⟩ := getElem?_filter_eq_some.mp (List.getElem?_eq_getElem h)
  exact ⟨i, _, hi⟩

/-- The refusal of a surplus mapping is that of the first mapping equal to it. -/
private theorem checkTopicCount_of_isSurplus {mappings : List Mapping} {i : Nat} {m : Mapping}
    (h : IsSurplus mappings i m) :
    checkTopicCount mappings
      = .error (violation (mappings.idxOf m) "topicIndex" (.tooManyTopics mostTopics)) := by
  have hm : (mappings.filter isTopic)[mostTopics]? = some m :=
    getElem?_filter_eq_some.mpr ⟨i, h⟩
  simp only [checkTopicCount, hm]

theorem resolve_of_isSurplus {event : Event} {callee : Callee} {mappings : List Mapping}
    (hlen : mappings.length = callee.inputs.length) {i : Nat} {m : Mapping}
    (h : IsSurplus mappings i m) (condition : Option String) :
    resolve event callee mappings condition
      = .error (violation (mappings.idxOf m) "topicIndex" (.tooManyTopics mostTopics)) := by
  unfold resolve
  rw [if_neg (not_not_intro hlen), checkTopicCount_of_isSurplus h]
  rfl

/-- More mappings of topics than there can be are refused, whatever else they are. The refusal
points at the first mapping that equals the surplus one, so it points at the surplus mapping itself
exactly if no mapping before is equal to it. -/
theorem resolve_surplus_iff {event : Event} {callee : Callee} {mappings : List Mapping}
    {condition : Option String} (hlen : mappings.length = callee.inputs.length)
    (hmany : mostTopics < mappings.countP isTopic) :
    ∃ i m, IsSurplus mappings i m ∧ (∀ j n, IsSurplus mappings j n → j = i)
      ∧ ∃ first : Nat, resolve event callee mappings condition
          = .error (violation first "topicIndex" (.tooManyTopics mostTopics))
        ∧ (first = i ↔ m ∉ mappings.take i)
        ∧ first ≤ i ∧ mappings[first]? = some m ∧ m ∉ mappings.take first := by
  obtain ⟨i, m, h⟩ := exists_isSurplus hmany
  obtain ⟨hle, hiff⟩ := idxOf_of_getElem? h.1
  have hfirst : mappings[mappings.idxOf m]? = some m :=
    List.getElem?_idxOf (List.mem_of_getElem? h.1)
  have hbefore : m ∉ mappings.take (mappings.idxOf m) := (idxOf_of_getElem? hfirst).2.mp rfl
  exact ⟨i, m, h, fun j n hj => hj.place_unique h, mappings.idxOf m,
    resolve_of_isSurplus hlen h condition, hiff, hle, hfirst, hbefore⟩

/-- An event that fills three topics. -/
def threeOwners : Event :=
  { name := "Owners"
    inputs := [⟨"a", "address", true, 0⟩, ⟨"b", "address", true, 1⟩, ⟨"c", "address", true, 2⟩]
    signature := "Owners(address,address,address)"
    topic0 := topicOf "Owners(address,address,address)".toUTF8.data.toList }

def fourOwners : Callee :=
  { name := "own"
    inputs := [⟨"", "address", 0⟩, ⟨"", "address", 1⟩, ⟨"", "address", 2⟩, ⟨"", "address", 3⟩]
    signature := "own(address,address,address,address)"
    mutability := "nonpayable" }

/-- Four mappings of topics, told apart by their names. -/
def namedTopics : List Mapping :=
  [⟨"a", "address", .topic 1⟩, ⟨"b", "address", .topic 2⟩, ⟨"c", "address", .topic 3⟩,
    ⟨"d", "address", .topic 2⟩]

theorem namedTopics_refused :
    namedTopics.length = fourOwners.inputs.length ∧ mostTopics < namedTopics.countP isTopic
      ∧ resolve threeOwners fourOwners namedTopics none
        = .error (violation 3 "topicIndex" (.tooManyTopics mostTopics)) := by
  have hmany : mostTopics < namedTopics.countP isTopic := by decide
  obtain ⟨i, m, h, -, first, hresolve, hiff, -⟩ :=
    @resolve_surplus_iff threeOwners fourOwners namedTopics none rfl hmany
  have hplace : IsSurplus namedTopics 3 ⟨"d", "address", .topic 2⟩ := ⟨rfl, rfl, rfl⟩
  obtain rfl : i = 3 := h.place_unique hplace
  obtain rfl : m = ⟨"d", "address", .topic 2⟩ := Option.some.inj (h.1.symm.trans hplace.1)
  obtain rfl : first = 3 := hiff.mpr (by decide)
  exact ⟨rfl, hmany, hresolve⟩

/-- Four mappings of topics, the last of which repeats the second. -/
def repeatedTopics : List Mapping :=
  [⟨"", "address", .topic 1⟩, ⟨"", "address", .topic 2⟩, ⟨"", "address", .topic 3⟩,
    ⟨"", "address", .topic 2⟩]

/-- The fourth mapping is the surplus one, but the refusal points at the second. -/
theorem repeatedTopics_misplaced :
    repeatedTopics.length = fourOwners.inputs.length
      ∧ IsSurplus repeatedTopics 3 ⟨"", "address", .topic 2⟩
      ∧ resolve threeOwners fourOwners repeatedTopics none
        = .error (violation 1 "topicIndex" (.tooManyTopics mostTopics)) := by
  have h : IsSurplus repeatedTopics 3 ⟨"", "address", .topic 2⟩ := ⟨rfl, rfl, rfl⟩
  have hfirst : repeatedTopics.idxOf ⟨"", "address", .topic 2⟩ = 1 := by decide
  have hresolve := @resolve_of_isSurplus threeOwners fourOwners repeatedTopics rfl _ _ h none
  rw [hfirst] at hresolve
  exact ⟨rfl, h, hresolve⟩

end Binding
end ReactiveContract
