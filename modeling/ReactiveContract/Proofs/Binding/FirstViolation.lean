import ReactiveContract.Proofs.Binding.Resolution
import ReactiveContract.Proofs.Binding.TopicLimit
/-! The mapping that a refusal points at: the first one that breaks a rule, whatever comes after
it. -/
namespace ReactiveContract
open Abi Outcome

/-- The function with no more than its first inputs. -/
def Abi.Callee.firstInputs (callee : Callee) (count : Nat) : Callee :=
  { callee with inputs := callee.inputs.take count }

/-- A refusal that points at the mapping of an index. -/
def Violation.PointsAt (index : Nat) (v : Violation) : Prop := v.index = some (index : Int)

namespace Binding
open Violation (PointsAt)

section Checks
variable {event : Event} {claimed : List (Int × Nat)} {index : Nat} {t : ValueType}

theorem pointsAt_violation (field : String) (cause : Violation.Cause) :
    PointsAt index (violation index field cause) := rfl

private theorem checkType_pointsAt (m : Mapping) (input : CalleeInput) :
    FailsWith (PointsAt index) (checkType index m input) := by
  unfold checkType
  split
  · exact failsWith_error.mpr (pointsAt_violation _ _)
  · split
    · exact failsWith_ok _
    · exact failsWith_error.mpr (pointsAt_violation _ _)

private theorem checkName_pointsAt (m : Mapping) (input : CalleeInput) :
    FailsWith (PointsAt index) (checkName index m input) := by
  unfold checkName
  split
  · exact failsWith_error.mpr (pointsAt_violation _ _)
  · exact failsWith_ok _

private theorem checkTopic_pointsAt (topic : Int) :
    FailsWith (PointsAt index) (checkTopic event claimed index t topic) := by
  have hfault (field : String) (cause : Violation.Cause) :
      FailsWith (PointsAt index) (.error (violation index field cause) : Except Violation Unit) :=
    failsWith_error.mpr (pointsAt_violation field cause)
  unfold checkTopic
  dsimp only
  split
  · exact hfault _ _
  · split
    · exact hfault _ _
    · split
      · exact hfault _ _
      · split
        · exact hfault _ _
        · exact failsWith_ok ()

private theorem checkField_pointsAt (field : String) :
    FailsWith (PointsAt index) (checkField event index t field) := by
  have hfault (cause : Violation.Cause) : FailsWith (PointsAt index)
      (.error (violation index "fieldName" cause) : Except Violation Unit) :=
    failsWith_error.mpr (pointsAt_violation _ cause)
  unfold checkField
  dsimp only
  split
  · exact hfault _
  · split
    · exact hfault _
    · split
      · exact hfault _
      · exact failsWith_ok ()

private theorem resolveLiteral_pointsAt (literal : String) :
    FailsWith (PointsAt index) (resolveLiteral index t literal) := by
  unfold resolveLiteral
  split
  · exact failsWith_error.mpr (pointsAt_violation _ _)
  · split
    · split <;> exact failsWith_ok _
    · exact failsWith_ok _

private theorem resolveSource_pointsAt (source : Source) :
    FailsWith (PointsAt index) (resolveSource event claimed index t source) := by
  cases source with
  | fixed literal => exact (resolveLiteral_pointsAt literal).map _
  | topic topic => exact (checkTopic_pointsAt topic).map _
  | data field => exact (checkField_pointsAt field).map _
  | unbound zero => exact failsWith_ok _

/-- Whatever a mapping is refused for, the refusal points at it. -/
private theorem resolveMapping_pointsAt (m : Mapping) (input : CalleeInput) :
    FailsWith (PointsAt index) (resolveMapping event claimed index m input) :=
  (checkType_pointsAt m input).bind fun _ => (checkName_pointsAt m input).bind fun _ =>
    (resolveSource_pointsAt m.source).bind fun _ => failsWith_ok _

end Checks

/-- A refusal comes from one mapping. What is before it resolves, and whatever is after it, the
refusal stays the same. -/
theorem resolveFrom_eq_error {event : Event} {v : Violation} {inputs : List CalleeInput} :
    ∀ {mappings : List Mapping} {claimed : List (Int × Nat)} {index : Nat},
      resolveFrom event claimed index mappings inputs = .error v →
      ∃ place : Nat, place < mappings.length ∧ PointsAt (index + place) v
        ∧ (∃ resolved, resolveFrom event claimed index (mappings.take place) (inputs.take place)
            = .ok resolved)
        ∧ ∀ count, place < count →
            resolveFrom event claimed index (mappings.take count) (inputs.take count)
              = .error v := by
  induction inputs with
  | nil =>
    intro mappings claimed index h
    cases mappings <;> cases h
  | cons input inputs ih =>
    intro mappings claimed index h
    cases mappings with
    | nil => cases h
    | cons m ms =>
      -- What the mapping claims is known from itself, so it is the same in every prefix.
      have hcons (count : Nat) : resolveFrom event claimed index ((m :: ms).take (count + 1))
          ((input :: inputs).take (count + 1))
          = resolveMapping event claimed index m input >>= fun resolved =>
            resolveFrom event (claims claimed index m) (index + 1) (ms.take count)
              (inputs.take count) >>= fun rest => pure (resolved :: rest) := rfl
      rw [resolveFrom] at h
      rcases bind_eq_error.mp h with hm | ⟨resolved, hm, h⟩
      · refine ⟨0, Nat.succ_pos _, resolveMapping_pointsAt m input v hm, ⟨[], rfl⟩, ?_⟩
        intro count hcount
        obtain ⟨count, rfl⟩ := Nat.exists_eq_add_one_of_ne_zero (Nat.ne_of_gt hcount)
        rw [hcons]
        exact bind_eq_error.mpr (.inl hm)
      · have hrest : resolveFrom event (claims claimed index m) (index + 1) ms inputs
            = .error v := bind_pure_eq_error.mp h
        obtain ⟨place, hlt, hpoints, ⟨before, hbefore⟩, hafter⟩ := ih hrest
        refine ⟨place + 1, Nat.succ_lt_succ hlt, ?_, ⟨resolved :: before, ?_⟩, ?_⟩
        · rwa [Nat.add_right_comm, Nat.add_assoc] at hpoints
        · rw [hcons, hm, hbefore]
          rfl
        · intro count hcount
          obtain ⟨count, rfl⟩ := Nat.exists_eq_add_one_of_ne_zero (Nat.ne_zero_of_lt hcount)
          rw [hcons, hm]
          have hsame := hafter count (Nat.lt_of_succ_lt_succ hcount)
          exact bind_eq_error.mpr (.inr ⟨resolved, rfl, bind_eq_error.mpr (.inl hsame)⟩)

section Prefixes
variable {event : Event} {callee : Callee} {mappings : List Mapping} {condition : Option String}

private theorem checkTopicCount_of_few (h : mappings.countP isTopic ≤ mostTopics) :
    checkTopicCount mappings = .ok () := by
  rw [List.countP_eq_length_filter] at h
  unfold checkTopicCount
  rw [List.getElem?_eq_none h]

/-- With as many mappings as inputs and few topics, the mappings are taken one by one, and the guard
comes last. -/
theorem resolve_of_few (hlen : mappings.length = callee.inputs.length)
    (hfew : mappings.countP isTopic ≤ mostTopics) (condition : Option String) :
    resolve event callee mappings condition
      = resolveFrom event [] 0 mappings callee.inputs >>= fun resolved =>
        resolveCondition condition >>= fun guarded =>
        pure { event, callee, mappings := resolved, condition := guarded } := by
  unfold resolve
  rw [if_neg (not_not_intro hlen), checkTopicCount_of_few hfew]
  rfl

/-- The same holds of the first mappings and the first inputs. -/
theorem resolve_firstInputs (hlen : mappings.length = callee.inputs.length)
    (hfew : mappings.countP isTopic ≤ mostTopics) (count : Nat) (condition : Option String) :
    resolve event (callee.firstInputs count) (mappings.take count) condition
      = resolveFrom event [] 0 (mappings.take count) (callee.inputs.take count) >>= fun resolved =>
        resolveCondition condition >>= fun guarded =>
        pure ⟨event, callee.firstInputs count, resolved, guarded⟩ := by
  have hcount : (mappings.take count).length = (callee.firstInputs count).inputs.length := by
    simp [Callee.firstInputs, hlen]
  have htopics : (mappings.take count).countP isTopic ≤ mostTopics :=
    Nat.le_trans (List.take_sublist count mappings).countP_le hfew
  exact resolve_of_few hcount htopics condition

theorem resolveCondition_eq_error {v : Violation} (h : resolveCondition condition = .error v) :
    v.index = none ∧ v.field = some "condition" := by
  unfold resolveCondition at h
  split at h
  · cases h
  · split at h
    · cases h
    · cases h
      exact ⟨rfl, rfl⟩

end Prefixes

/-- With as many mappings as inputs and no more topics than there can be, a refusal that points at a
mapping points at the first that breaks a rule: the mappings before it resolve, and with it they
are refused in the same way, whatever follows and whatever the guard is. A refusal that points at
no mapping is that of the guard. -/
theorem resolve_blames_first {event : Event} {callee : Callee} {mappings : List Mapping}
    {condition : Option String} {v : Violation}
    (hlen : mappings.length = callee.inputs.length)
    (hfew : mappings.countP isTopic ≤ mostTopics)
    (h : resolve event callee mappings condition = .error v) :
    (∀ index : Int, v.index = some index → ∃ place : Nat, index = place
        ∧ place < mappings.length
        ∧ (∃ b, resolve event (callee.firstInputs place) (mappings.take place) none = .ok b)
        ∧ ∀ count guard, place < count →
            resolve event (callee.firstInputs count) (mappings.take count) guard = .error v)
      ∧ (v.index = none →
        (∃ b, resolve event callee mappings none = .ok b) ∧ v.field = some "condition") := by
  rw [resolve_of_few hlen hfew] at h
  rcases bind_eq_error.mp h with h | ⟨resolved, hresolved, h⟩
  · obtain ⟨place, hlt, hpoints, ⟨before, hbefore⟩, hafter⟩ := resolveFrom_eq_error h
    rw [Nat.zero_add] at hpoints
    have hfirst : ∀ count guard, place < count →
        resolve event (callee.firstInputs count) (mappings.take count) guard = .error v := by
      intro count guard hcount
      rw [resolve_firstInputs hlen hfew]
      exact bind_eq_error.mpr (.inl (hafter count hcount))
    constructor
    · intro index hindex
      obtain rfl : (place : Int) = index := Option.some.inj (hpoints.symm.trans hindex)
      refine ⟨place, rfl, hlt, ?_, hfirst⟩
      rw [resolve_firstInputs hlen hfew, hbefore]
      exact ⟨_, rfl⟩
    · intro hnone
      cases hpoints.symm.trans hnone
  · have hguard : resolveCondition condition = .error v := bind_pure_eq_error.mp h
    obtain ⟨hnone, hfield⟩ := resolveCondition_eq_error hguard
    constructor
    · intro index hindex
      cases hnone.symm.trans hindex
    · intro _
      rw [resolve_of_few hlen hfew, hresolved]
      exact ⟨⟨_, rfl⟩, hfield⟩

/-- Four mappings, of which the third claims a topic again and the fourth one that there is not. -/
def claimedTwice : List Mapping :=
  [⟨"", "address", .topic 1⟩, ⟨"", "address", .unbound none⟩, ⟨"", "address", .topic 1⟩,
    ⟨"", "address", .topic 9⟩]

private theorem resolveFrom_claimedTwice :
    resolveFrom threeOwners [] 0 claimedTwice fourOwners.inputs
      = .error (violation 2 "topicIndex" (.topicClaimed 1 0)) := by
  have haddress : ValueType.ofText "address" = .ok .address :=
    ValueType.ofText_text (t := .address) trivial
  simp only [claimedTwice, fourOwners, resolveFrom, resolveMapping, checkType, haddress]
  rfl

/-- The claim made again is blamed, not the topic that there is not; the two mappings before it
resolve, and the three up to it are refused as all four are. -/
theorem claimedTwice_blamed :
    claimedTwice.length = fourOwners.inputs.length ∧ claimedTwice.countP isTopic ≤ mostTopics
      ∧ resolve threeOwners fourOwners claimedTwice (some ";")
        = .error (violation 2 "topicIndex" (.topicClaimed 1 0))
      ∧ (∃ b, resolve threeOwners (fourOwners.firstInputs 2) (claimedTwice.take 2) none = .ok b)
      ∧ resolve threeOwners (fourOwners.firstInputs 3) (claimedTwice.take 3) none
        = .error (violation 2 "topicIndex" (.topicClaimed 1 0)) := by
  have hfew : claimedTwice.countP isTopic ≤ mostTopics := by decide
  have hrefused : resolve threeOwners fourOwners claimedTwice (some ";")
      = .error (violation 2 "topicIndex" (.topicClaimed 1 0)) := by
    rw [resolve_of_few rfl hfew, resolveFrom_claimedTwice]
    rfl
  obtain ⟨place, hplace, -, hbefore, hafter⟩ := (resolve_blames_first rfl hfew hrefused).1 2 rfl
  obtain rfl : place = 2 := by omega
  exact ⟨rfl, hfew, hrefused, hbefore, hafter 3 none (by decide)⟩

end Binding
end ReactiveContract
