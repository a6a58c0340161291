import ReactiveContract.Proofs.Contract.Dispatch
import ReactiveContract.Proofs.Solidity.Call
/-! The call of a binding carries one argument for each input, provided that what the binding puts
into it is one argument each. -/
namespace ReactiveContract
open Abi Expression Solidity Text

namespace Solidity

/-- Characters that leave a scan where it stands, at every number of open brackets. -/
def Inert (cs : List Char) : Prop :=
  ∀ level, scanArgument .outside level cs = some (.outside, level)

theorem Inert.append {as bs : List Char} (ha : Inert as) (hb : Inert bs) : Inert (as ++ bs) := by
  intro level
  rw [scanArgument_append, ha level]
  exact hb level

theorem Inert.isArgument {text : String} (h : Inert text.toList) : IsArgument text :=
  isArgument_iff.mpr (h 0)

/-- Brackets around what is inert. -/
theorem Inert.enclose {as bs : List Char} (ha : Inert as) (hb : Inert bs) :
    Inert (as ++ '(' :: bs ++ [')']) := by
  intro level
  rw [List.append_assoc, scanArgument_append, ha level]
  change scanArgument .outside (level + 1) (bs ++ [')']) = _
  rw [scanArgument_append, hb (level + 1)]
  rfl

theorem inert_of_plain {cs : List Char} (h : cs.all (· ∉ specials) = true) : Inert cs := by
  intro level
  induction cs with
  | nil => rfl
  | cons c cs ih =>
    rw [List.all_cons, Bool.and_eq_true, decide_eq_true_eq] at h
    obtain ⟨hc, hcs⟩ := h
    have hnext : Mode.next .outside c = .outside := by
      simp [Mode.next, (ne_of_notMem_specials hc).1]
    unfold scanArgument
    rw [depthAfter_plain hc, hnext]
    exact ih hcs

private theorem inert_toString (n : Nat) : Inert (toString n).toList := by
  apply inert_of_plain
  rw [List.all_eq_true]
  intro c hc
  exact decide_eq_true (notMem_specials (by decide) (isDigit_of_mem_toString hc))

/-- A type name with a size, applied to what is inert. -/
theorem inert_sized {base argument : String} (hb : base.toList.all (· ∉ specials) = true) (n : Nat)
    (h : Inert argument.toList) :
    Inert ((((base ++ toString n) ++ "(") ++ argument) ++ ")").toList := by
  have hname : Inert (base.toList ++ (toString n).toList) :=
    (inert_of_plain hb).append (inert_toString n)
  have hcall := hname.enclose h
  simp only [String.toList_append, List.append_assoc] at hcall ⊢
  exact hcall

/-- A topic, whatever it is converted to, is one argument. -/
private theorem inert_render {index : Int} (hi : index = 1 ∨ index = 2 ∨ index = 3)
    (e : TopicExpr) :
    Inert (e.render index).toList := by
  induction e with
  | topic => rcases hi with rfl | rfl | rfl <;> exact inert_of_plain (by decide)
  | address e ih =>
    have hname : Inert "address".toList := inert_of_plain (by decide)
    have hcall := hname.enclose ih
    change Inert (("address(" ++ e.render index) ++ ")").toList
    simp only [String.toList_append, List.append_assoc]
    exact hcall
  | uint bits e ih => exact inert_sized (by decide) bits ih
  | int bits e ih => exact inert_sized (by decide) bits ih
  | bytes size e ih => exact inert_sized (by decide) size ih
  | nonzero e ih =>
    have htest : Inert " != 0".toList := inert_of_plain (by decide)
    change Inert (e.render index ++ " != 0").toList
    rw [String.toList_append]
    exact ih.append htest

private theorem inert_zero (t : ValueType) : Inert t.zero.toList := by
  have hnumber : Inert "0".toList := inert_of_plain (by decide)
  have hfalse : Inert "false".toList := inert_of_plain (by decide)
  cases t with
  | address => exact fun _ => rfl
  | bool suffix => exact hfalse
  | string => exact fun _ => rfl
  | bytes size =>
    cases size with
    | none => exact fun _ => rfl
    | some size =>
      have h : Inert (((("bytes" ++ toString size) ++ "(") ++ "0") ++ ")").toList :=
        inert_sized (by decide) size hnumber
      rw [String.append_assoc, String.append_assoc] at h
      exact h
  | uint bits => exact hnumber
  | int bits => exact hnumber

end Solidity

/-- What a source puts into a call as it stands is one argument. -/
def Source.IsArgument : Source → Prop
  | .fixed literal => Solidity.IsArgument literal
  | .data field => Solidity.IsArgument (Plan.localName field)
  | _ => True

namespace Plan

/-- The expression of an argument is one argument exactly if its source says so. -/
private theorem isArgument_argument {event : Event} {m : Mapping} {input : CalleeInput} {a : String}
    (hsettled : m.Settled event input) (ha : argument m = .ok a) :
    Solidity.IsArgument a ↔ m.source.IsArgument := by
  obtain ⟨htype, hs⟩ := hsettled
  unfold argument at ha
  cases hsource : m.source with
  | fixed literal =>
    simp only [hsource, Except.ok.injEq] at ha
    rw [ha, Source.IsArgument]
  | data field =>
    simp only [hsource, Except.ok.injEq] at ha
    rw [← ha, Source.IsArgument]
  | topic index =>
    rw [hsource] at hs
    simp only [hsource] at ha
    have harg : Solidity.IsArgument a := by
      unfold topicExpression at ha
      cases ht : ValueType.ofText m.type with
      | error fault => simp [ht] at ha
      | ok t =>
        cases he : t.topicExpr? with
        | none => simp [ht, he] at ha
        | some e =>
          simp only [ht, he, Except.ok.injEq] at ha
          rw [← ha]
          exact (inert_render hs.1 e).isArgument
    exact iff_of_true harg trivial
  | unbound zero =>
    rw [hsource] at hs
    obtain ⟨t, -, -, hzero⟩ := hs
    simp only [hsource, hzero, ne_eq, t.zero_ne_empty, not_false_eq_true, if_true,
      Except.ok.injEq] at ha
    rw [← ha]
    exact iff_of_true (inert_zero t).isArgument trivial

/-- The arguments of a call are single arguments exactly if the sources say so. -/
private theorem isArgument_arguments {event : Event} {mappings : List Mapping}
    {inputs : List CalleeInput} {args : List String}
    (hs : List.Forall₂ (Mapping.Settled event) mappings inputs)
    (ha : List.Forall₂ (fun m a => argument m = .ok a) mappings args) :
    (∀ a ∈ args, Solidity.IsArgument a) ↔ ∀ m ∈ mappings, m.source.IsArgument := by
  induction ha generalizing inputs with
  | nil => simp
  | cons ha _ ih =>
    cases hs with
    | cons hm hms =>
      rw [List.forall_mem_cons, List.forall_mem_cons, isArgument_argument hm ha, ih hms]

/-- A single expression may still be no argument or several. The call that a branch makes and its
guard carry the arguments that were put into them exactly if each of those is one by itself. -/
theorem branch_reads_back_iff {b : Binding} (h : b.Resolved) {index : Nat} {br : Branch}
    (hbr : branch index b = .ok br) :
    (∀ text what expression, Expression.check text what = .ok expression →
      (Solidity.IsArgument expression
        ↔ depth (bare .outside expression.toList) = 0
          ∧ (∀ p, p <+: bare .outside expression.toList → 0 ≤ depth p)
          ∧ ∀ p s, bare .outside expression.toList = p ++ ',' :: s → 0 < depth p))
      ∧ (∃ c, br.statements.getLast? = some (.emit c)
        ∧ c.items.length = 1 + b.callee.inputs.length
        ∧ (c.readBack = some (c.items.map trim)
          ↔ Solidity.IsArgument ("\"" ++ b.callee.signature ++ "\"")
            ∧ ∀ m ∈ b.mappings, m.source.IsArgument))
      ∧ ∀ condition, b.condition = some condition →
          ∃ r, .require r ∈ br.statements ∧ r.condition = condition ∧ r.items.length = 2
            ∧ (r.readBack = some (r.items.map trim) ↔ Solidity.IsArgument condition) := by
  obtain ⟨hlen, args, hargs, rfl⟩ := branch_eq_ok.mp hbr
  have hall := arguments_eq_ok.mp hargs
  refine ⟨?_, ⟨⟨b.callee.signature, args⟩, ?_, ?_, ?_⟩, ?_⟩
  · intro text what expression hcheck
    obtain ⟨⟨-, hsingle⟩, rfl⟩ := Expression.check_eq_ok.mp hcheck
    exact isArgument_of_isSingle hsingle
  · simp
  · rw [CallbackEmission.items, List.length_cons, ← hall.length_eq, hlen, Nat.add_comm]
  · rw [CallbackEmission.readBack_eq_items, CallbackEmission.items, List.forall_mem_cons,
      isArgument_arguments h.settled hall]
  · intro condition hcondition
    refine ⟨⟨condition, "Condition not met"⟩, ?_, rfl, rfl, ?_⟩
    · rw [guarding_eq h, hcondition]
      simp
    · have hmessage : Solidity.IsArgument "\"Condition not met\"" :=
        isArgument_iff.mpr (by decide)
      rw [Requirement.readBack_eq_items, Requirement.items, List.forall_mem_cons,
        List.forall_mem_singleton]
      exact and_iff_left hmessage

end Plan

theorem transferBranch_reads_back_iff :
    transferCredit.Resolved ∧ Plan.branch 0 transferCredit = .ok transferBranch
      ∧ ∃ c, transferBranch.statements.getLast? = some (.emit c)
        ∧ (c.readBack = some (c.items.map trim)
          ↔ Solidity.IsArgument ("\"" ++ transferCredit.callee.signature ++ "\"")
            ∧ ∀ m ∈ transferCredit.mappings, m.source.IsArgument) := by
  have h := Plan.branch_reads_back_iff transferCredit_resolved Plan.branch_transferCredit
  obtain ⟨-, ⟨c, hc, -, hread⟩, -⟩ := h
  exact ⟨transferCredit_resolved, Plan.branch_transferCredit, c, hc, hread⟩

/-- A credit of a fixed amount, whose literal is two arguments. -/
def splitCredit : Binding :=
  { transferCredit with
    mappings := [⟨"who", "address", .topic 1⟩, ⟨"amount", "uint256", .fixed "1, 2"⟩]
    condition := none }

def splitEmission : CallbackEmission :=
  ⟨"credit(address,uint256)", ["address(uint160(topic_1))", "1, 2"]⟩

private theorem splitCredit_resolved : splitCredit.Resolved := by
  refine ⟨transferEntry, creditEntry, _, _, splitCredit.mappings, none,
    event_ofEntry_transferEntry, callee_ofEntry_creditEntry, ?_⟩
  refine Binding.resolve_eq_ok.mpr ⟨⟨.cons ?_ (.cons ?_ .nil), by decide, by simp⟩, rfl⟩
  · exact ⟨⟨.address, ValueType.ofText?_address, rfl⟩, by decide, by decide, by decide, by decide,
      by decide⟩
  · exact ⟨⟨.uint 256, ValueType.ofText?_uint256, rfl⟩, by decide, by decide, by decide⟩

/-- The literal is accepted, although a comma stands in it, and the call that takes two arguments
beside the signature is rendered with three. -/
theorem splitCredit_arguments :
    Expression.check "1, 2" "fixed literal" = .ok "1, 2" ∧ ¬ Solidity.IsArgument "1, 2"
      ∧ splitCredit.Resolved ∧ splitCredit.callee.inputs.length = 2
      ∧ (∃ br, Plan.branch 0 splitCredit = .ok br
        ∧ br.statements.getLast? = some (.emit splitEmission))
      ∧ splitEmission.readBack
        = some ["\"credit(address,uint256)\"", "address(uint160(topic_1))", "1", "2"] := by
  refine ⟨rfl, ?_, splitCredit_resolved, rfl, ?_, ?_⟩
  · intro h
    have hscan := isArgument_iff.mp h
    revert hscan
    decide
  · refine ⟨_, Plan.branch_eq_ok.mpr ⟨rfl, splitEmission.arguments, ?_, rfl⟩, rfl⟩
    exact Plan.arguments_eq_ok.mpr (.cons topicExpression_address (.cons rfl .nil))
  · obtain ⟨rest, htext⟩ := splitEmission.toList_render
    rw [CallbackEmission.readBack, argumentsAfter_append htext]
    rfl

end ReactiveContract
