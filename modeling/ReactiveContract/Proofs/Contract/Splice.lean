import ReactiveContract.Proofs.Contract.Source
import ReactiveContract.Proofs.Solidity.Splice
/-! Accepted expressions in the source of a contract: each stands there as it is, sealed off from
the rest of its line. -/
namespace ReactiveContract
open Solidity

theorem within_of_mem {text : String} {texts : List String} (h : text ∈ texts) :
    Within [text] (joinLines texts) := by
  obtain ⟨before, after, rfl⟩ := List.append_of_mem h
  exact ⟨before, after, by rw [List.append_assoc, List.singleton_append]⟩

theorem mem_indent {level : Nat} {line : String} {lines : List String} (h : line ∈ lines)
    (hne : line ≠ "") : indentation level ++ line ∈ indent level lines :=
  List.mem_map.mpr ⟨line, h, if_neg hne⟩

namespace Plan

private theorem reactBody_within (p : Plan) :
    Within [joinLines (indent 2 p.reactBody)] p.render := by
  obtain ⟨before, after, hrender⟩ := p.reaction_within
  refine ⟨before ++ p.reaction.take 3, p.reaction.drop 4 ++ after, ?_⟩
  rw [hrender]
  simp [reaction]

private theorem body_subset {d : Dispatch} {b : Branch} (h : b ∈ d.branches) :
    b.body ⊆ d.render := by
  intro line hline
  unfold Dispatch.render
  split
  case h_1 hnil => simp [hnil] at h
  case h_2 first rest hbranches =>
    rw [hbranches] at h
    rcases List.mem_cons.mp h with rfl | h
    · simp [hline]
    · have hrest : line ∈ rest.flatMap fun b => b.head false :: b.body :=
        List.mem_flatMap.mpr ⟨b, h, List.mem_cons_of_mem _ hline⟩
      simp [hrest]

/-- Every line of a statement stands in the source, three levels deep. -/
theorem line_within {p : Plan} {b : Branch} {s : Statement} {line : String}
    (hb : b ∈ p.dispatch.branches) (hs : s ∈ b.statements) (hline : line ∈ s.render)
    (hne : line ≠ "") : Within [indentation 3 ++ line] p.render := by
  have hbody : indentation 1 ++ line ∈ b.body :=
    List.mem_flatMap.mpr ⟨s, hs, mem_indent hline hne⟩
  have hreact : indentation 1 ++ line ∈ p.reactBody :=
    List.mem_append_right _ (body_subset hb hbody)
  have hlevels : indentation 3 ++ line = indentation 2 ++ (indentation 1 ++ line) := by
    rw [← String.append_assoc]
    rfl
  have hinner : indentation 1 ++ line ≠ "" := by simp [hne]
  rw [hlevels]
  exact (within_of_mem (mem_indent hreact hinner)).trans (List.cons_ne_nil _ _) p.reactBody_within

/-- An accepted expression stands as it is on each line that takes it in, and is sealed there; so
it is in the source of every contract that has the statement. -/
theorem accepted_sealed {text what v : String} (h : Expression.check text what = .ok v)
    {s : Statement} {n : Nat} {before after : String} (hs : Splices v s n before after) :
    s.render[n]? = some (before ++ v ++ after) ∧ Sealed before v after
      ∧ ∀ (p : Plan) (b : Branch), b ∈ p.dispatch.branches → s ∈ b.statements →
        Within [indentation 3 ++ before ++ v ++ after] p.render
          ∧ Sealed (indentation 3 ++ before) v after := by
  obtain ⟨⟨hne, hsingle⟩, rfl⟩ := Expression.check_eq_ok.mp h
  have hline := hs.getElem?_render
  have hsealed := hs.sealed hsingle
  have hunindented : indentation 0 ++ before = before := String.empty_append
  refine ⟨hline, hunindented ▸ hsealed 0, fun p b hb hstatement => ⟨?_, hsealed 3⟩⟩
  have hmem := List.mem_of_getElem? hline
  have hne' : before ++ Text.trim text ++ after ≠ "" := by simp [hne]
  have hwithin := line_within hb hstatement hmem hne'
  rwa [← String.append_assoc, ← String.append_assoc] at hwithin

/-- Slashes at both ends, a dollar sign, and a separator and a comment opener in quotes. -/
def slashes : String := "/$\"x;//\"/"

def slashesCall : CallbackEmission := ⟨"f(uint256,uint256)", [slashes, slashes]⟩

def slashesBranch : Branch :=
  ⟨"EVENT_0_TOPIC_0", [.require ⟨slashes, "No; //"⟩, .emit slashesCall]⟩

def slashesPlan : Plan := { (default : Plan) with dispatch := ⟨[slashesBranch]⟩ }

theorem slashes_sealed :
    Expression.check (" " ++ slashes) "condition" = .ok slashes
      ∧ Sealed "require(" slashes ", \"No; //\");"
      ∧ Within ["            require(/$\"x;//\"/, \"No; //\");"] slashesPlan.render
      ∧ Sealed indentUnit slashes "," ∧ Sealed indentUnit slashes ""
      ∧ Within ["                /$\"x;//\"/"] slashesPlan.render := by
  have h : Expression.check (" " ++ slashes) "condition" = .ok slashes := rfl
  obtain ⟨-, hcondition, hplan⟩ := accepted_sealed h (.condition "No; //")
  obtain ⟨hwithin, -⟩ := hplan slashesPlan slashesBranch (by simp [slashesPlan])
    (by simp [slashesBranch])
  obtain ⟨-, hfirst, -⟩ := accepted_sealed h (.argument (c := slashesCall) (i := 0) rfl)
  obtain ⟨-, hlast, hplan⟩ := accepted_sealed h (.argument (c := slashesCall) (i := 1) rfl)
  obtain ⟨hwithin', -⟩ := hplan slashesPlan slashesBranch (by simp [slashesPlan])
    (by simp [slashesBranch])
  exact ⟨h, hcondition, hwithin, hfirst, hlast, hwithin'⟩

end Plan
end ReactiveContract
