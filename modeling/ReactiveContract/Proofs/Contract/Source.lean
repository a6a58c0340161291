import ReactiveContract.Contract.Source
/-! Where the parts of a contract stand in its source. -/
namespace ReactiveContract
open Solidity

/-- The texts stand one after the other in another text, each on lines of its own. -/
def Within (texts : List String) (text : String) : Prop :=
  ∃ before after, text = joinLines (before ++ texts ++ after)

theorem joinLines_append {xs ys : List String} (hx : xs ≠ []) (hy : ys ≠ []) :
    joinLines (xs ++ ys) = joinLines xs ++ "\n" ++ joinLines ys :=
  String.intercalate_append_of_ne_nil hx hy

/-- Lines that were joined before are lines all the same. -/
theorem joinLines_joined {before lines after : List String} (h : lines ≠ []) :
    joinLines (before ++ [joinLines lines] ++ after) = joinLines (before ++ lines ++ after) := by
  have hsingle : joinLines [joinLines lines] = joinLines lines := String.intercalate_singleton
  have hbefore : joinLines (before ++ [joinLines lines]) = joinLines (before ++ lines) := by
    by_cases hb : before = []
    · rw [hb, List.nil_append, List.nil_append, hsingle]
    · rw [joinLines_append hb (List.cons_ne_nil _ _), joinLines_append hb h, hsingle]
  by_cases ha : after = []
  · rw [ha, List.append_nil, List.append_nil, hbefore]
  · have hne : before ++ [joinLines lines] ≠ [] := by simp
    have hne' : before ++ lines ≠ [] := by simp [h]
    rw [joinLines_append hne ha, joinLines_append hne' ha, hbefore]

theorem Within.trans {texts : List String} {t u : String} (hne : texts ≠ [])
    (h : Within texts t) (h' : Within [t] u) : Within texts u := by
  obtain ⟨before, after, rfl⟩ := h
  obtain ⟨first, last, rfl⟩ := h'
  refine ⟨first ++ before, after ++ last, ?_⟩
  rw [joinLines_joined (by simp [hne])]
  simp only [List.append_assoc]

namespace Plan

variable (p : Plan)

/-- The statements of the constructor. -/
def constructorText : String := joinLines (indent 2 p.constructorBody)

/-- The functions beside the reaction. -/
def functionTexts : List String := p.helperBlocks.map fun lines => joinLines (indent 1 lines)

/-- The lines before the constructor: the head of the contract and its constants. -/
def heading : List String := [
  s!"contract {p.contractName} is {p.baseContract} \x7b",
  s!"    uint256 private constant ORIGIN_CHAIN_ID = {p.originChainId};",
  s!"    uint256 private constant DESTINATION_CHAIN_ID = {p.destinationChainId};",
  joinLines (indent 1 (p.originConstants.map Constant.render)),
  s!"    address private constant DESTINATION_CONTRACT = {p.destination.text};",
  s!"    uint64 private constant CALLBACK_GAS_LIMIT = {p.callbackGasLimit};",
  "",
  joinLines (indent 1 (p.constants.map Constant.render)),
  ""]

def constructorLines : List String :=
  ["    constructor() \x7b", p.constructorText, "    \x7d"]

/-- The reaction, and the end of the contract. -/
def reaction : List String := [
  "    function react(",
  joinLines (indent 2 p.reactParameters.render),
  "    ) external override vmOnly \x7b",
  joinLines (indent 2 p.reactBody),
  "    \x7d",
  "\x7d",
  ""]

theorem contractText_eq :
    p.contractText = joinLines (p.heading ++ p.constructorLines
      ++ ["", "    receive() external payable \x7b\x7d", p.helpers] ++ p.reaction) := rfl

theorem within_render : Within [p.contractText] p.render := ⟨[preamble], [], rfl⟩

theorem head_within :
    Within ["contract " ++ p.contractName ++ (" is " ++ p.baseContract ++ " \x7b")] p.render := by
  refine Within.trans (List.cons_ne_nil _ _) ?_ p.within_render
  refine ⟨[], p.heading.tail ++ p.constructorLines
    ++ ["", "    receive() external payable \x7b\x7d", p.helpers] ++ p.reaction, ?_⟩
  rw [← String.append_assoc, ← String.append_assoc, contractText_eq]
  rfl

theorem constructor_within : Within p.constructorLines p.render := by
  refine Within.trans (List.cons_ne_nil _ _) ?_ p.within_render
  exact ⟨p.heading, ["", "    receive() external payable \x7b\x7d", p.helpers] ++ p.reaction, rfl⟩

private theorem helpers_within : Within [p.helpers] p.render := by
  refine Within.trans (List.cons_ne_nil _ _) ?_ p.within_render
  exact ⟨p.heading ++ p.constructorLines ++ ["", "    receive() external payable \x7b\x7d"],
    p.reaction, rfl⟩

theorem reaction_within : Within p.reaction p.render := by
  refine Within.trans (List.cons_ne_nil _ _) ?_ p.within_render
  refine ⟨p.heading ++ p.constructorLines
    ++ ["", "    receive() external payable \x7b\x7d", p.helpers], [], ?_⟩
  rw [List.append_nil, contractText_eq]

theorem within_blocks {text : String} {texts : List String} (h : text ∈ texts) :
    Within [text] ("\n\n".intercalate texts) := by
  induction texts with
  | nil => simp at h
  | cons first rest ih =>
    cases rest with
    | nil =>
      rw [List.mem_singleton.mp h]
      exact ⟨[], [], rfl⟩
    | cons next rest =>
      have hsplit : "\n\n".intercalate (first :: next :: rest)
          = joinLines [first, "", "\n\n".intercalate (next :: rest)] := by
        simp only [joinLines, String.intercalate_cons_cons, String.intercalate_singleton,
          String.append_assoc]
        rfl
      rw [hsplit]
      rcases List.mem_cons.mp h with rfl | h
      · exact ⟨[], ["", "\n\n".intercalate (next :: rest)], rfl⟩
      · exact (ih h).trans (List.cons_ne_nil _ _) ⟨[first, ""], [], rfl⟩

/-- Every function stands in the source. -/
theorem function_within {text : String} (h : text ∈ p.functionTexts) : Within [text] p.render := by
  have hne : p.helperBlocks ≠ [] := fun hnil => by simp [functionTexts, hnil] at h
  have hhelpers : p.helpers = joinLines ["", "\n\n".intercalate p.functionTexts, ""] := by
    unfold helpers functionTexts
    split
    · rename_i hnil
      exact absurd hnil hne
    · simp only [joinLines, String.intercalate_cons_cons, String.intercalate_singleton,
        String.append_assoc]
      simp
  refine (within_blocks h).trans (List.cons_ne_nil _ _) ?_
  refine Within.trans (t := p.helpers) (List.cons_ne_nil _ _) ?_ p.helpers_within
  exact ⟨[""], [""], hhelpers⟩

end Plan
end ReactiveContract
