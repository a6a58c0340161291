import ReactiveContract.Proofs.Solidity.Composition
/-! Lines and their indentation. Unindented lines divide a text into sections, and those of a
dispatch are its branches. -/
namespace ReactiveContract.Solidity
open Expression Text

/-- What stands between the line breaks of a text. -/
def linesOf (text : String) : List String :=
  (text.toList.splitOnP isLineBreak).map String.ofList

/-- An indented line without its first unit of indentation. -/
def dedent? (line : String) : Option String :=
  if indentUnit.toList <+: line.toList then
    some (String.ofList (line.toList.drop indentUnit.toList.length))
  else none

/-- The lines before the first unindented one, and each unindented line with the indented ones up
to the next. Indented lines lose one unit. -/
def layout : List String → List String × List (String × List String)
  | [] => ([], [])
  | line :: rest =>
    let (above, sections) := layout rest
    match dedent? line with
    | some inner => (inner :: above, sections)
    | none => ([], (line, above) :: sections)

theorem unbroken_of_isAlphanum {text : String} (h : ∀ c ∈ text.toList, c.isAlphanum = true) :
    Unbroken text :=
  unbroken_of_name fun c hc => by simp [isNameCharacter, h c hc]

theorem unbroken_of_isSingle {text : String} (h : isSingle text.toList = true) : Unbroken text :=
  fun _ => isLineBreak_of_isSingle h

theorem unbroken_intercalate {sep : String} {parts : List String} (hsep : Unbroken sep)
    (h : ∀ part ∈ parts, Unbroken part) : Unbroken (sep.intercalate parts) := by
  unfold Unbroken
  rw [String.toList_intercalate]
  exact forall_mem_intercalate hsep (List.forall_mem_map.mpr h)

theorem linesOf_append_break (s t : String) : linesOf (s ++ "\n" ++ t) = linesOf s ++ linesOf t := by
  have hbreak : "\n".toList = ['\n'] := rfl
  unfold linesOf
  rw [String.toList_append, String.toList_append, hbreak, List.append_assoc, List.singleton_append,
    List.splitOnP_append_cons _ _ rfl, List.map_append]

/-- The lines of joined texts are those of each of them. -/
theorem linesOf_joined {texts : List String} (hne : texts ≠ []) :
    linesOf (joinLines texts) = texts.flatMap linesOf := by
  induction texts with
  | nil => exact absurd rfl hne
  | cons text rest ih =>
    by_cases hnil : rest = []
    · rw [hnil, joinLines, String.intercalate_singleton, List.flatMap_singleton]
    · have hrest := ih hnil
      rw [joinLines] at hrest ⊢
      rw [String.intercalate_cons_of_ne_nil hnil, linesOf_append_break, hrest, List.flatMap_cons]

theorem Unbroken.linesOf_eq {line : String} (h : Unbroken line) : linesOf line = [line] := by
  rw [linesOf, List.splitOnP_eq_singleton h, List.map_singleton, String.ofList_toList]

/-- Lines without line breaks are found again once they are joined. -/
theorem linesOf_joinLines {lines : List String} (hne : lines ≠ [])
    (h : ∀ line ∈ lines, Unbroken line) : linesOf (joinLines lines) = lines := by
  calc linesOf (joinLines lines)
      = lines.flatMap linesOf := linesOf_joined hne
    _ = lines.flatMap fun line => [line] := List.flatMap_congr fun line hl => (h line hl).linesOf_eq
    _ = lines := List.flatMap_singleton' lines

private theorem dedent?_indented (line : String) : dedent? (indentUnit ++ line) = some line := by
  have hprefix : indentUnit.toList <+: (indentUnit ++ line).toList := by
    rw [String.toList_append]
    exact List.prefix_append _ _
  rw [dedent?, if_pos hprefix, String.toList_append, List.drop_left, String.ofList_toList]

/-- The unindented lines are those that the sections begin with. -/
theorem filter_unindented (lines : List String) :
    lines.filter (dedent? · = none) = (layout lines).2.map (·.1) := by
  induction lines with
  | nil => rfl
  | cons line rest ih =>
    rw [List.filter_cons, layout]
    cases dedent? line with
    | none => simpa using ih
    | some inner => simpa using ih

theorem layout_cons {head : String} (h : dedent? head = none) (rest : List String) :
    layout (head :: rest) = ([], (head, (layout rest).1) :: (layout rest).2) := by
  simp only [layout, h]

/-- Indented lines stand in the section that they are added to. -/
theorem layout_indented (lines rest : List String) :
    layout (lines.map (indentUnit ++ ·) ++ rest)
      = (lines ++ (layout rest).1, (layout rest).2) := by
  induction lines with
  | nil => rfl
  | cons line lines ih =>
    rw [List.map_cons, List.cons_append, layout, ih, dedent?_indented]
    rfl

private theorem indent_one {lines : List String} (h : ∀ line ∈ lines, line ≠ "") :
    indent 1 lines = lines.map (indentUnit ++ ·) :=
  List.map_congr_left fun line hline => if_neg (h line hline)

theorem append_ne_empty {s t : String} (ht : t ≠ "") : s ++ t ≠ "" :=
  fun h => ht (String.append_eq_empty_iff.mp h).2

namespace DataDecoding
variable {d : DataDecoding}

theorem ne_empty_of_mem_render : ∀ line ∈ d.render, line ≠ "" := by
  unfold render
  split <;> exact List.forall_mem_singleton.mpr (append_ne_empty (t := "));") (by decide))

end DataDecoding

namespace Statement

theorem ne_empty_of_mem_render (s : Statement) : ∀ line ∈ s.render, line ≠ "" := by
  cases s with
  | decode d => exact d.ne_empty_of_mem_render
  | require r => exact List.forall_mem_singleton.mpr (append_ne_empty (t := "\");") (by decide))
  | emit c =>
    intro line hline
    simp only [render, CallbackEmission.render, List.mem_append, List.mem_map, List.mem_cons,
      List.not_mem_nil, or_false] at hline
    rcases hline with (rfl | ⟨item, -, rfl⟩) | rfl | rfl <;> simp [indentUnit]

end Statement

private theorem dedent?_head (b : Branch) (first : Bool) : dedent? (b.head first) = none := by
  have hblank : ∀ c cs, (b.head first).toList = c :: cs → c ≠ ' ' := by
    intro c cs hhead
    have hfirst := congrArg List.head? hhead
    rw [Branch.head, String.toList_append, String.toList_append] at hfirst
    rintro rfl
    cases first <;> exact absurd (Option.some.inj hfirst) (by decide)
  have hunit : indentUnit.toList = [' ', ' ', ' ', ' '] := rfl
  refine if_neg fun hprefix => ?_
  rw [hunit] at hprefix
  obtain ⟨rest, hrest⟩ := hprefix
  exact hblank _ _ hrest.symm rfl

/-- The lines of the statements of a branch, which stand one level deep in it. -/
def Branch.inner (b : Branch) : List String := b.statements.flatMap Statement.render

theorem Branch.body_eq (b : Branch) : b.body = b.inner.map (indentUnit ++ ·) := by
  rw [inner, body, List.map_flatMap]
  exact List.flatMap_congr fun s _ => indent_one s.ne_empty_of_mem_render

namespace Dispatch

/-- What stands below the head of each branch but the first, and the closing brace. -/
private theorem layout_rest (rest : List Branch) :
    layout ((rest.flatMap fun b => b.head false :: b.body) ++ ["\x7d"])
      = ([], rest.map (fun b => (b.head false, b.inner)) ++ [("\x7d", [])]) := by
  induction rest with
  | nil => rfl
  | cons b rest ih =>
    rw [List.flatMap_cons, List.append_assoc, List.cons_append, layout_cons (dedent?_head b false),
      b.body_eq, layout_indented, ih, List.append_nil, List.map_cons, List.cons_append]

/-- The sections of a dispatch are its branches, and then the closing brace. -/
theorem layout_render {d : Dispatch} {b : Branch} {rest : List Branch}
    (h : d.branches = b :: rest) :
    layout d.render = ([], (b.head true, b.inner)
      :: rest.map (fun b => (b.head false, b.inner)) ++ [("\x7d", [])]) := by
  rw [render, h]
  dsimp only
  rw [List.cons_append, List.cons_append, List.append_assoc, layout_cons (dedent?_head b true),
    b.body_eq, layout_indented, layout_rest, List.append_nil, List.cons_append]

end Dispatch

end ReactiveContract.Solidity
