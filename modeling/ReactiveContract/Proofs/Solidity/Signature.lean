import ReactiveContract.Proofs.Contract.Plan
import ReactiveContract.Proofs.Solidity.Statement
/-! The parameters that a function declares, and which of them have a name. What stands in a block
comment is no name. -/
namespace ReactiveContract.Solidity
open Text

/-- Where a scan for block comments stands: outside of them, after a slash there, inside of one, or
after an asterisk there. -/
inductive CommentMode where
  | outside
  | slash
  | inside
  | asterisk
  deriving DecidableEq, Repr

namespace CommentMode

def next : CommentMode → Char → CommentMode
  | .outside, c => if c = '/' then .slash else .outside
  | .slash, c => if c = '*' then .inside else if c = '/' then .slash else .outside
  | .inside, c => if c = '*' then .asterisk else .inside
  | .asterisk, c => if c = '/' then .outside else if c = '*' then .asterisk else .inside

/-- What a character settles of the text outside of comments. A comment counts as a blank. -/
def kept : CommentMode → Char → List Char
  | .outside, c => if c = '/' then [] else [c]
  | .slash, c => if c = '*' then [' '] else if c = '/' then ['/'] else ['/', c]
  | .inside, _ | .asterisk, _ => []

end CommentMode

def uncommentedFrom : CommentMode → List Char → List Char
  | .slash, [] => ['/']
  | _, [] => []
  | mode, c :: cs => mode.kept c ++ uncommentedFrom (mode.next c) cs

/-- The text without its block comments. -/
def uncommented (text : String) : String :=
  String.ofList (uncommentedFrom .outside text.toList)

/-- Every comment in the text is closed, and no slash is left that could open one. -/
def Complete (text : String) : Prop := text.toList.foldl CommentMode.next .outside = .outside

instance : DecidablePred Complete := fun text =>
  inferInstanceAs (Decidable (text.toList.foldl CommentMode.next .outside = .outside))

def dataLocations : List String := ["calldata", "memory", "storage"]

/-- The name in the declaration of a parameter, which follows the type and the data location. -/
def parameterName? : List Token → Option String
  | [.word _, .word name] => if name ∈ dataLocations then none else some name
  | [.word _, .word location, .word name] => if location ∈ dataLocations then some name else none
  | _ => none

/-- The names in a list of parameters. -/
def parameterNames (text : String) : List String :=
  ((tokens (uncommented text)).splitOn comma).filterMap parameterName?

private theorem uncommentedFrom_append {mode : CommentMode} {cs : List Char}
    (h : cs.foldl CommentMode.next mode = .outside) (rest : List Char) :
    uncommentedFrom mode (cs ++ rest) = uncommentedFrom mode cs ++ uncommentedFrom .outside rest := by
  induction cs generalizing mode with
  | nil =>
    have hmode : mode = .outside := h
    rw [hmode]
    rfl
  | cons c cs ih =>
    have hrest := ih h
    simp only [List.cons_append, uncommentedFrom, hrest, List.append_assoc]

/-- Comments that are closed have no influence on what follows. -/
theorem uncommented_append {s : String} (h : Complete s) (t : String) :
    uncommented (s ++ t) = uncommented s ++ uncommented t := by
  unfold uncommented
  rw [String.toList_append, uncommentedFrom_append h, String.ofList_append]

theorem Complete.append {s t : String} (hs : Complete s) (ht : Complete t) : Complete (s ++ t) := by
  have hs' : s.toList.foldl CommentMode.next .outside = .outside := hs
  unfold Complete
  rw [String.toList_append, List.foldl_append, hs']
  exact ht

/-- Without a slash there is no comment. -/
private theorem uncommented_eq_self {s : String} (h : ∀ c ∈ s.toList, c ≠ '/') :
    Complete s ∧ uncommented s = s := by
  have hscan : s.toList.foldl CommentMode.next .outside = .outside
      ∧ uncommentedFrom .outside s.toList = s.toList := by
    generalize s.toList = cs at h
    induction cs with
    | nil => exact ⟨rfl, rfl⟩
    | cons c cs ih =>
      have hc : c ≠ '/' := h c (by simp)
      obtain ⟨hmode, hkept⟩ := ih fun d hd => h d (by simp [hd])
      constructor
      · simpa [CommentMode.next, hc] using hmode
      · simpa [uncommentedFrom, CommentMode.next, CommentMode.kept, hc] using hkept
  exact ⟨hscan.1, by rw [uncommented, hscan.2, String.ofList_toList]⟩

private theorem uncommented_indentation (level : Nat) :
    Complete (indentation level) ∧ uncommented (indentation level) = indentation level := by
  refine uncommented_eq_self fun c hc => ?_
  rw [eq_of_mem_indentation hc]
  decide

private theorem uncommented_joinLines {lines : List String} (h : ∀ line ∈ lines, Complete line) :
    uncommented (joinLines lines) = joinLines (lines.map uncommented) := by
  induction lines with
  | nil => rfl
  | cons line lines ih =>
    have hrest := ih fun l hl => h l (by simp [hl])
    by_cases hnil : lines = []
    · rw [hnil, joinLines, String.intercalate_singleton, List.map_singleton, joinLines,
        String.intercalate_singleton]
    · have hmap : lines.map uncommented ≠ [] := by simpa using hnil
      have hbreak : Complete (line ++ "\n") := (h line (by simp)).append (by decide)
      have hline : uncommented (line ++ "\n") = uncommented line ++ "\n" :=
        uncommented_append (h line (by simp)) "\n"
      unfold joinLines at hrest ⊢
      rw [List.map_cons, String.intercalate_cons_of_ne_nil hnil,
        String.intercalate_cons_of_ne_nil hmap, uncommented_append hbreak, hline, hrest]

/-- An indented line is read as the line itself. An empty line is not indented. -/
private theorem uncommented_indented {line : String} (hcomplete : Complete line)
    (hclosed : Closed (uncommented line)) (level : Nat) :
    Complete (if line = "" then "" else indentation level ++ line)
      ∧ Closed (uncommented (if line = "" then "" else indentation level ++ line))
      ∧ tokens (uncommented (if line = "" then "" else indentation level ++ line))
          = tokens (uncommented line) := by
  obtain ⟨hindentation, hkept⟩ := uncommented_indentation level
  by_cases hempty : line = ""
  · rw [if_pos hempty, ← hempty]
    exact ⟨hcomplete, hclosed, rfl⟩
  · rw [if_neg hempty, uncommented_append hindentation, hkept]
    exact ⟨hindentation.append hcomplete, closed_indentation hclosed level,
      tokens_indentation level _⟩

/-- Indented lines are read one by one. -/
private theorem tokens_uncommented_indent {lines : List String} (h : ∀ line ∈ lines, Complete line)
    (hclosed : ∀ line ∈ lines, Closed (uncommented line)) (level : Nat) :
    tokens (uncommented (joinLines (indent level lines)))
      = lines.flatMap fun line => tokens (uncommented line) := by
  have hline := fun line hl => uncommented_indented (h line hl) (hclosed line hl) level
  have hcomplete : ∀ line ∈ indent level lines, Complete line :=
    List.forall_mem_map.mpr fun line hl => (hline line hl).1
  have hread : ∀ line ∈ (indent level lines).map uncommented, Closed line := by
    rw [indent, List.map_map]
    exact List.forall_mem_map.mpr fun line hl => (hline line hl).2.1
  rw [uncommented_joinLines hcomplete, tokens_joinLines hread, indent, List.map_map,
    List.flatMap_map]
  exact List.flatMap_congr fun line hl => (hline line hl).2.2

/-- An item of a list of parameters. -/
structure IsParameter (text : String) : Prop where
  complete : Complete text
  closed : Closed (uncommented text)
  single : comma ∉ tokens (uncommented text)

instance : DecidablePred IsParameter := fun text =>
  decidable_of_iff (Complete text ∧ Closed (uncommented text) ∧ comma ∉ tokens (uncommented text))
    ⟨fun ⟨h, hc, hs⟩ => ⟨h, hc, hs⟩, fun ⟨h, hc, hs⟩ => ⟨h, hc, hs⟩⟩

private theorem map_uncommented_commaLines {items : List String}
    (h : ∀ item ∈ items, Complete item) :
    (commaLines items).map uncommented = commaLines (items.map uncommented)
      ∧ ∀ line ∈ commaLines items, Complete line := by
  induction items with
  | nil => simp [commaLines]
  | cons item items ih =>
    obtain ⟨hmap, hcomplete⟩ := ih fun i hi => h i (by simp [hi])
    have hitem : Complete item := h item (by simp)
    cases items with
    | nil => simpa [commaLines] using hitem
    | cons next items =>
      have hcomma : uncommented (item ++ ",") = uncommented item ++ "," := uncommented_append hitem ","
      constructor
      · rw [commaLines.eq_3 _ _ (List.cons_ne_nil _ _), List.map_cons, hcomma, hmap]
        rfl
      · rw [commaLines.eq_3 _ _ (List.cons_ne_nil _ _)]
        exact List.forall_mem_cons.mpr ⟨hitem.append (by decide), hcomplete⟩

/-- Parameters are read as they are listed, line by line. -/
private theorem parameterNames_lines {items : List String} (hne : items ≠ [])
    (h : ∀ item ∈ items, IsParameter item) (level : Nat) :
    parameterNames (joinLines (indent level (commaLines items)))
      = items.filterMap fun item => parameterName? (tokens (uncommented item)) := by
  obtain ⟨hmap, hcomplete⟩ := map_uncommented_commaLines fun item hi => (h item hi).complete
  have hitems : ∀ item ∈ items.map uncommented, Closed item :=
    List.forall_mem_map.mpr fun item hi => (h item hi).closed
  have hclosed : ∀ line ∈ commaLines items, Closed (uncommented line) := by
    intro line hline
    refine closed_commaLines hitems _ ?_
    rw [← hmap]
    exact List.mem_map_of_mem hline
  have htokens : (commaLines items).flatMap (fun line => tokens (uncommented line))
      = [comma].intercalate (items.map fun item => tokens (uncommented item)) := by
    have hread := tokens_commaLines hitems
    rwa [← hmap, List.flatMap_map, List.map_map, Function.comp_def] at hread
  have hsingle : ∀ ts ∈ items.map fun item => tokens (uncommented item), comma ∉ ts :=
    List.forall_mem_map.mpr fun item hi => (h item hi).single
  have hne' : (items.map fun item => tokens (uncommented item)) ≠ [] := by simpa using hne
  rw [parameterNames, tokens_uncommented_indent hcomplete hclosed, htokens,
    List.splitOn_intercalate comma hsingle hne', List.filterMap_map, Function.comp_def]

namespace ReactParameters

/-- The parameters of the reaction, with a name or with a comment in its place. -/
theorem isParameter_parameter : ∀ q ∈ all, ∀ p : ReactParameters,
    IsParameter (p.parameter q)
      ∧ parameterName? (tokens (uncommented (p.parameter q)))
          = if q.2 ∈ p.used then some q.2 else none := by
  have hnamed : ∀ q ∈ all, IsParameter s!"{q.1} {q.2}"
      ∧ parameterName? (tokens (uncommented s!"{q.1} {q.2}")) = some q.2 := by
    decide +kernel
  have hunnamed : ∀ q ∈ all, IsParameter s!"{q.1} /* {q.2} */"
      ∧ parameterName? (tokens (uncommented s!"{q.1} /* {q.2} */")) = none := by
    decide +kernel
  intro q hq p
  unfold parameter
  by_cases hused : q.2 ∈ p.used
  · simp only [if_pos hused]
    exact hnamed q hq
  · simp only [if_neg hused]
    exact hunnamed q hq

/-- The names in the list of parameters are those of the parameters that are used. -/
theorem parameterNames_render (p : ReactParameters) (level : Nat) :
    parameterNames (joinLines (indent level p.render)) = p.named := by
  have hall : ∀ item ∈ all.map p.parameter, IsParameter item :=
    List.forall_mem_map.mpr fun q hq => (isParameter_parameter q hq p).1
  have hread : ∀ q ∈ all, parameterName? (tokens (uncommented (p.parameter q)))
      = if q.2 ∈ p.used then some q.2 else none := fun q hq => (isParameter_parameter q hq p).2
  have hne : all.map p.parameter ≠ [] := List.cons_ne_nil _ _
  rw [render, parameterNames_lines hne hall, List.filterMap_map, Function.comp_def]
  calc all.filterMap (fun q => parameterName? (tokens (uncommented (p.parameter q))))
      = all.filterMap (fun q => if q.2 ∈ p.used then some q.2 else none) :=
        List.filterMap_congr hread
    _ = p.named := by
        rw [named, ← List.filterMap_eq_filter, List.filterMap_map]
        refine List.filterMap_congr fun q _ => ?_
        simp [Option.guard]

end ReactParameters
end ReactiveContract.Solidity
