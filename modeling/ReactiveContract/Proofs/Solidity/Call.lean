import ReactiveContract.Proofs.Solidity.Argument
import ReactiveContract.Proofs.Text.Blank
import ReactiveContract.Solidity.Fragment
/-! The arguments of a rendered call are its items exactly if each item is one argument. -/
namespace ReactiveContract.Solidity
open Expression Text

/-- The arguments after an opening text, without blanks around them. -/
def argumentsAfter (opening text : String) : Option (List String) :=
  if opening.toList.isPrefixOf text.toList then
    (readArguments .outside 0 (text.toList.drop opening.toList.length)).map fun (a, rest) =>
      (a :: rest).map fun cs => trim (String.ofList cs)
  else none

/-- The arguments of the encoding in a rendered emission. -/
def CallbackEmission.readBack (c : CallbackEmission) : Option (List String) :=
  argumentsAfter "bytes memory payload = abi.encodeWithSignature(" (joinLines c.render)

/-- The condition, then the message in quotes. -/
def Requirement.items (r : Requirement) : List String :=
  [r.condition, "\"" ++ r.message ++ "\""]

/-- The arguments of a rendered requirement. -/
def Requirement.readBack (r : Requirement) : Option (List String) :=
  argumentsAfter "require(" (joinLines r.render)

/-- Blanks leave a scan where it stands, except that they undo an escape. -/
theorem scanArgument_blank {mode : Mode} (hs : Sane mode) {level : Nat} {cs : List Char}
    (h : ∀ c ∈ cs, isBlank c = true) :
    scanArgument mode level cs = some (.outside, 0) ↔ mode = .outside ∧ level = 0 := by
  induction cs generalizing mode with
  | nil => simp [scanArgument]
  | cons c cs ih =>
    have hplain : c ∉ specials := notMem_specials (by decide) (h c (by simp))
    obtain ⟨hq, -, -, -, hescape⟩ := ne_of_notMem_specials hplain
    have hd : depthAfter mode level c = some level := depthAfter_plain hplain
    have hm : mode.next c = .outside ↔ mode = .outside := by
      cases mode with
      | outside => simp [Mode.next, hq]
      | quoted quote =>
        have hne : c ≠ quote := by
          intro hc
          rw [← hc] at hs
          exact absurd hs (by simp [Sane, hq])
        simp [Mode.next, hescape, hne]
      | escaped quote => simp [Mode.next]
    unfold scanArgument
    rw [hd]
    dsimp only
    rw [ih (hs.next c) fun d hd' => h d (by simp [hd']), hm]

/-- Blanks around an argument are no matter. -/
theorem scanArgument_padded {before after : List Char} (hb : ∀ c ∈ before, isBlank c = true)
    (ha : ∀ c ∈ after, isBlank c = true) (cs : List Char) :
    scanArgument .outside 0 (before ++ cs ++ after) = some (.outside, 0)
      ↔ scanArgument .outside 0 cs = some (.outside, 0) := by
  have hbefore : scanArgument .outside 0 before = some (.outside, 0) :=
    (scanArgument_blank sane_outside hb).mpr ⟨rfl, rfl⟩
  rw [List.append_assoc, scanArgument_append, hbefore, Option.bind_some, scanArgument_append]
  cases hcs : scanArgument .outside 0 cs with
  | none => simp
  | some place =>
    obtain ⟨mode, level⟩ := place
    have hs : Sane mode := by
      rw [← (scanArgument_eq_some.mp hcs).1]
      exact sane_outside.foldl cs
    rw [Option.bind_some, scanArgument_blank hs ha]
    simp

theorem isArgument_trim {text : String} : IsArgument (trim text) ↔ IsArgument text := by
  obtain ⟨before, after, heq, hb, ha⟩ := exists_trimming isBlank text.toList
  rw [isArgument_iff, isArgument_iff, trim, String.toList_ofList]
  conv_rhs => rw [heq]
  exact (scanArgument_padded hb ha _).symm

/-- Pieces with commas between them, up to the bracket that closes their list. -/
def listed : List (List Char) → List Char → List Char
  | [], rest => ')' :: rest
  | [x], rest => x ++ ')' :: rest
  | x :: y :: xs, rest => x ++ ',' :: listed (y :: xs) rest

private theorem listed_cons {xs : List (List Char)} (h : xs ≠ []) (x rest : List Char) :
    listed (x :: xs) rest = x ++ ',' :: listed xs rest := by
  cases xs with
  | nil => exact absurd rfl h
  | cons y xs => rfl

private theorem readArguments_listed {xs : List (List Char)} {rest : List Char} :
    ∀ {x : List Char}, (∀ y ∈ x :: xs, scanArgument .outside 0 y = some (.outside, 0)) →
      readArguments .outside 0 (listed (x :: xs) rest) = some (x, xs) := by
  induction xs with
  | nil =>
    intro x h
    exact readArguments_close (h x (by simp)) rest
  | cons y xs ih =>
    intro x h
    rw [listed, readArguments_comma (h x (by simp)), ih fun z hz => h z (by simp [hz])]
    rfl

/-- A piece that is an item with blanks around it. -/
def Padded (item : String) (piece : List Char) : Prop :=
  ∃ before after, piece = before ++ item.toList ++ after
    ∧ (∀ c ∈ before, isBlank c = true) ∧ ∀ c ∈ after, isBlank c = true

theorem Padded.isArgument_iff {item : String} {piece : List Char} (h : Padded item piece) :
    IsArgument item ↔ scanArgument .outside 0 piece = some (.outside, 0) := by
  obtain ⟨before, after, rfl, hb, ha⟩ := h
  rw [Solidity.isArgument_iff, scanArgument_padded hb ha]

private theorem Padded.trim_eq {item : String} {piece : List Char} (h : Padded item piece) :
    trim (String.ofList piece) = trim item := by
  obtain ⟨before, after, rfl, hb, ha⟩ := h
  unfold trim
  rw [String.toList_ofList, trimming_append_right ha, trimming_append_left hb]

private theorem map_trim_padded {items : List String} {pieces : List (List Char)}
    (h : List.Forall₂ Padded items pieces) :
    pieces.map (fun cs => trim (String.ofList cs)) = items.map trim := by
  induction h with
  | nil => rfl
  | cons hx _ ih => rw [List.map_cons, List.map_cons, hx.trim_eq, ih]

private theorem forall_isArgument_padded {items : List String} {pieces : List (List Char)}
    (h : List.Forall₂ Padded items pieces) :
    (∀ x ∈ items, IsArgument x)
      ↔ ∀ y ∈ pieces, scanArgument .outside 0 y = some (.outside, 0) := by
  induction h with
  | nil => simp
  | cons hx _ ih => rw [List.forall_mem_cons, List.forall_mem_cons, hx.isArgument_iff, ih]

theorem argumentsAfter_append {opening text : String} {cs : List Char}
    (h : text.toList = opening.toList ++ cs) :
    argumentsAfter opening text = (readArguments .outside 0 cs).map fun (a, rest) =>
      (a :: rest).map fun cs => trim (String.ofList cs) := by
  have hopen : opening.toList.isPrefixOf text.toList = true := by
    rw [h]
    exact List.isPrefixOf_iff_prefix.mpr (List.prefix_append _ _)
  unfold argumentsAfter
  rw [if_pos hopen, h, List.drop_left]

/-- A list of items that are padded is read as these items exactly if each is one argument. -/
theorem argumentsAfter_listed {opening text : String} {items : List String}
    {pieces : List (List Char)} {rest : List Char} (hne : items ≠ [])
    (htext : text.toList = opening.toList ++ listed pieces rest)
    (hp : List.Forall₂ Padded items pieces) :
    argumentsAfter opening text = some (items.map trim) ↔ ∀ x ∈ items, IsArgument x := by
  rw [argumentsAfter_append htext]
  constructor
  · intro h
    obtain ⟨⟨a, others⟩, hread, hitems⟩ := Option.map_eq_some_iff.mp h
    dsimp only at hitems
    -- Whatever is read was scanned as one argument, hence so is each item that it agrees with.
    obtain ⟨ha, hothers⟩ := scanArgument_of_readArguments hread
    have hall : ∀ y ∈ a :: others, IsArgument (trim (String.ofList y)) := by
      intro y hy
      rw [isArgument_trim, Solidity.isArgument_iff, String.toList_ofList]
      rcases List.mem_cons.mp hy with rfl | hy
      · exact ha
      · exact hothers y hy
    intro x hx
    have hmem : trim x ∈ (a :: others).map fun cs => trim (String.ofList cs) := by
      rw [hitems]
      exact List.mem_map_of_mem hx
    obtain ⟨y, hy, heq⟩ := List.mem_map.mp hmem
    have hx' := hall y hy
    rw [heq, isArgument_trim] at hx'
    exact hx'
  · intro h
    cases pieces with
    | nil =>
      cases hp
      exact absurd rfl hne
    | cons y ys =>
      rw [readArguments_listed ((forall_isArgument_padded hp).mp h), Option.map_some]
      exact congrArg some (map_trim_padded hp)

/-- The items of a call on lines of their own, from the break before the first one on. -/
def itemPieces : List String → List (List Char)
  | [] => []
  | [x] => ["\n    ".toList ++ x.toList ++ ['\n']]
  | x :: y :: xs => ("\n    ".toList ++ x.toList) :: itemPieces (y :: xs)

private theorem padded_itemPieces (items : List String) :
    List.Forall₂ Padded items (itemPieces items) := by
  have hline : ∀ c ∈ "\n    ".toList, isBlank c = true := List.all_eq_true.mp (by decide)
  have hbreak : ∀ c ∈ ['\n'], isBlank c = true := List.all_eq_true.mp (by decide)
  induction items with
  | nil => exact .nil
  | cons x items ih =>
    cases items with
    | nil => exact .cons ⟨_, ['\n'], rfl, hline, hbreak⟩ .nil
    | cons y items => exact .cons ⟨_, [], by simp, hline, by simp⟩ ih

theorem joinLines_cons {lines : List String} (h : lines ≠ []) (line : String) :
    (joinLines (line :: lines)).toList = line.toList ++ '\n' :: (joinLines lines).toList := by
  unfold joinLines
  rw [String.intercalate_cons_of_ne_nil h]
  simp

private theorem joinLines_items {items : List String} (hne : items ≠ []) (last : String) :
    '\n' :: (joinLines ((commaLines items).map (indentUnit ++ ·) ++ [");", last])).toList
      = listed (itemPieces items) (";\n".toList ++ last.toList) := by
  induction items with
  | nil => exact absurd rfl hne
  | cons x items ih =>
    cases items with
    | nil =>
      have hlast : (joinLines [last]).toList = last.toList := by simp [joinLines]
      simp only [commaLines, List.map_cons, List.map_nil, List.cons_append, List.nil_append,
        joinLines_cons (List.cons_ne_nil _ _), hlast, itemPieces, listed, String.toList_append,
        indentUnit, List.append_assoc]
      rfl
    | cons y items =>
      have h := ih (List.cons_ne_nil _ _)
      have hlines : (commaLines (y :: items)).map (indentUnit ++ ·) ++ [");", last] ≠ [] := by
        simp
      have hpieces : itemPieces (y :: items) ≠ [] := by
        cases items <;> exact List.cons_ne_nil _ _
      have hcomma : commaLines (x :: y :: items) = (x ++ ",") :: commaLines (y :: items) := rfl
      rw [hcomma, List.map_cons, List.cons_append, joinLines_cons hlines, h, itemPieces,
        listed_cons hpieces]
      simp only [String.toList_append, indentUnit, List.append_assoc]
      rfl

theorem CallbackEmission.toList_render (c : CallbackEmission) :
    ∃ rest, (joinLines c.render).toList
      = "bytes memory payload = abi.encodeWithSignature(".toList
        ++ listed (itemPieces c.items) rest := by
  have hne : c.items ≠ [] := List.cons_ne_nil _ _
  have hlines : (commaLines c.items).map (indentUnit ++ ·) ++ [");",
      "emit Callback(DESTINATION_CHAIN_ID, DESTINATION_CONTRACT, CALLBACK_GAS_LIMIT, payload);"]
      ≠ [] := by simp
  have htext := joinLines_cons hlines "bytes memory payload = abi.encodeWithSignature("
  rw [joinLines_items hne] at htext
  exact ⟨_, htext⟩

/-- The encoding is read back as its items exactly if each of them is one argument. -/
theorem CallbackEmission.readBack_eq_items (c : CallbackEmission) :
    c.readBack = some (c.items.map trim) ↔ ∀ x ∈ c.items, IsArgument x := by
  obtain ⟨rest, htext⟩ := c.toList_render
  exact argumentsAfter_listed (List.cons_ne_nil _ _) htext (padded_itemPieces c.items)

/-- The requirement is read back as its items exactly if both of them are arguments. -/
theorem Requirement.readBack_eq_items (r : Requirement) :
    r.readBack = some (r.items.map trim) ↔ ∀ x ∈ r.items, IsArgument x := by
  have htext : (joinLines r.render).toList = "require(".toList
      ++ listed [r.condition.toList, ' ' :: ("\"" ++ r.message ++ "\"").toList] [';'] := by
    have hrender : joinLines r.render
        = ("require(" ++ r.condition) ++ ", \"" ++ r.message ++ "\");" := by
      simp only [Requirement.render, joinLines, String.intercalate_singleton]
      rfl
    rw [hrender]
    simp only [String.toList_append, listed, List.append_assoc, List.cons_append]
    rfl
  have hp : List.Forall₂ Padded r.items
      [r.condition.toList, ' ' :: ("\"" ++ r.message ++ "\"").toList] := by
    have hblank : ∀ c ∈ [' '], isBlank c = true := List.all_eq_true.mp (by decide)
    refine .cons ⟨[], [], by simp, by simp, by simp⟩ (.cons ⟨[' '], [], ?_, hblank, ?_⟩ .nil) <;>
      simp
  exact argumentsAfter_listed (List.cons_ne_nil _ _) htext hp

end ReactiveContract.Solidity
