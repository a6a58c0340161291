import ReactiveContract.Proofs.Solidity.Splice
import ReactiveContract.Proofs.Solidity.Statement
/-! Texts that are put together from fixed ones, numerals and names, and from given ones. The fixed
texts have no line breaks, and of what the language declares for every source they mention only
little. -/
namespace ReactiveContract.Solidity
open Expression Text

/-- A text without line breaks. -/
def Unbroken (text : String) : Prop := ∀ c ∈ text.toList, isLineBreak c = false

instance : DecidablePred Unbroken := fun text =>
  decidable_of_iff (text.toList.all (!isLineBreak ·) = true) <| by
    simp [Unbroken, List.all_eq_true]

/-- The name stands in the text, and no longer name around it. -/
def Mentions (text name : String) : Prop :=
  name.toList ∈ text.toList.splitOnP (!isNameCharacter ·)

instance (text name : String) : Decidable (Mentions text name) :=
  inferInstanceAs (Decidable (name.toList ∈ text.toList.splitOnP (!isNameCharacter ·)))

/-- Functions and objects that the language declares for every source: those that the library and
the frame of every contract use. -/
def usedBuiltins : List String := ["abi", "msg", "require", "this"]

/-- All other functions and objects that the language declares. -/
def otherBuiltins : List String := [
  "addmod", "assert", "blobhash", "block", "blockhash", "ecrecover", "gasleft", "keccak256",
  "mulmod", "revert", "ripemd160", "selfdestruct", "sha256", "super", "tx", "type"]

/-- One line at most, and no mention of the other builtins. -/
structure Plain (text : String) : Prop where
  unbroken : Unbroken text
  silent : ∀ w ∈ otherBuiltins, ¬ Mentions text w

/-- A text that does not run into what is around it, and keeps that apart. -/
structure Separates (text : String) : Prop where
  nonempty : text ≠ ""
  begins : BeginsApart text
  ends : EndsApart text

theorem separates_break : Separates "\n" := ⟨by decide, by decide, by decide⟩

/-- A plain text that does not run into what follows it. -/
structure Opener (text : String) : Prop where
  plain : Plain text
  ends : EndsApart text

structure Spacer (text : String) : Prop extends Separates text where
  plain : Plain text

/-- A text that is put together from plain texts and given ones, which do not run into each
other. -/
inductive Composed (Given : String → Prop) : String → Prop
  | plain {s : String} (h : Plain s) : Composed Given s
  | given {s : String} (h : Given s) : Composed Given s
  | append {s t : String} (hs : Composed Given s) (ht : Composed Given t) (h : Apart s t) :
    Composed Given (s ++ t)

theorem Unbroken.append {s t : String} (hs : Unbroken s) (ht : Unbroken t) : Unbroken (s ++ t) := by
  intro c hc
  rw [String.toList_append] at hc
  rcases List.mem_append.mp hc with hc | hc
  · exact hs c hc
  · exact ht c hc

/-- A name stands in one of two texts that do not run into each other. -/
theorem mentions_append {s t name : String} (hname : name ≠ "") (h : Apart s t) :
    Mentions (s ++ t) name ↔ Mentions s name ∨ Mentions t name := by
  have hne : name.toList ≠ [] := fun hnil => hname (String.toList_eq_nil_iff.mp hnil)
  unfold Mentions
  rw [String.toList_append]
  rcases h with h | h
  · rcases List.eq_nil_or_concat s.toList with hnil | ⟨cs, c, hcs⟩
    · simp [hnil, hne]
    · have hc : isNameCharacter c = false := h c (by simp [hcs])
      rw [hcs, List.concat_eq_append, List.append_assoc, List.singleton_append,
        List.splitOnP_append_cons _ _ (by simp [hc]), List.splitOnP_append_cons _ _ (by simp [hc])]
      simp [hne]
  · cases ht : t.toList with
    | nil => simp [hne]
    | cons c cs =>
      have hc : isNameCharacter c = false := h c (by simp [ht])
      have hcs : (c :: cs).splitOnP (!isNameCharacter ·)
          = [] :: cs.splitOnP (!isNameCharacter ·) :=
        List.splitOnP_append_cons [] cs (by simp [hc])
      rw [List.splitOnP_append_cons _ _ (by simp [hc]), hcs]
      simp [hne]

/-- A name is all that it mentions. -/
theorem IsWord.mentions_iff {s name : String} (h : IsWord s) : Mentions s name ↔ name = s := by
  have hsplit : s.toList.splitOnP (!isNameCharacter ·) = [s.toList] :=
    List.splitOnP_eq_singleton fun c hc => by simp [h.2 c hc]
  rw [Mentions, hsplit, List.mem_singleton, String.toList_inj]

/-- The fixed texts between others, or before or after them. -/
def spacers : List String := [
  indentUnit, " ", ",", ", ", ";", "(", ")", "(0)", " = ", "\"", ", \"", "\");", " memory ",
  " private constant ", " = abi.decode(data, (", ") = abi.decode(data, (", "));", ") \x7b",
  ",) = address(service).call(", "[", "] = Subscription(", "[](", ");", "|| addr == ", " /* ",
  " */"]

/-- The fixed texts that others follow. -/
def openers : List String := [
  "-", "address(", "require(", "if (", "\x7d else if (", "topic_0 == ", "(bool ", "owner = ",
  "subscription_failed = subscription_failed || !", "return addr == ",
  "isApplicableAddress(", "pragma solidity "]

/-- The fixed texts of whole lines, or of parts of them. -/
def fixedTexts : List String := [
  "", "0", "\"\"", "\x7d", ")", ");", " != 0", "None", "false", "topic_", "_contract", "result",
  "return result;", "address(0)", "address", "uint256", "uint64", "ORIGIN_CHAIN_ID",
  "DESTINATION_CHAIN_ID", "ORIGIN_CONTRACT", "DESTINATION_CONTRACT", "CALLBACK_GAS_LIMIT", anyTopic,
  "abi.encodeWithSignature(", "bytes memory payload = abi.encodeWithSignature(", subscribeSignature,
  "Subscription[] memory result = new Subscription", "Condition not met", "Address not allowed",
  "paused = false;", "bool subscription_failed = false;", "vm = subscription_failed;",
  "    constructor() \x7b", "    \x7d", "    receive() external payable \x7b\x7d",
  "    function react(", "    ) external override vmOnly \x7b", ">=0.8.0"]

/-- The longer ones. -/
def longTexts : List String := [
  "emit Callback(DESTINATION_CHAIN_ID, DESTINATION_CONTRACT, CALLBACK_GAS_LIMIT, payload);",
  "function getPausableSubscriptions() internal pure override returns (Subscription[] memory) \x7b",
  "function isApplicableAddress(address addr) private pure returns (bool) \x7b",
  "// SPDX-License-Identifier: GPL-2.0-or-later"]

/-- What the names with numbers begin with, and the numerals of addresses. -/
def nameStems : List String := [
  "0x", "uint", "int", "bytes", "topic_", "EVENT_", "subscribed_", "APPLICABLE_ADDRESS_",
  "ORIGIN_CONTRACT"]

/-- No mention of the other builtins, by the characters of a text. -/
def isSilent (cs : List Char) : Bool :=
  (cs.splitOnP (!isNameCharacter ·)).all fun run => !otherBuiltins.contains (String.ofList run)

/-- A plain text by its characters. -/
def isPlain (cs : List Char) : Bool := cs.all (!isLineBreak ·) && isSilent cs

/-- An opener by its characters. -/
def isOpener (cs : List Char) : Bool := isPlain cs && cs.getLast?.all (!isNameCharacter ·)

/-- A spacer by its characters. -/
def isSpacer (cs : List Char) : Bool :=
  isOpener cs && cs ≠ [] && cs.head?.all (!isNameCharacter ·)

theorem isSilent_iff {s : String} :
    isSilent s.toList = true ↔ ∀ w ∈ otherBuiltins, ¬ Mentions s w := by
  unfold isSilent
  rw [List.all_eq_true]
  simp only [Bool.not_eq_true', List.contains_eq_mem, decide_eq_false_iff_not]
  constructor
  · intro h w hw hmentions
    refine h _ hmentions ?_
    rwa [String.ofList_toList]
  · intro h run hrun hmem
    refine h _ hmem ?_
    rwa [Mentions, String.toList_ofList]

theorem plain_iff {s : String} : Plain s ↔ isPlain s.toList = true := by
  rw [isPlain, Bool.and_eq_true, isSilent_iff, List.all_eq_true]
  simp only [Bool.not_eq_true']
  exact ⟨fun h => ⟨h.unbroken, h.silent⟩, fun h => ⟨h.1, h.2⟩⟩

theorem opener_iff {s : String} : Opener s ↔ isOpener s.toList = true := by
  rw [isOpener, Bool.and_eq_true, ← plain_iff, Option.all_eq_true]
  simp only [Bool.not_eq_true']
  exact ⟨fun h => ⟨h.plain, h.ends⟩, fun h => ⟨h.1, h.2⟩⟩

theorem spacer_iff {s : String} : Spacer s ↔ isSpacer s.toList = true := by
  rw [isSpacer, Bool.and_eq_true, Bool.and_eq_true, ← opener_iff, Option.all_eq_true,
    decide_eq_true_eq, ne_eq, String.toList_eq_nil_iff]
  simp only [Bool.not_eq_true']
  exact ⟨fun h => ⟨⟨⟨h.plain, h.ends⟩, h.nonempty⟩, h.begins⟩,
    fun h => ⟨⟨h.1.2, h.2, h.1.1.ends⟩, h.1.1.plain⟩⟩

theorem Spacer.toOpener {s : String} (h : Spacer s) : Opener s := ⟨h.plain, h.ends⟩

theorem fixed_shapes : (∀ s ∈ spacers, Spacer s) ∧ (∀ s ∈ openers, Opener s)
    ∧ ∀ s ∈ fixedTexts, Plain s := by
  simp only [spacer_iff, opener_iff, plain_iff]
  decide +kernel

theorem spacer_of_mem {s : String} (h : s ∈ spacers) : Spacer s := fixed_shapes.1 s h

theorem opener_of_mem {s : String} (h : s ∈ openers) : Opener s := fixed_shapes.2.1 s h

theorem plain_of_mem {s : String} (h : s ∈ fixedTexts) : Plain s := fixed_shapes.2.2 s h

-- The characters of longer texts are given by unification: they are costly to compute.
theorem plain_of_chars {s : String} {cs : List Char} (hs : s = String.ofList cs)
    (h : isPlain cs = true) : Plain s := by
  rwa [plain_iff, hs, String.toList_ofList]

private theorem plain_longTexts : ∀ s ∈ longTexts, Plain s := by
  simp only [longTexts, List.forall_mem_cons, List.not_mem_nil, false_implies, implies_true,
    and_true]
  exact ⟨plain_of_chars rfl (by decide +kernel), plain_of_chars rfl (by decide +kernel),
    plain_of_chars rfl (by decide +kernel), plain_of_chars rfl (by decide +kernel)⟩

/-- The other builtins are words that do not begin as the generated names do. -/
theorem builtin_shape : ∀ w ∈ otherBuiltins,
    IsWord w ∧ w.toList.all Char.isDigit = false
      ∧ ∀ stem ∈ nameStems, ¬ stem.toList <+: w.toList := by
  decide +kernel

theorem unbroken_of_name {s : String} (h : ∀ c ∈ s.toList, isNameCharacter c = true) :
    Unbroken s := by
  intro c hc
  by_contra hb
  rw [Bool.not_eq_false, isLineBreak, Bool.or_eq_true, decide_eq_true_eq, decide_eq_true_eq] at hb
  rcases hb with rfl | rfl <;> exact absurd (h _ hc) (by decide)

theorem plain_of_stem {stem s : String} (hs : IsWord (stem ++ s)) (h : stem ∈ nameStems) :
    Plain (stem ++ s) := by
  refine ⟨unbroken_of_name hs.2, fun w hw hmentions => ?_⟩
  obtain ⟨-, -, hstems⟩ := builtin_shape w hw
  refine hstems stem h ?_
  rw [hs.mentions_iff.mp hmentions, String.toList_append]
  exact List.prefix_append _ _

theorem plain_toString (n : Nat) : Plain (toString n) := by
  have hword := isWord_toString n
  refine ⟨unbroken_of_name hword.2, fun w hw hmentions => ?_⟩
  obtain ⟨-, hletter, -⟩ := builtin_shape w hw
  rw [hword.mentions_iff.mp hmentions,
    List.all_eq_true.mpr fun _ => isDigit_of_mem_toString] at hletter
  cases hletter

namespace Composed
variable {Given : String → Prop} {s t u : String}

theorem fixed (h : s ∈ fixedTexts) : Composed Given s := .plain (plain_of_mem h)

theorem long (h : s ∈ longTexts) : Composed Given s := .plain (plain_longTexts s h)

theorem empty : Composed Given "" := .fixed (by simp [fixedTexts])

theorem opened (ht : Opener t) (hu : Composed Given u) : Composed Given (t ++ u) :=
  append (.plain ht.plain) hu (.inl ht.ends)

theorem closed (hs : Composed Given s) (ht : Spacer t) : Composed Given (s ++ t) :=
  hs.append (.plain ht.plain) (.inr ht.begins)

theorem separated (hs : Composed Given s) (ht : Composed Given t) (hsep : Separates t)
    (hu : Composed Given u) : Composed Given (s ++ t ++ u) := by
  refine (hs.append ht (.inr hsep.begins)).append hu (.inl fun c hc => hsep.ends c ?_)
  have hne : t.toList ≠ [] := fun hnil => hsep.nonempty (String.toList_eq_nil_iff.mp hnil)
  rwa [String.toList_append, List.getLast?_append_of_ne_nil _ hne] at hc

theorem between (hs : Composed Given s) (ht : Spacer t) (hu : Composed Given u) :
    Composed Given (s ++ t ++ u) :=
  hs.separated (.plain ht.plain) ht.toSeparates hu

theorem intercalate (ht : Composed Given t) (hsep : Separates t) {parts : List String}
    (h : ∀ part ∈ parts, Composed Given part) : Composed Given (t.intercalate parts) := by
  induction parts with
  | nil => exact .empty
  | cons part parts ih =>
    have hpart := h part (by simp)
    have hrest := ih fun other ho => h other (by simp [ho])
    by_cases hnil : parts = []
    · rwa [hnil, String.intercalate_singleton]
    · rw [String.intercalate_cons_of_ne_nil hnil]
      exact hpart.separated ht hsep hrest

theorem listed {parts : List String} (h : ∀ part ∈ parts, Composed Given part) :
    Composed Given (", ".intercalate parts) := by
  have hcomma : Spacer ", " := spacer_of_mem (by simp [spacers])
  exact intercalate (.plain hcomma.plain) hcomma.toSeparates h

theorem lines (hbreak : Composed Given "\n") {parts : List String}
    (h : ∀ part ∈ parts, Composed Given part) : Composed Given ("\n".intercalate parts) :=
  intercalate hbreak separates_break h

theorem blocks (hbreak : Composed Given "\n") {parts : List String}
    (h : ∀ part ∈ parts, Composed Given part) : Composed Given ("\n\n".intercalate parts) :=
  intercalate (hbreak.append hbreak (.inr separates_break.begins))
    ⟨by decide, by decide, by decide⟩ h

/-- Without line breaks in what is given, there are none. -/
theorem unbroken (h : Composed Unbroken s) : Unbroken s := by
  induction h with
  | plain h => exact h.unbroken
  | given h => exact h
  | append _ _ _ ihs iht => exact ihs.append iht

/-- Another builtin is mentioned in what is given. -/
theorem mentions {w : String} (h : Composed Given s) (hw : w ∈ otherBuiltins)
    (hs : Mentions s w) : ∃ text, Given text ∧ Mentions text w := by
  have hne : w ≠ "" := (builtin_shape w hw).1.1
  induction h with
  | plain h => exact absurd hs (h.silent w hw)
  | given h => exact ⟨_, h, hs⟩
  | append _ _ h ihs iht =>
    rcases (mentions_append hne h).mp hs with hs | hs
    · exact ihs hs
    · exact iht hs

end Composed

section Fragments
variable {Given : String → Prop}

theorem composed_indentation (level : Nat) {line : String} (h : Composed Given line) :
    Composed Given (indentation level ++ line) := by
  induction level with
  | zero =>
    have hnone : indentation 0 ++ line = line := String.empty_append
    rwa [hnone]
  | succ level ih =>
    have hunit : Spacer indentUnit := spacer_of_mem (by simp [spacers])
    have hlevel : indentation (level + 1) ++ line = indentUnit ++ (indentation level ++ line) := by
      rw [← String.append_assoc, indentation, List.replicate_succ, String.join_cons]
      rfl
    rw [hlevel]
    exact ih.opened hunit.toOpener

theorem composed_indent {lines : List String} (h : ∀ line ∈ lines, Composed Given line)
    (level : Nat) : ∀ line ∈ indent level lines, Composed Given line := by
  refine List.forall_mem_map.mpr fun line hline => ?_
  split
  · exact .empty
  · exact composed_indentation level (h line hline)

private theorem mem_commaLines {items : List String} {line : String} (h : line ∈ commaLines items) :
    ∃ item ∈ items, line = item ∨ line = item ++ "," := by
  induction items with
  | nil => simp [commaLines] at h
  | cons item items ih =>
    cases items with
    | nil => exact ⟨item, List.mem_cons_self, .inl (by simpa [commaLines] using h)⟩
    | cons next items =>
      rw [commaLines.eq_3 _ _ (List.cons_ne_nil _ _)] at h
      rcases List.mem_cons.mp h with rfl | h
      · exact ⟨item, List.mem_cons_self, .inr rfl⟩
      · obtain ⟨other, hother, hline⟩ := ih h
        exact ⟨other, List.mem_cons_of_mem _ hother, hline⟩

theorem composed_commaLines {items : List String} (h : ∀ item ∈ items, Composed Given item) :
    ∀ line ∈ commaLines items, Composed Given line := by
  intro line hline
  have hcomma : Spacer "," := spacer_of_mem (by simp [spacers])
  obtain ⟨item, hitem, rfl | rfl⟩ := mem_commaLines hline
  · exact h _ hitem
  · exact (h _ hitem).closed hcomma

theorem composed_localDeclaration {type name : String} (htype : Composed Given type)
    (hname : Composed Given name) : Composed Given (localDeclaration type name) := by
  have hspace : Spacer " " := spacer_of_mem (by simp [spacers])
  have hmemory : Spacer " memory " := spacer_of_mem (by simp [spacers])
  unfold localDeclaration
  split
  · have hjoin : type ++ " memory" ++ " " = type ++ " memory " := String.append_assoc
    rw [hjoin]
    exact htype.between hmemory hname
  · rw [String.append_empty]
    exact htype.between hspace hname

theorem Constant.composed_render {c : Constant} (htype : Composed Given c.type)
    (hname : Composed Given c.name) (hvalue : Composed Given c.value) :
    Composed Given c.render := by
  have hvisibility : Spacer " private constant " := spacer_of_mem (by simp [spacers])
  have hequals : Spacer " = " := spacer_of_mem (by simp [spacers])
  have hend : Spacer ";" := spacer_of_mem (by simp [spacers])
  exact ((htype.between hvisibility hname).between hequals hvalue).closed hend

theorem Requirement.composed_render {r : Requirement} (hcondition : Composed Given r.condition)
    (hmessage : Composed Given r.message) : ∀ line ∈ r.render, Composed Given line := by
  have hopening : Opener "require(" := opener_of_mem (by simp [openers])
  have hquote : Spacer ", \"" := spacer_of_mem (by simp [spacers])
  have hend : Spacer "\");" := spacer_of_mem (by simp [spacers])
  exact List.forall_mem_singleton.mpr
    (((hcondition.opened hopening).between hquote hmessage).closed hend)

theorem CallbackEmission.composed_render {c : CallbackEmission}
    (hsignature : Composed Given c.signature) (harguments : ∀ a ∈ c.arguments, Composed Given a) :
    ∀ line ∈ c.render, Composed Given line := by
  have hquote : Spacer "\"" := spacer_of_mem (by simp [spacers])
  have hunit : Spacer indentUnit := spacer_of_mem (by simp [spacers])
  have hitems : ∀ item ∈ c.items, Composed Given item :=
    List.forall_mem_cons.mpr ⟨(hsignature.opened hquote.toOpener).closed hquote, harguments⟩
  refine List.forall_mem_append.mpr ⟨List.forall_mem_append.mpr ⟨?_, ?_⟩, ?_⟩
  · exact List.forall_mem_singleton.mpr (.fixed (by simp [fixedTexts]))
  · exact List.forall_mem_map.mpr fun line hline =>
      (composed_commaLines hitems line hline).opened hunit.toOpener
  · exact List.forall_mem_cons.mpr ⟨.fixed (by simp [fixedTexts]),
      List.forall_mem_singleton.mpr (.long (by simp [longTexts]))⟩

theorem DataDecoding.composed_render {d : DataDecoding}
    (h : ∀ f ∈ d.fields, Composed Given f.1 ∧ ∀ name ∈ f.2, Composed Given name) :
    ∀ line ∈ d.render, Composed Given line := by
  have hopening : Spacer "(" := spacer_of_mem (by simp [spacers])
  have hsingle : Spacer " = abi.decode(data, (" := spacer_of_mem (by simp [spacers])
  have hseveral : Spacer ") = abi.decode(data, (" := spacer_of_mem (by simp [spacers])
  have hend : Spacer "));" := spacer_of_mem (by simp [spacers])
  have htypes : Composed Given (", ".intercalate (d.fields.map (·.1))) :=
    Composed.listed (List.forall_mem_map.mpr fun f hf => (h f hf).1)
  unfold render
  split
  case h_1 type name hfields =>
    rw [hfields] at h
    obtain ⟨htype, hname⟩ := h _ List.mem_cons_self
    have hdeclared : Composed Given (localDeclaration type (name.getD "None")) := by
      refine composed_localDeclaration htype ?_
      cases name with
      | none => exact .fixed (by simp [fixedTexts])
      | some name => exact hname name rfl
    exact List.forall_mem_singleton.mpr ((hdeclared.between hsingle htypes).closed hend)
  case h_2 =>
    have hcomponents : ∀ part ∈ d.fields.map component, Composed Given part := by
      refine List.forall_mem_map.mpr fun ⟨type, name⟩ hf => ?_
      obtain ⟨htype, hname⟩ := h _ hf
      cases name with
      | none => exact .empty
      | some name =>
        unfold component
        dsimp only
        split
        · exact .empty
        · exact composed_localDeclaration htype (hname name rfl)
    have hdeclared := (Composed.listed hcomponents).opened hopening.toOpener
    exact List.forall_mem_singleton.mpr ((hdeclared.between hseveral htypes).closed hend)

/-- The texts that a statement takes in. -/
def Statement.texts : Statement → List String
  | .decode d => d.fields.flatMap fun f => f.1 :: f.2.toList
  | .require r => [r.condition, r.message]
  | .emit c => c.signature :: c.arguments

theorem Statement.composed_render {s : Statement} (h : ∀ text ∈ s.texts, Composed Given text) :
    ∀ line ∈ s.render, Composed Given line := by
  cases s with
  | decode d =>
    refine d.composed_render fun f hf => ?_
    have hfield := (List.forall_mem_flatMap.mp h) f hf
    obtain ⟨htype, hname⟩ := List.forall_mem_cons.mp hfield
    exact ⟨htype, fun name hn => hname name (Option.mem_toList.mpr hn)⟩
  | require r =>
    obtain ⟨hcondition, hmessage⟩ := List.forall_mem_cons.mp h
    exact r.composed_render hcondition (hmessage _ List.mem_cons_self)
  | emit c =>
    obtain ⟨hsignature, harguments⟩ := List.forall_mem_cons.mp h
    exact c.composed_render hsignature harguments

private theorem Branch.composed_head {b : Branch} (h : Composed Given b.topicConstant)
    (first : Bool) :
    Composed Given (b.head first) := by
  have hfirst : Opener "if (" := opener_of_mem (by simp [openers])
  have hlater : Opener "\x7d else if (" := opener_of_mem (by simp [openers])
  have htest : Opener "topic_0 == " := opener_of_mem (by simp [openers])
  have hend : Spacer ") \x7b" := spacer_of_mem (by simp [spacers])
  have hcondition : Composed Given b.condition := h.opened htest
  cases first with
  | true => exact (hcondition.opened hfirst).closed hend
  | false => exact (hcondition.opened hlater).closed hend

theorem Dispatch.composed_render {d : Dispatch}
    (h : ∀ b ∈ d.branches, Composed Given b.topicConstant
      ∧ ∀ s ∈ b.statements, ∀ text ∈ s.texts, Composed Given text) :
    ∀ line ∈ d.render, Composed Given line := by
  have hbranch : ∀ b ∈ d.branches, ∀ first, ∀ line ∈ b.head first :: b.body,
      Composed Given line := by
    intro b hb first
    obtain ⟨hconstant, hstatements⟩ := h b hb
    refine List.forall_mem_cons.mpr ⟨b.composed_head hconstant first, ?_⟩
    exact List.forall_mem_flatMap.mpr fun s hs =>
      composed_indent (s.composed_render (hstatements s hs)) 1
  unfold render
  split
  case h_1 => simp
  case h_2 b rest hbranches =>
    rw [hbranches, List.forall_mem_cons] at hbranch
    obtain ⟨hfirst, hrest⟩ := hbranch
    refine List.forall_mem_append.mpr ⟨List.forall_mem_append.mpr ⟨hfirst true, ?_⟩, ?_⟩
    · exact List.forall_mem_flatMap.mpr fun b hb => hrest b hb false
    · exact List.forall_mem_singleton.mpr (.fixed (by simp [fixedTexts]))

theorem Subscription.composed_render {s : Subscription} (hresult : Composed Given s.resultName)
    (h : ∀ a ∈ s.criteria.arguments, Composed Given a) :
    ∀ line ∈ s.render, Composed Given line := by
  have hdeclared : Opener "(bool " := opener_of_mem (by simp [openers])
  have hcall : Spacer ",) = address(service).call(" := spacer_of_mem (by simp [spacers])
  have hrecord : Opener "subscription_failed = subscription_failed || !" :=
    opener_of_mem (by simp [openers])
  have hend : Spacer ";" := spacer_of_mem (by simp [spacers])
  have hquote : Spacer "\"" := spacer_of_mem (by simp [spacers])
  have hunit : Spacer indentUnit := spacer_of_mem (by simp [spacers])
  have hencoded : Composed Given "abi.encodeWithSignature(" :=
    .fixed (by simp [fixedTexts])
  have hbracket : Composed Given ")" := .fixed (by simp [fixedTexts])
  have hsubscribe : Composed Given subscribeSignature :=
    .fixed (by simp [fixedTexts])
  have hsignature := (hsubscribe.opened hquote.toOpener).closed hquote
  have hitems : ∀ item ∈ ("\"" ++ subscribeSignature ++ "\"") :: s.criteria.arguments,
      Composed Given item := List.forall_mem_cons.mpr ⟨hsignature, h⟩
  refine List.forall_mem_append.mpr ⟨List.forall_mem_append.mpr ⟨?_, ?_⟩, ?_⟩
  · exact List.forall_mem_cons.mpr ⟨(hresult.opened hdeclared).closed hcall,
      List.forall_mem_singleton.mpr (hencoded.opened hunit.toOpener)⟩
  · exact List.forall_mem_map.mpr fun line hline =>
      composed_indentation 2 (composed_commaLines hitems line hline)
  · exact List.forall_mem_cons.mpr ⟨hbracket.opened hunit.toOpener,
      List.forall_mem_cons.mpr ⟨.fixed (by simp [fixedTexts]),
        List.forall_mem_singleton.mpr ((hresult.opened hrecord).closed hend)⟩⟩

private theorem SubscriptionTable.composed_entryLines {c : Criteria}
    (h : ∀ a ∈ c.arguments, Composed Given a) (i : Nat) :
    ∀ line ∈ entryLines i c, Composed Given line := by
  have hunit : Spacer indentUnit := spacer_of_mem (by simp [spacers])
  have hresult : Composed Given (indentUnit ++ "result") :=
    Composed.opened hunit.toOpener (.fixed (by simp [fixedTexts]))
  have hplace : Spacer "[" := spacer_of_mem (by simp [spacers])
  have hassign : Spacer "] = Subscription(" := spacer_of_mem (by simp [spacers])
  have hend : Composed Given ");" := .fixed (by simp [fixedTexts])
  refine List.forall_mem_append.mpr ⟨List.forall_mem_append.mpr ⟨?_, ?_⟩, ?_⟩
  · have hline := (hresult.between hplace (.plain (plain_toString i))).closed hassign
    have hjoin : indentUnit ++ "result" ++ "[" = indentUnit ++ "result[" := String.append_assoc
    rw [hjoin] at hline
    exact List.forall_mem_singleton.mpr hline
  · exact List.forall_mem_map.mpr fun line hline =>
      composed_indentation 2 (composed_commaLines h line hline)
  · exact List.forall_mem_singleton.mpr (hend.opened hunit.toOpener)

theorem SubscriptionTable.composed_render {t : SubscriptionTable}
    (h : ∀ c ∈ t.entries, ∀ a ∈ c.arguments, Composed Given a) :
    ∀ line ∈ t.render, Composed Given line := by
  have hunit : Spacer indentUnit := spacer_of_mem (by simp [spacers])
  have hresult : Composed Given (indentUnit ++ "Subscription[] memory result = new Subscription") :=
    Composed.opened hunit.toOpener (.fixed (by simp [fixedTexts]))
  have hlength : Spacer "[](" := spacer_of_mem (by simp [spacers])
  have hend : Spacer ");" := spacer_of_mem (by simp [spacers])
  have hreturn : Composed Given "return result;" :=
    .fixed (by simp [fixedTexts])
  refine List.forall_mem_append.mpr ⟨List.forall_mem_append.mpr ⟨?_, ?_⟩, ?_⟩
  · have hline := (hresult.between hlength (.plain (plain_toString t.entries.length))).closed hend
    have hjoin : indentUnit ++ "Subscription[] memory result = new Subscription" ++ "[]("
        = indentUnit ++ "Subscription[] memory result = new Subscription[](" := String.append_assoc
    rw [hjoin] at hline
    exact List.forall_mem_cons.mpr ⟨.long (by simp [longTexts]),
      List.forall_mem_singleton.mpr hline⟩
  · refine List.forall_mem_flatMap.mpr fun (c, i) hc => ?_
    exact composed_entryLines (h c (List.fst_mem_of_mem_zipIdx hc)) i
  · exact List.forall_mem_cons.mpr ⟨hreturn.opened hunit.toOpener,
      List.forall_mem_singleton.mpr (.fixed (by simp [fixedTexts]))⟩

private theorem AllowList.mem_closeLast {lines : List String} {line : String}
    (h : line ∈ closeLast lines) :
    ∃ other ∈ lines, line = other ∨ line = other ++ ";" := by
  induction lines with
  | nil => simp [closeLast] at h
  | cons first rest ih =>
    cases rest with
    | nil => exact ⟨first, List.mem_cons_self, .inr (by simpa [closeLast] using h)⟩
    | cons next rest =>
      rw [closeLast.eq_3 _ _ (List.cons_ne_nil _ _)] at h
      rcases List.mem_cons.mp h with rfl | h
      · exact ⟨_, List.mem_cons_self, .inl rfl⟩
      · obtain ⟨other, hother, hline⟩ := ih h
        exact ⟨other, List.mem_cons_of_mem _ hother, hline⟩

theorem AllowList.composed_checks {constants : List Constant}
    (h : ∀ c ∈ constants, Composed Given c.name) :
    ∀ line ∈ checks constants, Composed Given line := by
  have hunit : Spacer indentUnit := spacer_of_mem (by simp [spacers])
  have hfirst : Opener "return addr == " := opener_of_mem (by simp [openers])
  have hlater : Spacer "|| addr == " := spacer_of_mem (by simp [spacers])
  cases constants with
  | nil => simp [checks]
  | cons c rest =>
    obtain ⟨hc, hrest⟩ := List.forall_mem_cons.mp h
    refine List.forall_mem_cons.mpr ⟨?_, List.forall_mem_map.mpr fun d hd => ?_⟩
    · rw [String.append_assoc]
      exact (hc.opened hfirst).opened hunit.toOpener
    · rw [String.append_assoc]
      exact composed_indentation 2 ((hrest d hd).opened hlater.toOpener)

theorem AllowList.composed_render {l : AllowList} (h : ∀ c ∈ l.constants, Composed Given c.name)
    {lines : List String} (hlines : l.render? = some lines) :
    ∀ line ∈ lines, Composed Given line := by
  have hend : Spacer ";" := spacer_of_mem (by simp [spacers])
  unfold render? at hlines
  split at hlines
  · cases hlines
  · rw [← Option.some.inj hlines]
    refine List.forall_mem_append.mpr ⟨List.forall_mem_append.mpr ⟨?_, fun line hline => ?_⟩, ?_⟩
    · exact List.forall_mem_singleton.mpr (.long (by simp [longTexts]))
    · obtain ⟨other, hother, rfl | rfl⟩ := mem_closeLast hline
      · exact composed_checks h _ hother
      · exact (composed_checks h _ hother).closed hend
    · exact List.forall_mem_singleton.mpr (.fixed (by simp [fixedTexts]))

theorem ReactParameters.composed_render (p : ReactParameters) :
    ∀ line ∈ p.render, Composed Given line := by
  have hspace : Spacer " " := spacer_of_mem (by simp [spacers])
  have hcomment : Spacer " /* " := spacer_of_mem (by simp [spacers])
  have hend : Spacer " */" := spacer_of_mem (by simp [spacers])
  have hplain : ∀ q ∈ all, Plain q.1 ∧ Plain q.2 := by
    simp only [plain_iff]
    decide +kernel
  refine composed_commaLines (List.forall_mem_map.mpr fun q hq => ?_)
  obtain ⟨htype, hname⟩ := hplain q hq
  unfold parameter
  dsimp only
  split
  · exact (Composed.plain htype).between hspace (.plain hname)
  · exact ((Composed.plain htype).between hcomment (.plain hname)).closed hend

end Fragments
end ReactiveContract.Solidity
