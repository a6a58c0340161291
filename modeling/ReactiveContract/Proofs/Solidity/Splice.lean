import ReactiveContract.Proofs.Binding.Resolution
import ReactiveContract.Proofs.Solidity.Token
/-! Single expressions cannot reach into the text around them on a line. -/
namespace ReactiveContract.Solidity
open Expression Text

/-- A statement or a block ends or begins, or a comment begins, with a character of a line: what is
before it leaves no quote open, and with the text after it, it is a separator, a brace or a comment
opener. -/
def Breaks (head : List Char) (c : Char) (rest : List Char) : Prop :=
  head.foldl Mode.next .outside = .outside ∧ (isSeparator c = true ∨ opensComment c rest = true)

/-- A text on a line. No line break comes up to its end, no quote is open where it begins or ends,
and nothing that begins in front of it or within it breaks the line. -/
structure Sealed (before text after : String) : Prop where
  unbroken : ∀ c ∈ (before ++ text).toList, isLineBreak c = false
  opening : Closed before
  ending : Closed (before ++ text)
  apart : ∀ head c rest, (before ++ text ++ after).toList = head ++ c :: rest →
    Breaks head c rest → (before ++ text).toList.length ≤ head.length

/-- A scan that does not fail takes in each character in the mode that those before it leave. -/
theorem exists_step_of_scan {mode mode' : Mode} {head rest : List Char} {c : Char}
    (h : scan mode (head ++ c :: rest) = some mode') :
    ∃ next, step (head.foldl Mode.next mode) c rest = some next := by
  induction head generalizing mode with
  | nil =>
    obtain ⟨next, hstep, -⟩ := Option.bind_eq_some_iff.mp h
    exact ⟨next, hstep⟩
  | cons d head ih =>
    obtain ⟨next, hstep, hscan⟩ := Option.bind_eq_some_iff.mp h
    rw [List.foldl_cons, ← next_of_step hstep]
    exact ih hscan

private theorem opensComment_append {c : Char} {cs after : List Char}
    (hafter : ∀ d ∈ after.head?, d ≠ '/' ∧ d ≠ '*') (h : opensComment c (cs ++ after) = true) :
    opensComment c cs = true := by
  cases cs with
  | cons d cs => exact h
  | nil =>
    -- Nothing of the comment opener is left but the character itself.
    cases after with
    | nil => exact h
    | cons d after =>
      have hd := hafter d rfl
      simp [opensComment, hd.1, hd.2] at h

/-- Nothing breaks a line within a single expression, not even with what comes after it. -/
private theorem le_of_breaks {cs after : List Char} (h : isSingle cs = true)
    (hafter : ∀ d ∈ after.head?, d ≠ '/' ∧ d ≠ '*') {head rest : List Char} {c : Char}
    (hline : cs ++ after = head ++ c :: rest) (hbreaks : Breaks head c rest) :
    cs.length ≤ head.length := by
  obtain ⟨hmode, hc⟩ := hbreaks
  rcases List.append_eq_append_iff.mp hline with ⟨more, rfl, -⟩ | ⟨tail, rfl, htail⟩
  · simp
  · cases tail with
    | nil => simp
    | cons d tail =>
      obtain ⟨rfl, rfl⟩ := List.cons.inj htail
      obtain ⟨next, hstep⟩ := exists_step_of_scan (of_decide_eq_true h)
      rw [hmode] at hstep
      obtain ⟨hseparator, hcomment⟩ := not_breaking_of_step hstep
      rcases hc with hc | hc
      · rw [hseparator] at hc
        cases hc
      · rw [opensComment_append hafter hc] at hcomment
        cases hcomment

theorem isLineBreak_of_isSingle {cs : List Char} (h : isSingle cs = true) {c : Char}
    (hc : c ∈ cs) : isLineBreak c = false := by
  obtain ⟨head, rest, rfl⟩ := List.append_of_mem hc
  obtain ⟨next, hstep⟩ := exists_step_of_scan (of_decide_eq_true h)
  exact isLineBreak_of_step hstep

/-- A character that a scan outside of quotes passes over whatever comes after it. -/
def isNeutral (c : Char) : Bool := !isLineBreak c && !isQuote c && !isSeparator c && c ≠ '/'

private theorem step_neutral {c : Char} (h : isNeutral c = true) (rest : List Char) :
    step .outside c rest = some .outside := by
  simp only [isNeutral, Bool.and_eq_true, Bool.not_eq_true', decide_eq_true_eq] at h
  obtain ⟨⟨⟨hb, hq⟩, hs⟩, hslash⟩ := h
  exact step_outside_iff.mpr (.inr ⟨hq, ⟨hb, hs⟩, opensComment_eq_false.mpr (absurd · hslash), rfl⟩)

private theorem scan_neutral {cs : List Char} (h : cs.all isNeutral = true) (rest : List Char) :
    scan .outside (cs ++ rest) = scan .outside rest := by
  induction cs with
  | nil => rfl
  | cons c cs ih =>
    rw [List.all_cons, Bool.and_eq_true] at h
    rw [List.cons_append, scan, step_neutral h.1, Option.bind_some]
    exact ih h.2

/-- A single expression is sealed by neutral text before it and by anything after it that cannot
complete a comment opener. -/
theorem sealed_of_isSingle {before text after : String} (h : isSingle text.toList = true)
    (hbefore : before.toList.all isNeutral = true)
    (hafter : ∀ d ∈ after.toList.head?, d ≠ '/' ∧ d ≠ '*') : Sealed before text after := by
  have hscan := scan_neutral hbefore text.toList
  have hwhole : isSingle (before ++ text).toList = true := by
    rw [isSingle, String.toList_append, hscan]
    exact h
  refine ⟨fun c => isLineBreak_of_isSingle hwhole, closed_of_unquoted fun c hc => ?_,
    foldl_next_of_scan (of_decide_eq_true hwhole), fun head c rest hline hbreaks => ?_⟩
  · have hc := List.all_eq_true.mp hbefore c hc
    simp only [isNeutral, Bool.and_eq_true, Bool.not_eq_true'] at hc
    exact hc.1.1.2
  · rw [String.toList_append] at hline
    exact le_of_breaks hwhole hafter hline hbreaks

private theorem all_isNeutral_indentation (level : Nat) :
    (indentation level).toList.all isNeutral = true :=
  List.all_eq_true.mpr fun c hc => by
    rw [eq_of_mem_indentation hc]
    rfl

/-- A line of a statement that takes a value in: the number of the line, and the text on it before
and after the value. -/
inductive Splices (v : String) : Statement → Nat → String → String → Prop
  | condition (message : String) :
    Splices v (.require ⟨v, message⟩) 0 "require(" (", \"" ++ message ++ "\");")
  | argument {c : CallbackEmission} {i : Nat} (h : c.arguments[i]? = some v) :
    Splices v (.emit c) (i + 2) indentUnit (if i + 1 = c.arguments.length then "" else ",")

private theorem getElem?_commaLines {items : List String} {i : Nat} {item : String}
    (h : items[i]? = some item) :
    (commaLines items)[i]? = some (item ++ if i + 1 = items.length then "" else ",") := by
  induction items generalizing i with
  | nil => simp at h
  | cons first items ih =>
    cases items with
    | nil =>
      obtain ⟨rfl, rfl⟩ : i = 0 ∧ first = item := by
        cases i with
        | zero => simpa using h
        | succ i => simp at h
      simp [commaLines]
    | cons second items =>
      rw [commaLines.eq_3 _ _ (List.cons_ne_nil _ _)]
      cases i with
      | zero =>
        obtain rfl : first = item := Option.some.inj h
        simp
      | succ i => simpa using ih h

namespace Splices
variable {v before after : String} {s : Statement} {n : Nat}

/-- The value stands on its line as it is. -/
theorem getElem?_render (h : Splices v s n before after) :
    s.render[n]? = some (before ++ v ++ after) := by
  cases h with
  | condition message =>
    have hline : (Requirement.mk v message).render
        = ["require(" ++ v ++ ", \"" ++ message ++ "\");"] := rfl
    simp only [Statement.render, hline, List.getElem?_cons_zero, String.append_assoc]
  | @argument c i h =>
    have hitem : c.items[i + 1]? = some v := h
    have hline := getElem?_commaLines hitem
    have hlength : c.items.length = c.arguments.length + 1 := rfl
    have hlt : i + 1 < (commaLines c.items).length :=
      (List.getElem?_eq_some_iff.mp hline).1
    have hmap : ((commaLines c.items).map (indentUnit ++ ·))[i + 1]?
        = some (indentUnit ++ v ++ if i + 1 = c.arguments.length then "" else ",") := by
      rw [List.getElem?_map, hline, hlength, Option.map_some, String.append_assoc]
      simp
    simp only [Statement.render, CallbackEmission.render, List.cons_append, List.nil_append,
      List.getElem?_cons_succ]
    rw [List.getElem?_append_left (by simpa using hlt), hmap]

/-- Further indentation does not matter. -/
theorem sealed (h : Splices v s n before after) (hv : isSingle v.toList = true) (level : Nat) :
    Sealed (indentation level ++ before) v after := by
  have hindented {text : String} (htext : text.toList.all isNeutral = true) :
      (indentation level ++ text).toList.all isNeutral = true := by
    rw [String.toList_append, List.all_append, all_isNeutral_indentation, htext]
    rfl
  cases h with
  | condition message =>
    refine sealed_of_isSingle hv (hindented rfl) fun d hd => ?_
    obtain rfl : ',' = d := by simpa [String.toList_append] using hd
    decide
  | argument h =>
    refine sealed_of_isSingle hv (hindented rfl) fun d hd => ?_
    split at hd
    · simp at hd
    · obtain rfl : ',' = d := by simpa using hd
      decide

end Splices
end ReactiveContract.Solidity
