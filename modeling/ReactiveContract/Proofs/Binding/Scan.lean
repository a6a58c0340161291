import ReactiveContract.Binding.Expression
/-! What one step of a scan does: the characters that it refuses in each mode, and the mode that any
other character leads to. -/
namespace ReactiveContract.Expression

theorem isLineBreak_eq_false {c : Char} : isLineBreak c = false ↔ c ≠ '\n' ∧ c ≠ '\r' := by
  simp [isLineBreak]

theorem isQuote_iff {c : Char} : isQuote c = true ↔ c = '"' ∨ c = '\'' := by
  simp [isQuote]

theorem opensComment_eq_false {c : Char} {cs : List Char} :
    opensComment c cs = false ↔ (c = '/' → ∀ d ∈ cs.head?, d ≠ '/' ∧ d ≠ '*') := by
  cases cs with
  | nil => simp [opensComment]
  | cons d cs => simp [opensComment]

/-- Outside of quotes a mark opens a literal, and any other character stands for itself unless it
breaks the line, separates statements or opens a comment. -/
theorem step_outside_iff {c : Char} {cs : List Char} {m : Mode} :
    step .outside c cs = some m
      ↔ (isQuote c = true ∧ m = .quoted c)
        ∨ (isQuote c = false ∧ (isLineBreak c = false ∧ isSeparator c = false)
          ∧ opensComment c cs = false ∧ m = .outside) := by
  by_cases hq : isQuote c = true
  · have hline : isLineBreak c = false := by
      rcases isQuote_iff.mp hq with rfl | rfl <;> rfl
    simp [step, hline, hq, @eq_comm _ m]
  · rw [Bool.not_eq_true] at hq
    simp only [step, hq, Bool.false_eq_true, if_false, Option.ite_none_left_eq_some,
      Option.some.injEq, Bool.not_eq_true, Bool.or_eq_false_iff, false_and, false_or, true_and,
      and_assoc, @eq_comm _ m]

theorem step_quoted_iff {quote c : Char} {cs : List Char} {m : Mode} :
    step (.quoted quote) c cs = some m
      ↔ isLineBreak c = false
        ∧ ((c = '\\' ∧ m = .escaped quote) ∨ (c ≠ '\\' ∧ c = quote ∧ m = .outside)
          ∨ (c ≠ '\\' ∧ c ≠ quote ∧ m = .quoted quote)) := by
  simp only [step, Option.ite_none_left_eq_some, Bool.not_eq_true]
  refine and_congr_right fun _ => ?_
  by_cases hescape : c = '\\'
  · simp [hescape, @eq_comm _ m]
  · by_cases hquote : c = quote
    · subst hquote
      simp [hescape, @eq_comm _ m]
    · simp [hescape, hquote, @eq_comm _ m]

theorem step_escaped_iff {quote c : Char} {cs : List Char} {m : Mode} :
    step (.escaped quote) c cs = some m ↔ isLineBreak c = false ∧ m = .quoted quote := by
  simp [step, @eq_comm _ m]

theorem isLineBreak_of_step {mode m : Mode} {c : Char} {cs : List Char}
    (h : step mode c cs = some m) : isLineBreak c = false := by
  cases mode with
  | outside =>
    rcases step_outside_iff.mp h with ⟨hq, -⟩ | ⟨-, ⟨hline, -⟩, -⟩
    · rcases isQuote_iff.mp hq with rfl | rfl <;> rfl
    · exact hline
  | quoted quote => exact (step_quoted_iff.mp h).1
  | escaped quote => exact (step_escaped_iff.mp h).1

theorem not_breaking_of_step {m : Mode} {c : Char} {cs : List Char}
    (h : step .outside c cs = some m) : isSeparator c = false ∧ opensComment c cs = false := by
  rcases step_outside_iff.mp h with ⟨hq, -⟩ | ⟨-, ⟨-, hseparator⟩, hcomment, -⟩
  · rcases isQuote_iff.mp hq with rfl | rfl <;> exact ⟨rfl, rfl⟩
  · exact ⟨hseparator, hcomment⟩

/-- The mode after a character, whether or not the character is allowed. -/
def Mode.next : Mode → Char → Mode
  | .outside, c => if isQuote c then .quoted c else .outside
  | .quoted quote, c =>
    if c = '\\' then .escaped quote else if c = quote then .outside else .quoted quote
  | .escaped quote, _ => .quoted quote

theorem next_of_step {mode m : Mode} {c : Char} {cs : List Char}
    (h : step mode c cs = some m) : m = mode.next c := by
  cases mode with
  | outside =>
    rcases step_outside_iff.mp h with ⟨hq, rfl⟩ | ⟨hq, -, -, rfl⟩ <;> simp [Mode.next, hq]
  | quoted quote =>
    rcases (step_quoted_iff.mp h).2 with ⟨he, rfl⟩ | ⟨he, hq, rfl⟩ | ⟨he, hq, rfl⟩
    · exact (if_pos he).symm
    · exact ((if_neg he).trans (if_pos hq)).symm
    · exact ((if_neg he).trans (if_neg hq)).symm
  | escaped quote => exact (step_escaped_iff.mp h).2

/-- The scan of an expression goes through the same modes. -/
theorem foldl_next_of_scan {mode mode' : Mode} {cs : List Char} (h : scan mode cs = some mode') :
    cs.foldl Mode.next mode = mode' := by
  induction cs generalizing mode with
  | nil => simpa [scan] using h
  | cons c cs ih =>
    unfold scan at h
    obtain ⟨m, hstep, hscan⟩ := Option.bind_eq_some_iff.mp h
    rw [List.foldl_cons, ← next_of_step hstep]
    exact ih hscan

/-- A mode whose quote, if any, is a quotation mark. -/
def Sane : Mode → Prop
  | .outside => True
  | .quoted quote | .escaped quote => isQuote quote = true

theorem sane_outside : Sane .outside := trivial

theorem Sane.next {mode : Mode} (h : Sane mode) (c : Char) : Sane (mode.next c) := by
  cases mode with
  | outside =>
    unfold Mode.next
    by_cases hq : isQuote c = true
    · simp [hq, Sane]
    · simp [hq, Sane]
  | quoted quote =>
    simp only [Mode.next]
    by_cases hb : c = '\\'
    · rw [if_pos hb]
      exact h
    · rw [if_neg hb]
      by_cases hq : c = quote
      · rw [if_pos hq]
        trivial
      · rw [if_neg hq]
        exact h
  | escaped quote => exact h

theorem sane_of_step {mode m : Mode} {c : Char} {cs : List Char} (hmode : Sane mode)
    (h : step mode c cs = some m) : Sane m := by
  rw [next_of_step h]
  exact hmode.next c

theorem Sane.foldl {mode : Mode} (h : Sane mode) (cs : List Char) :
    Sane (cs.foldl Mode.next mode) := by
  induction cs generalizing mode with
  | nil => exact h
  | cons c cs ih => exact ih (h.next c)

end ReactiveContract.Expression
