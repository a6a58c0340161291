import ReactiveContract.Proofs.Text.Numeral
import ReactiveContract.Text.Blank
/-! What trimming takes off a text, and what it does not look at. -/
namespace ReactiveContract.Text
variable {p : Char → Bool}

/-- Trimming takes characters of the class off both ends. -/
theorem exists_trimming (p : Char → Bool) (cs : List Char) :
    ∃ before after, cs = before ++ trimming p cs ++ after
      ∧ (∀ c ∈ before, p c = true) ∧ ∀ c ∈ after, p c = true := by
  refine ⟨cs.takeWhile p, ((cs.dropWhile p).reverse.takeWhile p).reverse, ?_, ?_, ?_⟩
  · have hright : trimming p cs ++ ((cs.dropWhile p).reverse.takeWhile p).reverse
        = cs.dropWhile p := by
      rw [trimming, ← List.reverse_append, List.takeWhile_append_dropWhile, List.reverse_reverse]
    rw [List.append_assoc, hright, List.takeWhile_append_dropWhile]
  · intro c hc
    exact List.all_eq_true.mp List.all_takeWhile c hc
  · intro c hc
    exact List.all_eq_true.mp List.all_takeWhile c (List.mem_reverse.mp hc)

theorem trimming_append_left {before : List Char} (h : ∀ c ∈ before, p c = true)
    (cs : List Char) : trimming p (before ++ cs) = trimming p cs := by
  unfold trimming
  rw [List.dropWhile_append_of_pos h]

theorem trimming_append_right {after : List Char} (h : ∀ c ∈ after, p c = true)
    (cs : List Char) : trimming p (cs ++ after) = trimming p cs := by
  have hnil : (after ++ []).dropWhile p = [] := List.dropWhile_append_of_pos h
  rw [List.append_nil] at hnil
  unfold trimming
  rw [List.dropWhile_append]
  by_cases he : (cs.dropWhile p).isEmpty = true
  · rw [if_pos he, hnil, List.isEmpty_iff.mp he]
  · rw [if_neg he, List.reverse_append, List.dropWhile_append_of_pos]
    intro c hc
    exact h c (List.mem_reverse.mp hc)

/-- What trimming leaves has nothing to trim. -/
private theorem trimming_trimming (p : Char → Bool) (cs : List Char) :
    trimming p (trimming p cs) = trimming p cs := by
  obtain ⟨before, after, hsplit, hbefore, hafter⟩ := exists_trimming p cs
  have h : trimming p cs = trimming p (before ++ (trimming p cs ++ after)) := by
    rw [← List.append_assoc, ← hsplit]
  rw [trimming_append_left hbefore, trimming_append_right hafter] at h
  exact h.symm

theorem trim_trim (s : String) : trim (trim s) = trim s := by
  unfold trim
  rw [String.toList_ofList, trimming_trimming]

private theorem trimming_eq_self {cs : List Char} (h : ∀ c ∈ cs, p c = false) :
    trimming p cs = cs := by
  obtain ⟨before, after, hsplit, hbefore, hafter⟩ := exists_trimming p cs
  have hnone : ∀ ds : List Char, (∀ c ∈ ds, p c = true) → ds ⊆ cs → ds = [] := by
    intro ds hds hsub
    refine List.eq_nil_iff_forall_not_mem.mpr fun c hc => ?_
    have hfalse := h c (hsub hc)
    rw [hds c hc] at hfalse
    cases hfalse
  have hb : before = [] := hnone before hbefore fun c hc => by
    rw [hsplit]
    simp [hc]
  have ha : after = [] := hnone after hafter fun c hc => by
    rw [hsplit]
    simp [hc]
  rw [hb, ha, List.nil_append, List.append_nil] at hsplit
  exact hsplit.symm

private theorem isBlank_of_isAlphanum {c : Char} (h : c.isAlphanum = true) : isBlank c = false := by
  rw [Char.isAlphanum, Bool.or_eq_true, isAlpha_iff, isDigit_iff] at h
  simp only [isBlank, isWhiteSpace, inRanges, whiteSpace, List.any_cons, List.any_nil,
    Bool.or_eq_false_iff, Bool.and_eq_false_iff, decide_eq_false_iff_not, and_true]
  omega

/-- Letters and digits are never taken off. -/
theorem trim_of_isAlphanum {s : String} (h : ∀ c ∈ s.toList, c.isAlphanum = true) :
    trim s = s := by
  unfold trim
  rw [trimming_eq_self fun c hc => isBlank_of_isAlphanum (h c hc), String.ofList_toList]

end ReactiveContract.Text
