import Mathlib.Data.List.Basic
import Mathlib.Data.List.Induction
import Mathlib.Tactic.IntervalCases
import ReactiveContract.Text.DecimalDigit
/-! Decimal numerals: what writing a number yields, and reading it back. -/
namespace ReactiveContract.Text

/-- A run of characters of a class ends where the class does. -/
theorem takeWhile_append_of_all {p : Char → Bool} {xs ys : List Char}
    (hx : ∀ c ∈ xs, p c = true) (hy : ∀ c ∈ ys.head?, p c = false) :
    (xs ++ ys).takeWhile p = xs ∧ (xs ++ ys).dropWhile p = ys := by
  rw [List.takeWhile_append_of_pos hx, List.dropWhile_append_of_pos hx]
  cases ys with
  | nil => simp
  | cons y ys =>
    have hf : p y = false := hy y rfl
    simp [hf]

theorem isAlpha_iff {c : Char} :
    c.isAlpha = true ↔ (65 ≤ c.toNat ∧ c.toNat ≤ 90) ∨ (97 ≤ c.toNat ∧ c.toNat ≤ 122) := by
  have hletters : c.isAlpha = (decide ('A'.val ≤ c.val ∧ c.val ≤ 'Z'.val)
      || decide ('a'.val ≤ c.val) && decide (c.val ≤ 'z'.val)) := rfl
  rw [hletters, Bool.or_eq_true, Bool.and_eq_true]
  simp only [decide_eq_true_eq, UInt32.le_iff_toNat_le]
  rfl

theorem isDigit_iff {c : Char} : c.isDigit = true ↔ 48 ≤ c.toNat ∧ c.toNat ≤ 57 := by
  simp only [Char.isDigit, Bool.and_eq_true, decide_eq_true_eq, ge_iff_le,
    UInt32.le_iff_toNat_le]
  rfl

theorem isDigit_of_mem_toString {n : Nat} {c : Char} (h : c ∈ (toString n).toList) :
    c.isDigit = true := by
  rw [Nat.toString_eq_repr, Nat.toList_repr] at h
  exact Nat.isDigit_of_mem_toDigits (by decide) (by decide) h

theorem toString_toList_ne_nil (n : Nat) : (toString n).toList ≠ [] := by
  rw [Nat.toString_eq_repr, Nat.toList_repr]
  exact Nat.toDigits_ne_nil

theorem toString_injective {m n : Nat} (h : toString m = toString n) : m = n := by
  have hd : Nat.toDigits 10 m = Nat.toDigits 10 n := by
    rw [← Nat.toList_repr, ← Nat.toList_repr]
    exact congrArg String.toList h
  rw [← Nat.ofDigitChars_ten_toDigits (n := m), hd, Nat.ofDigitChars_ten_toDigits]

/-- A stem before numerals. -/
theorem append_toString_injective (stem : String) {i j : Nat}
    (h : stem ++ toString i = stem ++ toString j) : i = j := by
  have hl := congrArg String.toList h
  rw [String.toList_append, String.toList_append] at hl
  exact toString_injective (String.toList_injective (List.append_cancel_left hl))

/-- The numeral of a positive number does not begin with zero. -/
theorem toString_eq_cons {n : Nat} (h : 0 < n) :
    ∃ c rest, (toString n).toList = c :: rest ∧ '1' ≤ c ∧ c ≤ '9' := by
  rw [Nat.toString_eq_repr, Nat.toList_repr]
  induction n using Nat.base_induction 10 (by decide) with
  | single m hm =>
    refine ⟨m.digitChar, [], Nat.toDigits_of_lt_base hm, ?_⟩
    interval_cases m <;> decide
  | digit m k hk hm ih =>
    obtain ⟨c, rest, hc, hle⟩ := ih hm
    refine ⟨c, rest ++ Nat.toDigits 10 k, ?_, hle⟩
    rw [← Nat.toDigits_append_toDigits (by decide) hm hk, hc, List.cons_append]

theorem digitChar_of_isDigit {c : Char} (h : c.isDigit = true) :
    Nat.digitChar (c.toNat - '0'.toNat) = c := by
  have hc := isDigit_iff.mp h
  have hzero : '0'.toNat = 48 := rfl
  apply Char.toNat_inj.mp
  rw [Nat.toNat_digitChar_of_lt_ten (by omega)]
  omega

/-- A run of digits that does not begin with zero is the numeral of its value. -/
theorem toDigits_ofDigitChars {c : Char} {ds : List Char} (hc : '1' ≤ c ∧ c ≤ '9')
    (hds : ∀ d ∈ c :: ds, d.isDigit = true) :
    0 < Nat.ofDigitChars 10 (c :: ds) 0
      ∧ Nat.toDigits 10 (Nat.ofDigitChars 10 (c :: ds) 0) = c :: ds := by
  have hzero : '0'.toNat = 48 := rfl
  -- the last digit is the remainder by ten, so the induction is on the run from its end
  induction ds using List.reverseRecOn with
  | nil =>
    have hlow : 49 ≤ c.toNat := hc.1
    have hhigh : c.toNat ≤ 57 := hc.2
    have hvalue : Nat.ofDigitChars 10 [c] 0 = c.toNat - '0'.toNat := by
      rw [Nat.ofDigitChars_cons, Nat.ofDigitChars_nil, Nat.mul_zero, Nat.zero_add]
    rw [hvalue]
    refine ⟨by omega, ?_⟩
    rw [Nat.toDigits_of_lt_base (by omega), digitChar_of_isDigit (hds c List.mem_cons_self)]
  | append_singleton ds d ih =>
    have hshorter : ∀ e ∈ c :: ds, e.isDigit = true := by
      intro e he
      apply hds e
      rw [← List.cons_append]
      exact List.mem_append_left [d] he
    obtain ⟨hpos, hdigits⟩ := ih hshorter
    have hd : d.isDigit = true := hds d (by simp)
    have hlt := isDigit_iff.mp hd
    have hvalue : Nat.ofDigitChars 10 (c :: (ds ++ [d])) 0
        = 10 * Nat.ofDigitChars 10 (c :: ds) 0 + (d.toNat - '0'.toNat) := by
      rw [← List.cons_append, Nat.ofDigitChars_append, Nat.ofDigitChars_cons, Nat.ofDigitChars_nil]
    rw [hvalue]
    refine ⟨by omega, ?_⟩
    rw [← Nat.toDigits_append_toDigits (by decide) hpos (by omega), hdigits,
      Nat.toDigits_of_lt_base (by omega), digitChar_of_isDigit hd, List.cons_append]

private theorem asciiDigit?_of_isDigit {c : Char} (h : c.isDigit = true) :
    asciiDigit? c = some (c.toNat - '0'.toNat) := by
  have hc : '0' ≤ c ∧ c ≤ '9' := by simpa [Char.isDigit, Char.le_def] using h
  rw [asciiDigit?, if_pos hc]

theorem ofDigits_filterMap {cs : List Char} (h : ∀ c ∈ cs, c.isDigit = true) :
    ofDigits (cs.filterMap asciiDigit?) = Nat.ofDigitChars 10 cs 0 := by
  have hs : cs.filterMap asciiDigit? = cs.map fun c => c.toNat - '0'.toNat := by
    rw [← List.filterMap_eq_map]
    exact List.filterMap_congr fun c hc => asciiDigit?_of_isDigit (h c hc)
  rw [hs, ofDigits, List.foldl_map, Nat.ofDigitChars_eq_foldl]

theorem ofDigits_toString (n : Nat) :
    ofDigits ((toString n).toList.filterMap asciiDigit?) = n := by
  rw [ofDigits_filterMap fun c hc => isDigit_of_mem_toString hc, Nat.toString_eq_repr,
    Nat.toList_repr, Nat.ofDigitChars_ten_toDigits]

end ReactiveContract.Text
