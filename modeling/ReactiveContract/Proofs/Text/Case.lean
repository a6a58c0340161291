import Mathlib.Data.List.Basic
import Mathlib.Tactic.IntervalCases
import ReactiveContract.Proofs.Text.CodePoint
import ReactiveContract.Text.Case
import ReactiveContract.Text.LowerCase
/-! Where a word of ASCII letters comes out, it does not matter whether the full lower case of a
text is taken or the short one. -/
namespace ReactiveContract.Text

def IsAscii (c : Char) : Prop := c.toNat < 0x80

/-- A row of the table of capitals that neither begins nor ends at ASCII letters, nor has the
Kelvin sign, nor leads to a code point that is no character. -/
def IsForeign (row : Nat × Nat × Nat × Int) : Prop :=
  0x80 ≤ row.1 ∧ 0x80 ≤ (row.1 : Int) + row.2.2.2 ∧ (row.2.1 < 0x212a ∨ 0x212a < row.1)
    ∧ ((row.2.1 : Int) + row.2.2.2 < 0xd800
      ∨ 0xe000 ≤ (row.1 : Int) + row.2.2.2 ∧ (row.2.1 : Int) + row.2.2.2 < 0x110000)

instance (row : Nat × Nat × Nat × Int) : Decidable (IsForeign row) :=
  inferInstanceAs (Decidable (_ ∧ _))

theorem capitals_cases : ∀ row ∈ capitals,
    row = (0x41, 0x5a, 1, 32) ∨ row = (0x212a, 0x212a, 1, -8383) ∨ IsForeign row := by
  decide +kernel

private theorem lowerChar_of_not_ascii {c : Char} (h : ¬ IsAscii c) (hk : c ≠ '\u212a') :
    lowerChar c = c := by
  have hc : ¬ (c.val ≥ 'A'.val ∧ c.val ≤ 'Z'.val) := by
    intro hc
    have hle : c.val.toNat ≤ 90 := hc.2
    have hge : ¬ c.val.toNat < 128 := h
    omega
  rw [lowerChar, if_neg hk]
  exact dif_neg hc

private theorem range_of_inStrides {first last step : Nat} {c : Char}
    (h : inStrides [(first, last, step)] c = true) : first ≤ c.toNat ∧ c.toNat ≤ last := by
  simp only [inStrides, List.any_cons, List.any_nil, Bool.or_false, Bool.and_eq_true,
    decide_eq_true_eq] at h
  exact h.1

/-- The lower case of a character, unless both ways of taking it lead out of ASCII. -/
theorem smallLetter_eq_lowerChar {c : Char} (h : IsAscii (smallLetter c) ∨ IsAscii (lowerChar c)) :
    smallLetter c = lowerChar c := by
  unfold smallLetter at h ⊢
  cases hf : capitals.find? fun row => inStrides [(row.1, row.2.1, row.2.2.1)] c with
  | none =>
    have hout : ∀ row ∈ capitals, inStrides [(row.1, row.2.1, row.2.2.1)] c = false := by
      simpa using List.find?_eq_none.mp hf
    have hk : c ≠ '\u212a' := by
      rintro rfl
      exact absurd (hout (0x212a, 0x212a, 1, -8383) (by decide +kernel)) (by decide)
    have hc : ¬ (c.val ≥ 'A'.val ∧ c.val ≤ 'Z'.val) := by
      intro hc
      have hge : 65 ≤ c.toNat := hc.1
      have hle : c.toNat ≤ 90 := hc.2
      have hin := hout (0x41, 0x5a, 1, 32) (by decide +kernel)
      simp [inStrides, Nat.mod_one, hge, hle] at hin
    have hlower : c.toLower = c := dif_neg hc
    rw [lowerChar, if_neg hk, hlower]
  | some row =>
    have hin : inStrides [(row.1, row.2.1, row.2.2.1)] c = true := by
      simpa using List.find?_some hf
    obtain ⟨hfirst, hlast⟩ := range_of_inStrides hin
    simp only [hf] at h ⊢
    rcases capitals_cases row (List.mem_of_find?_eq_some hf) with rfl | rfl | hforeign
    · have hc : c = Char.ofNat c.toNat := (Char.ofNat_toNat c).symm
      have hle : c.toNat ≤ 90 := hlast
      have hge : 65 ≤ c.toNat := hfirst
      generalize c.toNat = n at hc hle hge
      subst hc
      interval_cases n <;> rfl
    · have hc : c = Char.ofNat 0x212a := by
        have hn : c.toNat = 0x212a := Nat.le_antisymm hlast hfirst
        rw [← hn, Char.ofNat_toNat]
      subst hc
      rfl
    · -- Both letters of such a row lie outside of ASCII.
      obtain ⟨hstart, hshift, hkelvin, hvalid⟩ := hforeign
      have hascii : ¬ IsAscii c := by
        unfold IsAscii
        omega
      have hk : c ≠ '\u212a' := by
        rintro rfl
        have hn : ('\u212a' : Char).toNat = 0x212a := rfl
        omega
      have hsmall : ¬ IsAscii (Char.ofNat ((c.toNat : Int) + row.2.2.2).toNat) := by
        unfold IsAscii
        rw [toNat_ofNat_of_isValidChar (by unfold Nat.isValidChar; omega)]
        omega
      rw [lowerChar_of_not_ascii hascii hk] at h
      exact absurd h (by tauto)

/-- A text has a word of ASCII characters for its full lower case exactly if it has it for the
short one. -/
theorem lowerAfter_eq_iff {word : List Char} (hw : ∀ c ∈ word, IsAscii c) (before cs : List Char) :
    lowerAfter before cs = word ↔ cs.map lowerChar = word := by
  induction cs generalizing before word with
  | nil => simp [lowerAfter]
  | cons c cs ih =>
    rw [lowerAfter, List.map_cons]
    by_cases hsigma : c = '\u03a3'
    · subst hsigma
      have hlower : ¬ IsAscii (lowerChar '\u03a3') := by unfold IsAscii; decide
      have hfull : ¬ IsAscii (lowerSigma before cs) := by
        unfold lowerSigma IsAscii
        split <;> decide
      rw [if_pos rfl, List.singleton_append]
      constructor
      · rintro rfl
        exact absurd (hw _ List.mem_cons_self) hfull
      · rintro rfl
        exact absurd (hw _ List.mem_cons_self) hlower
    · rw [if_neg hsigma]
      by_cases hdotted : c = '\u0130'
      · subst hdotted
        rw [if_pos rfl]
        constructor
        · rintro rfl
          exact absurd (hw '\u0307' (by simp)) (by unfold IsAscii; decide)
        · rintro rfl
          exact absurd (hw _ List.mem_cons_self) (by unfold IsAscii; decide)
      · rw [if_neg hdotted, List.singleton_append]
        cases word with
        | nil => simp
        | cons d word =>
          have hd : IsAscii d := hw d List.mem_cons_self
          have hrest := ih (fun e he => hw e (List.mem_cons_of_mem d he)) (c :: before)
          have hhead : smallLetter c = d ↔ lowerChar c = d := by
            constructor
            · rintro rfl
              exact (smallLetter_eq_lowerChar (.inl hd)).symm
            · rintro rfl
              exact smallLetter_eq_lowerChar (.inr hd)
          rw [List.cons.injEq, List.cons.injEq, hrest, hhead]

theorem lowerCase_eq_iff {word : List Char} (hw : ∀ c ∈ word, IsAscii c) {cs : List Char} :
    lowerCase cs = word ↔ cs.map lowerChar = word :=
  lowerAfter_eq_iff hw [] cs

end ReactiveContract.Text
