import ReactiveContract.Abi.ValueType
import ReactiveContract.Proofs.Text.Numeral
/-! The canonical spelling of a type reads back as the type. -/
namespace ReactiveContract.Abi
open Text

/-- No number of a suffix is zero. -/
def Suffix.Positive : Suffix → Prop
  | .none => True
  | .width n => 0 < n
  | .scaled m n => 0 < m ∧ 0 < n

theorem Suffix.toList_text_scaled (m n : Nat) :
    (Suffix.scaled m n).text.toList = (toString m).toList ++ 'x' :: (toString n).toList := by
  change ((toString m ++ "x") ++ toString n).toList = _
  simp only [String.toList_append, List.append_assoc]
  rfl

/-- A suffix has digits, and an `x` between its numbers. -/
theorem Suffix.isAlphanum_text {s : Suffix} {c : Char} (h : c ∈ s.text.toList) :
    c.isAlphanum = true := by
  have hdigit {n : Nat} (hc : c ∈ (toString n).toList) : c.isAlphanum = true := by
    simp [Char.isAlphanum, isDigit_of_mem_toString hc]
  cases s with
  | none => simp [Suffix.text] at h
  | width n => exact hdigit h
  | scaled m n =>
    rw [toList_text_scaled] at h
    rcases List.mem_append.mp h with hm | h
    · exact hdigit hm
    · rcases List.mem_cons.mp h with rfl | hn
      · decide
      · exact hdigit hn

/-- A name of letters and a suffix are one word. -/
theorem Suffix.isAlphanum_append {base : String} (h : ∀ c ∈ base.toList, c.isAlpha = true)
    (s : Suffix) : ∀ c ∈ (base ++ s.text).toList, c.isAlphanum = true := by
  intro c hc
  rw [String.toList_append] at hc
  rcases List.mem_append.mp hc with hc | hc
  · simp [Char.isAlphanum, h c hc]
  · exact isAlphanum_text hc

namespace TypeExpr

theorem scanNumber_numeral {n : Nat} (h : 0 < n) (rest : List Char)
    (hr : ∀ c ∈ rest.head?, c.isDigit = false) :
    scanNumber ((toString n).toList ++ rest) = some (n, rest) := by
  obtain ⟨c, tail, hn, hc⟩ := toString_eq_cons h
  have hd : ∀ d ∈ tail, d.isDigit = true := fun d hd =>
    isDigit_of_mem_toString (n := n) (by rw [hn]; exact List.mem_cons_of_mem c hd)
  obtain ⟨ht, hw⟩ := takeWhile_append_of_all hd hr
  rw [hn, List.cons_append, scanNumber, if_pos hc]
  simp only [ht, hw]
  rw [← hn, ofDigits_toString]

private theorem isDigit_of_one_le {c : Char} (h : '1' ≤ c ∧ c ≤ '9') : c.isDigit = true := by
  have hle : '0' ≤ c := Char.le_trans (by decide) h.1
  simpa [Char.isDigit, Char.le_def] using ⟨hle, h.2⟩

/-- What is scanned as a number is the numeral of that number. -/
theorem scanNumber_eq_some {cs rest : List Char} {n : Nat} (h : scanNumber cs = some (n, rest)) :
    0 < n ∧ cs = (toString n).toList ++ rest := by
  cases cs with
  | nil => simp [scanNumber] at h
  | cons c cs =>
    rw [scanNumber] at h
    split at h
    · rename_i hc
      obtain ⟨hn, hrest⟩ := Prod.mk.inj (Option.some.inj h)
      have hds : ∀ d ∈ c :: cs.takeWhile Char.isDigit, d.isDigit = true := by
        intro d hd
        rcases List.mem_cons.mp hd with rfl | hd
        · exact isDigit_of_one_le hc
        · exact List.all_eq_true.mp List.all_takeWhile d hd
      obtain ⟨hpos, hnumeral⟩ := toDigits_ofDigitChars hc hds
      rw [← ofDigits_filterMap hds, hn] at hpos hnumeral
      refine ⟨hpos, ?_⟩
      rw [Nat.toString_eq_repr, Nat.toList_repr, hnumeral, ← hrest, List.cons_append,
        List.takeWhile_append_dropWhile]
    · simp at h

private theorem scanSuffix_text {s : Suffix} (h : s.Positive) :
    scanSuffix s.text.toList = (s, []) := by
  cases s with
  | none => rfl
  | width n =>
    have hn := scanNumber_numeral (n := n) h [] (by simp)
    rw [List.append_nil] at hn
    simp only [Suffix.text, scanSuffix, hn]
  | scaled m n =>
    have hm := scanNumber_numeral h.1 ('x' :: (toString n).toList) (by simp)
    have hn := scanNumber_numeral h.2 [] (by simp)
    rw [List.append_nil] at hn
    simp only [Suffix.toList_text_scaled, scanSuffix, hm, hn]

/-- What is scanned as a suffix up to the end is the text of that suffix. -/
private theorem scanSuffix_eq_nil {cs : List Char} {s : Suffix} (h : scanSuffix cs = (s, [])) :
    s.Positive ∧ cs = s.text.toList := by
  unfold scanSuffix at h
  split at h
  · cases h
    exact ⟨trivial, rfl⟩
  · rename_i hm
    obtain ⟨hmpos, rfl⟩ := scanNumber_eq_some hm
    split at h
    · rename_i hn
      cases h
      obtain ⟨hnpos, rfl⟩ := scanNumber_eq_some hn
      rw [Suffix.toList_text_scaled, List.append_nil]
      exact ⟨⟨hmpos, hnpos⟩, rfl⟩
    · cases h
  · rename_i hm
    cases h
    obtain ⟨hmpos, rfl⟩ := scanNumber_eq_some hm
    exact ⟨hmpos, List.append_nil _⟩

private theorem not_isAlpha_of_isDigit {c : Char} (h : c.isDigit = true) : c.isAlpha = false := by
  have hle := isDigit_iff.mp h
  rw [Bool.eq_false_iff, ne_eq, isAlpha_iff]
  omega

private theorem head_text_not_isAlpha (s : Suffix) :
    ∀ c ∈ s.text.toList.head?, c.isAlpha = false := by
  have hnumeral (n : Nat) (rest : List Char) :
      ∀ c ∈ ((toString n).toList ++ rest).head?, c.isAlpha = false := by
    intro c hc
    rw [List.head?_append_of_ne_nil _ (toString_toList_ne_nil n)] at hc
    exact not_isAlpha_of_isDigit (isDigit_of_mem_toString (List.mem_of_mem_head? hc))
  cases s with
  | none => simp [Suffix.text]
  | width n => simpa [Suffix.text] using hnumeral n []
  | scaled m n =>
    rw [Suffix.toList_text_scaled]
    exact hnumeral m _

/-- A name followed by a suffix is read as just these two. -/
theorem read?_spelled {base : String} {s : Suffix} (hb : base ≠ "")
    (ha : ∀ c ∈ base.toList, c.isAlpha = true) (hs : s.Positive) :
    read? (base ++ s.text) = some (.basic base s []) := by
  obtain ⟨ht, hd⟩ := takeWhile_append_of_all ha (head_text_not_isAlpha s)
  have hne : base.toList ≠ [] := by simpa using hb
  have hbasic : scanBasic (base.toList ++ s.text.toList) = some (.basic base s [], []) := by
    unfold scanBasic
    rw [ht, hd, scanSuffix_text hs]
    split
    · contradiction
    · simp [scanDimensions]
  have hscan (fuel : Nat) : scan (fuel + 1) (base.toList ++ s.text.toList)
      = some (.basic base s [], []) := by
    obtain ⟨c, cs, hc⟩ := List.exists_cons_of_ne_nil hne
    rw [hc, List.cons_append] at hbasic ⊢
    rw [scan.eq_3 _ _ ?_, hbasic]
    rintro rest ⟨rfl, -⟩
    have := ha '(' (by rw [hc]; exact List.mem_cons_self)
    contradiction
  rw [read?, String.toList_append, hscan]

private theorem scanDimensions_eq_nil {fuel : Nat} {cs rest : List Char}
    (h : scanDimensions fuel cs = ([], rest)) : rest = cs := by
  unfold scanDimensions at h
  split at h
  · simp at h
  · split at h
    · simp at h
    · exact (congrArg Prod.snd h).symm
  · exact (congrArg Prod.snd h).symm

/-- A text that is read as a name with a suffix consists of just these two. -/
theorem spelled_of_read? {text base : String} {s : Suffix}
    (h : read? text = some (.basic base s [])) :
    text = base ++ s.text ∧ (∀ c ∈ base.toList, c.isAlpha = true) ∧ s.Positive := by
  have hbasic {cs : List Char} (h : scanBasic cs = some (.basic base s [], [])) :
      cs = base.toList ++ s.text.toList ∧ (∀ c ∈ base.toList, c.isAlpha = true)
        ∧ s.Positive := by
    unfold scanBasic at h
    split at h
    · simp at h
    · simp only [Option.some.injEq, Prod.mk.injEq, TypeExpr.basic.injEq] at h
      obtain ⟨⟨rfl, hs, hdimensions⟩, hrest⟩ := h
      have hend : (scanSuffix (cs.dropWhile Char.isAlpha)).2 = [] :=
        (scanDimensions_eq_nil (Prod.ext hdimensions hrest)).symm
      obtain ⟨hpos, hsuffix⟩ := scanSuffix_eq_nil (Prod.ext hs hend)
      rw [String.toList_ofList, ← hsuffix, List.takeWhile_append_dropWhile]
      exact ⟨rfl, List.all_eq_true.mp List.all_takeWhile, hpos⟩
  unfold read? at h
  split at h
  · rename_i hs
    rw [Option.some.inj h] at hs
    unfold scan at hs
    split at hs
    · simp at hs
    · obtain ⟨_, _, hs⟩ := Option.bind_eq_some_iff.mp hs
      simp at hs
    · obtain ⟨htext, hbase⟩ := hbasic hs
      exact ⟨String.toList_injective (by rw [htext, String.toList_append]), hbase⟩
  · simp at h

private theorem spelledOut_positive (base : String) {s : Suffix} (h : s.Positive) :
    (spelledOut base s).2.Positive := by
  cases s with
  | none =>
    simp only [spelledOut]
    split <;> simp [Suffix.Positive]
  | width n => exact h
  | scaled m n => exact h

end TypeExpr

namespace ValueType

/-- A type whose sizes the language has. -/
def WellFormed : ValueType → Prop
  | .address | .string | .bytes none => True
  | .bool suffix => suffix.Positive
  | .bytes (some size) => 0 < size ∧ size ≤ 32
  | .uint bits | .int bits => TypeExpr.isWordWidth bits = true

theorem WellFormed.suffix_positive {t : ValueType} (h : t.WellFormed) : t.suffix.Positive := by
  have hwidth {bits : Nat} (h : TypeExpr.isWordWidth bits = true) : 0 < bits := by
    simp only [TypeExpr.isWordWidth, Bool.and_eq_true, decide_eq_true_eq] at h
    omega
  cases t with
  | address => trivial
  | bool suffix => exact h
  | string => trivial
  | bytes size =>
    cases size with
    | none => trivial
    | some n => exact h.1
  | uint bits => exact hwidth h
  | int bits => exact hwidth h

private theorem wellFormed_of_ofParts? {base : String} {s : Suffix} {t : ValueType}
    (h : ofParts? base s = some t) (hm : TypeExpr.isMeaningful base s = true)
    (hp : s.Positive) : t.WellFormed := by
  unfold ofParts? at h
  split at h <;> simp only [Option.some.injEq, reduceCtorEq] at h <;> subst h
  · trivial
  · exact hp
  · trivial
  · trivial
  · simp only [TypeExpr.isMeaningful, decide_eq_true_eq] at hm
    exact ⟨hp, hm⟩
  · simpa [TypeExpr.isMeaningful, WellFormed] using hm
  · simpa [TypeExpr.isMeaningful, WellFormed] using hm

/-- A type is read from a name with a meaningful suffix and without dimensions. -/
theorem exists_read?_of_ofText {text : String} {t : ValueType} (h : ofText text = .ok t) :
    ∃ base s, TypeExpr.read? text = some (.basic base s [])
      ∧ TypeExpr.isMeaningful (TypeExpr.spelledOut base s).1 (TypeExpr.spelledOut base s).2 = true
      ∧ ofParts? (TypeExpr.spelledOut base s).1 (TypeExpr.spelledOut base s).2 = some t := by
  rw [ofText, ofJson] at h
  by_cases he : text = ""
  · simp [he] at h
  · rw [if_neg he, read] at h
    cases hr : TypeExpr.read? text with
    | none => simp [hr] at h
    | some e =>
      by_cases hv : e.isValid = true
      · simp only [hr, hv, if_true] at h
        cases e with
        | tuple components dimensions => simp [ofExpr] at h
        | basic base s dimensions =>
          cases dimensions with
          | cons d ds => simp [ofExpr] at h
          | nil =>
            simp only [TypeExpr.isValid] at hv
            simp only [ofExpr] at h
            cases ht : ofParts? (TypeExpr.spelledOut base s).1 (TypeExpr.spelledOut base s).2 with
            | none => simp [ht] at h
            | some u =>
              simp only [ht, Except.ok.injEq] at h
              exact ⟨base, s, rfl, hv, by rw [ht, h]⟩
      · simp [hr, hv] at h

/-- Only single words are read as types: arrays and tuples have other characters. -/
theorem isAlphanum_of_ofText {text : String} {t : ValueType} (h : ofText text = .ok t) :
    ∀ c ∈ text.toList, c.isAlphanum = true := by
  obtain ⟨base, s, hread, -⟩ := exists_read?_of_ofText h
  obtain ⟨rfl, hletters, -⟩ := TypeExpr.spelled_of_read? hread
  exact s.isAlphanum_append hletters

/-- Only types with sizes that the language has are read. -/
theorem wellFormed_of_ofText {text : String} {t : ValueType} (h : ofText text = .ok t) :
    t.WellFormed := by
  obtain ⟨base, s, hread, hmeaningful, hparts⟩ := exists_read?_of_ofText h
  obtain ⟨-, -, hpos⟩ := TypeExpr.spelled_of_read? hread
  have hp := TypeExpr.spelledOut_positive base hpos
  exact wellFormed_of_ofParts? hparts hmeaningful hp

/-- A name with a suffix is read as the type that the two stand for. -/
theorem ofText_spelled {base : String} {s : Suffix} {t : ValueType} (hb : base ≠ "")
    (ha : ∀ c ∈ base.toList, c.isAlpha = true) (hs : s.Positive)
    (hm : TypeExpr.isMeaningful (TypeExpr.spelledOut base s).1 (TypeExpr.spelledOut base s).2 = true)
    (ht : ofParts? (TypeExpr.spelledOut base s).1 (TypeExpr.spelledOut base s).2 = some t) :
    ofText (base ++ s.text) = .ok t := by
  have hread := TypeExpr.read?_spelled hb ha hs
  have hne : base ++ s.text ≠ "" := by simp [hb]
  rw [ofText, ofJson, if_neg hne, read, hread]
  simp [TypeExpr.isValid, ofExpr, hm, ht]

theorem base_ne_empty (t : ValueType) : t.base ≠ "" := by
  cases t <;> simp [base]

theorem isAlpha_base (t : ValueType) : ∀ c ∈ t.base.toList, c.isAlpha = true := by
  cases t <;> simp [base]

theorem ofParts?_parts (t : ValueType) : ofParts? t.base t.suffix = some t := by
  rcases t with _ | _ | _ | (_ | _) | _ | _ <;> rfl

/-- A canonical spelling is read as the type that it spells. -/
theorem ofText_text {t : ValueType} (h : t.WellFormed) : ofText t.text = .ok t := by
  have hspelled : TypeExpr.spelledOut t.base t.suffix = (t.base, t.suffix) := by
    rcases t with _ | (_ | _ | _) | _ | (_ | _) | _ | _ <;> rfl
  have hvalid : TypeExpr.isMeaningful t.base t.suffix = true := by
    rcases t with _ | _ | _ | (_ | size) | bits | bits
    · rfl
    · rfl
    · rfl
    · rfl
    · simpa [TypeExpr.isMeaningful, base, suffix] using h.2
    · exact h
    · exact h
  apply ofText_spelled t.base_ne_empty t.isAlpha_base h.suffix_positive
  · rw [hspelled]
    exact hvalid
  · rw [hspelled]
    exact t.ofParts?_parts

theorem text_eq_address_iff {t : ValueType} : t.text = "address" ↔ t = .address := by
  cases t <;> simp [text, base, suffix, Suffix.text, ← String.toList_inj]

theorem text_eq_bytes_iff {t : ValueType} : t.text = "bytes" ↔ t = .bytes none := by
  rcases t with _ | _ | _ | (_ | _) | _ | _ <;>
    simp [text, base, suffix, Suffix.text, ← String.toList_inj]

theorem text_eq_string_iff {t : ValueType} : t.text = "string" ↔ t = .string := by
  cases t <;> simp [text, base, suffix, Suffix.text, ← String.toList_inj]

end ValueType
end ReactiveContract.Abi
