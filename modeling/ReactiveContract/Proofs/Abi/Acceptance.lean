import ReactiveContract.Proofs.Abi.Spelling
/-! Which texts are read as types: the documented ones, and a few more. -/
namespace ReactiveContract.Abi

/-- The types that interfaces are documented to use: how each may be spelled, and its canonical
spelling. -/
inductive Documented : String → String → Prop
  | plain {name : String} (h : name ∈ ["address", "bool", "string", "bytes"]) :
    Documented name name
  | uint : Documented "uint" "uint256"
  | int : Documented "int" "int256"
  | bytes {size : Nat} (h : 1 ≤ size ∧ size ≤ 32) :
    Documented ("bytes" ++ toString size) ("bytes" ++ toString size)
  | integer {name : String} (hname : name = "uint" ∨ name = "int") {bits : Nat}
    (h : 8 ≤ bits ∧ bits ≤ 256 ∧ bits % 8 = 0) :
    Documented (name ++ toString bits) (name ++ toString bits)

/-- What is read as a type beyond these: two more short names, and truth values with a suffix. -/
inductive Tolerated : String → String → Prop
  | byte : Tolerated "byte" "bytes1"
  | function : Tolerated "function" "bytes24"
  | bool {bits : Nat} (h : 1 ≤ bits) : Tolerated ("bool" ++ toString bits) ("bool" ++ toString bits)
  | scaledBool {bits places : Nat} (h : 1 ≤ bits ∧ 1 ≤ places) :
    Tolerated ("bool" ++ (toString bits ++ "x" ++ toString places))
      ("bool" ++ (toString bits ++ "x" ++ toString places))

namespace ValueType

/-- The short names of types that have a size. -/
inductive ShortName : String → ValueType → Prop
  | uint : ShortName "uint" (.uint 256)
  | int : ShortName "int" (.int 256)
  | byte : ShortName "byte" (.bytes (some 1))
  | function : ShortName "function" (.bytes (some 24))

theorem ofParts?_eq_some {base : String} {s : Suffix} {t : ValueType}
    (h : ofParts? base s = some t) : t.base = base ∧ t.suffix = s := by
  unfold ofParts? at h
  split at h <;> cases h <;> exact ⟨rfl, rfl⟩

/-- A name and a suffix that stand for a type spell it in full, unless they are a short name. -/
private theorem spelling_of_spelledOut {base : String} {s : Suffix} {t : ValueType}
    (h : ofParts? (TypeExpr.spelledOut base s).1 (TypeExpr.spelledOut base s).2 = some t) :
    base ++ s.text = t.text ∨ ShortName (base ++ s.text) t := by
  have hfull {s : Suffix} (h : ofParts? base s = some t) : base ++ s.text = t.text := by
    obtain ⟨rfl, rfl⟩ := ofParts?_eq_some h
    rfl
  cases s with
  | width n => exact .inl (hfull h)
  | scaled m n => exact .inl (hfull h)
  | none =>
    unfold TypeExpr.spelledOut at h
    dsimp only at h
    -- one case for each of the names that is spelled out, the fixed-point ones being no types here
    split at h
    · cases h
      exact .inr .int
    · cases h
      exact .inr .uint
    · cases h
    · cases h
    · cases h
      exact .inr .function
    · cases h
      exact .inr .byte
    · exact .inl (hfull h)

theorem ofText_of_shortName {text : String} {t : ValueType} (h : ShortName text t) :
    ofText text = .ok t := by
  have hname {name : String} (hb : name ≠ "") (ha : ∀ c ∈ name.toList, c.isAlpha = true)
      (hm : TypeExpr.isMeaningful (TypeExpr.spelledOut name .none).1
        (TypeExpr.spelledOut name .none).2 = true)
      (ht : ofParts? (TypeExpr.spelledOut name .none).1 (TypeExpr.spelledOut name .none).2
        = some t) : ofText name = .ok t := by
    have hspelled := ofText_spelled (s := .none) hb ha trivial hm ht
    rwa [Suffix.text, String.append_empty] at hspelled
  cases h with
  | uint => exact hname (by simp) (by simp) rfl rfl
  | int => exact hname (by simp) (by simp) rfl rfl
  | byte => exact hname (by simp) (by simp) rfl rfl
  | function => exact hname (by simp) (by simp) rfl rfl

/-- A text is read as a type exactly if it is the canonical spelling of it or a short name. -/
theorem ofText_eq_ok_iff {text : String} {t : ValueType} :
    ofText text = .ok t ↔ t.WellFormed ∧ text = t.text ∨ ShortName text t := by
  constructor
  · intro h
    obtain ⟨base, s, hread, -, hparts⟩ := exists_read?_of_ofText h
    obtain ⟨rfl, -, -⟩ := TypeExpr.spelled_of_read? hread
    rcases spelling_of_spelledOut hparts with hfull | hshort
    · exact .inl ⟨wellFormed_of_ofText h, hfull⟩
    · exact .inr hshort
  · rintro (⟨hwell, rfl⟩ | hshort)
    · exact ofText_text hwell
    · exact ofText_of_shortName hshort

theorem isWordWidth_iff {bits : Nat} :
    TypeExpr.isWordWidth bits = true ↔ 8 ≤ bits ∧ bits ≤ 256 ∧ bits % 8 = 0 := by
  simp [TypeExpr.isWordWidth, and_assoc]

private theorem documented_or_tolerated {t : ValueType} (h : t.WellFormed) :
    Documented t.text t.text ∨ Tolerated t.text t.text := by
  cases t with
  | address => exact .inl (.plain (by decide))
  | string => exact .inl (.plain (by decide))
  | bool suffix =>
    cases suffix with
    | none => exact .inl (.plain (by decide))
    | width n => exact .inr (.bool h)
    | scaled m n => exact .inr (.scaledBool h)
  | bytes size =>
    cases size with
    | none => exact .inl (.plain (by decide))
    | some n => exact .inl (.bytes h)
  | uint bits => exact .inl (.integer (.inl rfl) (isWordWidth_iff.mp h))
  | int bits => exact .inl (.integer (.inr rfl) (isWordWidth_iff.mp h))

/-- Truth values have no suffix in an ordinary type. -/
def IsOrdinary (t : ValueType) : Prop := ∀ suffix, t = .bool suffix → suffix = .none

/-- A documented text is read as an ordinary type, and only integers have documented short
names. -/
theorem exists_of_documented {s c : String} (h : Documented s c) :
    ∃ t, ofText s = .ok t ∧ t.text = c ∧ t.IsOrdinary ∧ s ≠ "byte" ∧ s ≠ "function" := by
  have hfull {t : ValueType} (hwell : t.WellFormed) (hordinary : t.IsOrdinary) :
      ∃ u, ofText t.text = .ok u ∧ u.text = t.text ∧ u.IsOrdinary
        ∧ t.text ≠ "byte" ∧ t.text ≠ "function" := by
    refine ⟨t, ofText_text hwell, rfl, hordinary, ?_, ?_⟩
    · intro hbyte
      have hread := ofText_text hwell
      rw [hbyte, ofText_of_shortName .byte] at hread
      cases hread
      exact absurd hbyte (by decide)
    · intro hfunction
      have hread := ofText_text hwell
      rw [hfunction, ofText_of_shortName .function] at hread
      cases hread
      exact absurd hfunction (by decide)
  cases h with
  | plain h =>
    simp only [List.mem_cons, List.not_mem_nil, or_false] at h
    rcases h with rfl | rfl | rfl | rfl
    · exact hfull (t := .address) trivial nofun
    · exact hfull (t := .bool .none) trivial fun suffix hs => (ValueType.bool.inj hs).symm
    · exact hfull (t := .string) trivial nofun
    · exact hfull (t := .bytes none) trivial nofun
  | uint => exact ⟨.uint 256, ofText_of_shortName .uint, rfl, nofun, by decide, by decide⟩
  | int => exact ⟨.int 256, ofText_of_shortName .int, rfl, nofun, by decide, by decide⟩
  | @bytes size h => exact hfull (t := .bytes (some size)) h nofun
  | @integer name hname bits h =>
    rcases hname with rfl | rfl
    · exact hfull (t := .uint bits) (isWordWidth_iff.mpr h) nofun
    · exact hfull (t := .int bits) (isWordWidth_iff.mpr h) nofun

theorem exists_of_tolerated {s c : String} (h : Tolerated s c) :
    ∃ t, ofText s = .ok t ∧ t.text = c ∧ (s = "byte" ∨ s = "function" ∨ ¬ t.IsOrdinary) := by
  have hfull (suffix : Suffix) (hpositive : suffix.Positive) (hsome : suffix ≠ .none) :
      ∃ t, ofText (ValueType.bool suffix).text = .ok t ∧ t.text = (ValueType.bool suffix).text
        ∧ ((ValueType.bool suffix).text = "byte" ∨ (ValueType.bool suffix).text = "function"
          ∨ ¬ t.IsOrdinary) :=
    ⟨.bool suffix, ofText_text hpositive, rfl, .inr (.inr fun hordinary =>
      hsome (hordinary suffix rfl))⟩
  cases h with
  | byte => exact ⟨.bytes (some 1), ofText_of_shortName .byte, rfl, .inl rfl⟩
  | function => exact ⟨.bytes (some 24), ofText_of_shortName .function, rfl, .inr (.inl rfl)⟩
  | @bool bits h => exact hfull (.width bits) h nofun
  | @scaledBool bits places h => exact hfull (.scaled bits places) h nofun

/-- The texts that are read as types are the documented and the tolerated ones, and their canonical
spellings are the listed ones; every other text is refused. So the documented texts are those that
are read wherever no text is tolerated, and only there. -/
theorem ofText_language (s : String) :
    (∀ c, (∃ t, ofText s = .ok t ∧ t.text = c) ↔ Documented s c ∨ Tolerated s c)
      ∧ ((∃ fault, ofText s = .error fault) ↔ ∀ c, ¬ Documented s c ∧ ¬ Tolerated s c)
      ∧ (((∃ t, ofText s = .ok t) ↔ ∃ c, Documented s c) ↔ ∀ c, ¬ Tolerated s c) := by
  have hread : ∀ c, (∃ t, ofText s = .ok t ∧ t.text = c) ↔ Documented s c ∨ Tolerated s c := by
    intro c
    constructor
    · rintro ⟨t, ht, rfl⟩
      rcases ofText_eq_ok_iff.mp ht with ⟨hwell, rfl⟩ | hshort
      · exact documented_or_tolerated hwell
      · cases hshort with
        | uint => exact .inl .uint
        | int => exact .inl .int
        | byte => exact .inr .byte
        | function => exact .inr .function
    · rintro (hd | ht)
      · obtain ⟨t, ht, hc, -⟩ := exists_of_documented hd
        exact ⟨t, ht, hc⟩
      · obtain ⟨t, ht, hc, -⟩ := exists_of_tolerated ht
        exact ⟨t, ht, hc⟩
  have hapart : ∀ c d, Tolerated s c → ¬ Documented s d := by
    intro c d ht hd
    obtain ⟨t, htext, -, hcase⟩ := exists_of_tolerated ht
    obtain ⟨u, hu, -, hordinary, hbyte, hfunction⟩ := exists_of_documented hd
    obtain rfl : t = u := Except.ok.inj (htext.symm.trans hu)
    rcases hcase with h | h | h
    · exact hbyte h
    · exact hfunction h
    · exact h hordinary
  refine ⟨hread, ?_, ?_⟩
  · cases hs : ofText s with
    | ok t =>
      have hnot := (hread t.text).mp ⟨t, hs, rfl⟩
      simp only [reduceCtorEq, exists_false, false_iff, not_forall]
      exact ⟨t.text, fun h => hnot.elim h.1 h.2⟩
    | error fault =>
      refine iff_of_true ⟨fault, rfl⟩ fun c => ?_
      rw [← not_or, ← hread c, hs]
      rintro ⟨t, ht, -⟩
      cases ht
  · constructor
    · intro hclaim c ht
      obtain ⟨t, hs, -⟩ := exists_of_tolerated ht
      obtain ⟨d, hd⟩ := hclaim.mp ⟨t, hs⟩
      exact hapart c d ht hd
    · intro hnone
      constructor
      · rintro ⟨t, ht⟩
        exact ⟨t.text, ((hread t.text).mp ⟨t, ht, rfl⟩).resolve_right (hnone t.text)⟩
      · rintro ⟨c, hc⟩
        obtain ⟨t, ht, -⟩ := (hread c).mpr (.inl hc)
        exact ⟨t, ht⟩

/-- Truth values with a width are no type of the language, but they are read as one. -/
theorem bool8_accepted :
    (∃ t, ofText "bool8" = .ok t ∧ t.text = "bool8") ∧ ∀ c, ¬ Documented "bool8" c := by
  have hread : ofText "bool8" = .ok (.bool (.width 8)) :=
    ofText_text (t := .bool (.width 8)) (by decide : 0 < 8)
  refine ⟨⟨.bool (.width 8), hread, rfl⟩, fun c hc => ?_⟩
  obtain ⟨t, ht, -, hordinary, -, -⟩ := exists_of_documented hc
  obtain rfl : .bool (.width 8) = t := Except.ok.inj (hread.symm.trans ht)
  have hnone : Suffix.width 8 = .none := hordinary (.width 8) rfl
  cases hnone

end ValueType
end ReactiveContract.Abi
