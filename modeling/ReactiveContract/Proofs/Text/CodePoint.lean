import Mathlib.Data.List.Basic
import ReactiveContract.Text.CodePoint
/-! Texts that are spelled from code points read back as these, and have bytes in UTF-8 exactly if
there is no surrogate among them. -/
namespace ReactiveContract.Text

/-- A text is made of code points. -/
structure Spells (s : String) (ps : List Nat) : Prop where
  toList_eq : s.toList = ps.flatMap spell
  lt : ∀ p ∈ ps, p < 0x110000

theorem isSurrogate_iff {p : Nat} : isSurrogate p = true ↔ 0xd800 ≤ p ∧ p < 0xe000 := by
  simp [isSurrogate]

section Spellings
variable {cs : List Char}

theorem spellings_cons {c : Char} (h : c ≠ escapeMark) (cs : List Char) :
    spellings (c :: cs) = [c] :: spellings cs := by
  cases cs with
  | nil => rfl
  | cons d rest => rw [spellings, if_neg h]

theorem spellings_mark (c : Char) (cs : List Char) :
    spellings (escapeMark :: c :: cs) = [escapeMark, c] :: spellings cs := by
  rw [spellings, if_pos rfl]

/-- Without marks, every character stands for itself. -/
private theorem spellings_of_unmarked (h : escapeMark ∉ cs) : spellings cs = cs.map ([·]) := by
  induction cs with
  | nil => rfl
  | cons c cs ih =>
    rw [List.mem_cons, not_or] at h
    rw [spellings_cons (Ne.symm h.1), ih h.2, List.map_cons]

end Spellings

section Spelling
variable {p : Nat}

theorem toNat_ofNat_of_isValidChar (h : p.isValidChar) : (Char.ofNat p).toNat = p := by
  rw [Char.ofNat, dif_pos h]
  rfl

theorem toNat_ofNat (h : p < 0x110000) (hs : ¬ isSurrogate p = true) :
    (Char.ofNat p).toNat = p := by
  rw [isSurrogate_iff] at hs
  refine toNat_ofNat_of_isValidChar ?_
  rw [Nat.isValidChar]
  omega

/-- The sign of a surrogate tells which one it is. -/
theorem toNat_sign (h : isSurrogate p = true) :
    (Char.ofNat (p + signOffset)).toNat = p + signOffset := by
  rw [isSurrogate_iff] at h
  have hsign : 0x100000 ≤ p + signOffset ∧ p + signOffset < 0x100800 := by
    rw [signOffset]
    omega
  refine toNat_ofNat (by omega) ?_
  rw [isSurrogate_iff]
  omega

theorem sign_ne_escapeMark (h : isSurrogate p = true) :
    Char.ofNat (p + signOffset) ≠ escapeMark := by
  intro hmark
  have hnat := congrArg Char.toNat hmark
  have hvalue : escapeMark.toNat = 0x10ffff := by decide
  rw [toNat_sign h, hvalue, signOffset] at hnat
  rw [isSurrogate_iff] at h
  omega

theorem ofNat_ne_escapeMark (h : p < 0x110000) (hs : ¬ isSurrogate p = true)
    (hp : p ≠ escapeMark.toNat) : Char.ofNat p ≠ escapeMark := by
  intro hmark
  rw [← hmark, toNat_ofNat h hs] at hp
  exact hp rfl

private theorem pointOf_spell (h : p < 0x110000) : pointOf (spell p) = p := by
  unfold spell
  split
  case isTrue hs => rw [pointOf, if_neg (sign_ne_escapeMark hs), toNat_sign hs, Nat.add_sub_cancel]
  case isFalse hs =>
    split
    case isTrue hp => rw [hp, pointOf, if_pos rfl]
    case isFalse => exact toNat_ofNat h hs

/-- Surrogates are the only code points that are no characters. -/
private theorem scalar?_spell (h : p < 0x110000) :
    scalar? (spell p) = none ↔ isSurrogate p = true := by
  unfold spell
  split
  case isTrue hs => simp [scalar?, hs, sign_ne_escapeMark hs]
  case isFalse hs =>
    split
    case isTrue => simp [scalar?, hs]
    case isFalse hp => simp [scalar?, hs, ofNat_ne_escapeMark h hs hp]

private theorem spellings_spell_append (h : p < 0x110000) (cs : List Char) :
    spellings (spell p ++ cs) = spell p :: spellings cs := by
  unfold spell
  split
  case isTrue => exact spellings_mark _ cs
  case isFalse hs =>
    split
    case isTrue => exact spellings_mark _ cs
    case isFalse hp => exact spellings_cons (ofNat_ne_escapeMark h hs hp) cs

theorem spellings_flatMap_spell {ps : List Nat} (h : ∀ p ∈ ps, p < 0x110000) :
    spellings (ps.flatMap spell) = ps.map spell := by
  induction ps with
  | nil => rfl
  | cons p ps ih =>
    obtain ⟨hp, hps⟩ := List.forall_mem_cons.mp h
    rw [List.flatMap_cons, spellings_spell_append hp, ih hps, List.map_cons]

end Spelling

section Texts
variable {s : String} {ps : List Nat}

/-- A text tells its code points. -/
theorem Spells.points_eq (h : Spells s ps) : points s = ps := by
  rw [points, h.toList_eq, spellings_flatMap_spell h.lt, List.map_map]
  calc ps.map (pointOf ∘ spell) = ps.map id :=
        List.map_congr_left fun p hp => pointOf_spell (h.lt p hp)
    _ = ps := List.map_id ps

private theorem mapM_scalar?_eq_none {parts : List (List Char)} :
    parts.mapM scalar? = none ↔ ∃ spelling ∈ parts, scalar? spelling = none := by
  induction parts with
  | nil => simp
  | cons spelling parts ih =>
    rw [List.mapM_cons, List.exists_mem_cons_iff, ← ih]
    cases scalar? spelling <;> cases parts.mapM scalar? <;> simp

/-- A text has no bytes in UTF-8 exactly if there is a surrogate in it. -/
theorem Spells.utf8?_eq_none (h : Spells s ps) :
    utf8? s = none ↔ ∃ p ∈ ps, isSurrogate p = true := by
  simp only [utf8?, plain?, Option.map_eq_none_iff, mapM_scalar?_eq_none, h.toList_eq,
    spellings_flatMap_spell h.lt, List.mem_map, exists_exists_and_eq_and]
  exact exists_congr fun p => and_congr_right fun hp => scalar?_spell (h.lt p hp)

private theorem mapM_scalar?_of_unmarked {cs : List Char} (h : escapeMark ∉ cs) :
    (spellings cs).mapM scalar? = some cs := by
  rw [spellings_of_unmarked h]
  induction cs with
  | nil => rfl
  | cons c cs ih =>
    rw [List.mem_cons, not_or] at h
    simp [List.mapM_cons, scalar?, Ne.symm h.1, ih h.2]

private theorem mapM_scalar?_append (cs : List Char) {ds : List Char} (h : escapeMark ∉ ds) :
    (spellings (cs ++ ds)).mapM scalar? = ((spellings cs).mapM scalar?).map (· ++ ds) := by
  have hd := mapM_scalar?_of_unmarked h
  fun_induction spellings cs with
  | case1 => simpa using hd
  | case2 c =>
    -- A mark at the end spells nothing, whatever comes next.
    by_cases hc : c = escapeMark
    · subst hc
      cases ds with
      | nil => simp [spellings, scalar?]
      | cons d ds =>
        rw [List.mem_cons, not_or] at h
        simp [spellings_mark, scalar?, Ne.symm h.1]
    · simp [spellings_cons hc, scalar?, hc, hd]
  | case3 d rest ih =>
    rw [List.cons_append, List.cons_append, spellings_mark, List.mapM_cons, List.mapM_cons, ih]
    cases scalar? [escapeMark, d] <;> cases (spellings rest).mapM scalar? <;> rfl
  | case4 c d rest hc ih =>
    rw [List.cons_append, spellings_cons hc, List.mapM_cons, List.mapM_cons, ih]
    cases scalar? [c] <;> cases (spellings (d :: rest)).mapM scalar? <;> rfl

/-- What follows without marks has no part in what comes before. -/
private theorem plain?_append (a : String) {b : String} (h : escapeMark ∉ b.toList) :
    plain? (a ++ b) = (plain? a).map (· ++ b) := by
  simp only [plain?, String.toList_append, mapM_scalar?_append _ h, Option.map_map]
  exact congrFun (congrArg Option.map (funext fun cs => by simp)) _

theorem plain?_of_unmarked (h : escapeMark ∉ s.toList) : plain? s = some s := by
  rw [plain?, mapM_scalar?_of_unmarked h, Option.map_some, String.ofList_toList]

theorem utf8?_of_unmarked (h : escapeMark ∉ s.toList) : utf8? s = some s.toUTF8.data.toList := by
  rw [utf8?, plain?_of_unmarked h, Option.map_some]

theorem flatten_spellings (cs : List Char) : (spellings cs).flatten = cs := by
  fun_induction spellings cs with
  | case1 => rfl
  | case2 c => rfl
  | case3 d rest ih => rw [List.flatten_cons, ih]; rfl
  | case4 c d rest hc ih => rw [List.flatten_cons, ih]; rfl

private theorem eq_of_scalar? {spelling : List Char} {c : Char} (h : scalar? spelling = some c) :
    spelling = if c = escapeMark then [escapeMark, escapeMark] else [c] := by
  unfold scalar? at h
  split at h
  case h_1 d =>
    obtain ⟨hd, hc⟩ := Option.ite_none_left_eq_some.mp h
    rw [← Option.some.inj hc, if_neg hd]
  case h_2 mark d =>
    obtain ⟨⟨rfl, rfl⟩, hc⟩ := Option.ite_none_right_eq_some.mp h
    rw [← Option.some.inj hc, if_pos rfl]
  case h_3 => cases h

private theorem eq_map_of_mapM_scalar? {parts : List (List Char)} :
    ∀ {cs : List Char}, parts.mapM scalar? = some cs →
      parts = cs.map fun c => if c = escapeMark then [escapeMark, escapeMark] else [c] := by
  induction parts with
  | nil =>
    intro cs h
    cases h
    rfl
  | cons spelling parts ih =>
    intro cs h
    simp only [List.mapM_cons, Option.bind_eq_bind, Option.bind_eq_some_iff, Option.pure_def,
      Option.some.injEq] at h
    obtain ⟨c, hc, rest, hrest, rfl⟩ := h
    rw [List.map_cons, ← ih hrest, ← eq_of_scalar? hc]

/-- Different texts have different bytes. -/
theorem utf8?_injective {a b : String} {message : List UInt8} (ha : utf8? a = some message)
    (hb : utf8? b = some message) : a = b := by
  simp only [utf8?, plain?, Option.map_map, Option.map_eq_some_iff, Function.comp_apply] at ha hb
  obtain ⟨cs, hcs, hmessage⟩ := ha
  obtain ⟨ds, hds, hsame⟩ := hb
  have hbytes : (String.ofList cs).toUTF8 = (String.ofList ds).toUTF8 :=
    ByteArray.ext (Array.toList_inj.mp (hmessage.trans hsame.symm))
  obtain rfl := String.ofList_injective (String.toByteArray_inj.mp hbytes)
  have hparts := (eq_map_of_mapM_scalar? hcs).trans (eq_map_of_mapM_scalar? hds).symm
  apply String.toList_injective
  rw [← flatten_spellings a.toList, hparts, flatten_spellings]

theorem utf8?_append_eq_none (a : String) {b : String} (h : escapeMark ∉ b.toList) :
    utf8? (a ++ b) = none ↔ utf8? a = none := by
  simp only [utf8?, plain?_append a h, Option.map_eq_none_iff]

end Texts
end ReactiveContract.Text
