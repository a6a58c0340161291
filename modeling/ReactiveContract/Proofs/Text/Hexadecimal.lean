import Mathlib.Data.List.Forall2
import Mathlib.Data.List.Induction
import Mathlib.Tactic.IntervalCases
import ReactiveContract.Address
import ReactiveContract.Proofs.Text.Numeral
/-! Hexadecimal digits are read back as the number that they write, whatever their letter case. -/
namespace ReactiveContract
open Text

namespace Text

theorem hexValue?_hexDigit : ∀ {d : Nat}, d < 16 → hexValue? (hexDigit d) = some d := by
  decide

private theorem hexValue?_toUpper_hexDigit :
    ∀ {d : Nat}, d < 16 → hexValue? (hexDigit d).toUpper = some d := by
  decide

theorem hexValue?_toLower (c : Char) : hexValue? c.toLower = hexValue? c := by
  unfold Char.toLower
  split
  · rename_i hc
    have hge : 65 ≤ c.toNat := hc.1
    have hle : c.toNat ≤ 90 := hc.2
    have hofNat : c = Char.ofNat c.toNat := (Char.ofNat_toNat c).symm
    generalize c.toNat = n at hofNat hge hle
    subst hofNat
    interval_cases n <;> rfl
  · rfl

theorem isAlphanum_of_hexValue? {c : Char} (h : (hexValue? c).isSome = true) :
    c.isAlphanum = true := by
  have hsmall : 'a'.val.toNat = 97 ∧ 'f'.val.toNat = 102 := ⟨rfl, rfl⟩
  have hcapital : 'A'.val.toNat = 65 ∧ 'F'.val.toNat = 70 := ⟨rfl, rfl⟩
  have hc : c.val.toNat = c.toNat := rfl
  unfold hexValue? at h
  simp only [Char.isAlphanum, Char.isDigit, Bool.or_eq_true, Bool.and_eq_true, isAlpha_iff,
    decide_eq_true_eq, ge_iff_le, Char.le_def, UInt32.le_iff_toNat_le] at h ⊢
  split at h
  · omega
  · split at h
    · omega
    · split at h
      · omega
      · simp at h

private theorem toLower_of_hexValue? {c : Char} {d : Nat} (h : hexValue? c = some d) :
    c.toLower = hexDigit d := by
  have hdigits : ∀ n < 0x80, ∀ d ∈ hexValue? (Char.ofNat n),
      (Char.ofNat n).toLower = hexDigit d := by decide
  have hsmall : c.toNat < 0x80 := by
    have halphanum := isAlphanum_of_hexValue? (Option.isSome_of_mem h)
    simp only [Char.isAlphanum, Bool.or_eq_true, isAlpha_iff, isDigit_iff] at halphanum
    omega
  have hc := hdigits c.toNat hsmall
  rw [Char.ofNat_toNat] at hc
  exact hc d h

private theorem hexValue?_lt {c : Char} {d : Nat} (h : hexValue? c = some d) : d < 16 := by
  have hdigit : '0'.val.toNat = 48 ∧ '9'.val.toNat = 57 ∧ '0'.toNat = 48 := ⟨rfl, rfl, rfl⟩
  have hsmall : 'a'.val.toNat = 97 ∧ 'f'.val.toNat = 102 ∧ 'a'.toNat = 97 := ⟨rfl, rfl, rfl⟩
  have hcapital : 'A'.val.toNat = 65 ∧ 'F'.val.toNat = 70 ∧ 'A'.toNat = 65 := ⟨rfl, rfl, rfl⟩
  have hc : c.val.toNat = c.toNat := rfl
  unfold hexValue? at h
  simp only [Char.le_def, UInt32.le_iff_toNat_le] at h
  split at h
  · have hd := Option.some.inj h
    omega
  · split at h
    · have hd := Option.some.inj h
      omega
    · split at h
      · have hd := Option.some.inj h
        omega
      · simp at h

theorem hexDigits_succ (width n : Nat) :
    hexDigits (width + 1) n = hexDigits width (n / 16) ++ [hexDigit (n % 16)] := by
  unfold hexDigits
  rw [List.range_succ, List.map_append]
  congr 1
  · apply List.map_congr_left
    intro i hi
    have hi' : i < width := List.mem_range.mp hi
    have hk : width + 1 - 1 - i = width - 1 - i + 1 := by omega
    rw [hk, Nat.pow_eq, Nat.pow_eq, Nat.pow_succ, Nat.mul_comm, Nat.div_div_eq_div_mul]
  · simp

theorem ofHexDigits_append (ds : List Nat) (d : Nat) :
    ofHexDigits (ds ++ [d]) = 16 * ofHexDigits ds + d := by
  simp [ofHexDigits]

theorem ofHexDigits_lt {ds : List Nat} (h : ∀ d ∈ ds, d < 16) :
    ofHexDigits ds < Nat.pow 16 ds.length := by
  induction ds using List.reverseRecOn with
  | nil => decide
  | append_singleton ds d ih =>
    have hd : d < 16 := h d (by simp)
    have hds := ih fun e he => h e (by simp [he])
    rw [ofHexDigits_append, List.length_append, List.length_singleton]
    rw [Nat.pow_eq] at hds
    rw [Nat.pow_eq, Nat.pow_succ]
    omega

/-- Digits are those of the number that they write. -/
theorem hexDigits_ofHexDigits {ds : List Nat} (h : ∀ d ∈ ds, d < 16) :
    hexDigits ds.length (ofHexDigits ds) = ds.map hexDigit := by
  induction ds using List.reverseRecOn with
  | nil => rfl
  | append_singleton ds d ih =>
    have hd : d < 16 := h d (by simp)
    have hdiv : (16 * ofHexDigits ds + d) / 16 = ofHexDigits ds := by omega
    have hmod : (16 * ofHexDigits ds + d) % 16 = d := by omega
    rw [List.length_append, List.length_singleton, ofHexDigits_append, hexDigits_succ, hdiv, hmod,
      ih fun e he => h e (by simp [he])]
    simp

/-- The digits of a number as numbers. -/
theorem exists_digits (width n : Nat) :
    ∃ ds : List Nat, ds.length = width ∧ (∀ d ∈ ds, d < 16) ∧ hexDigits width n = ds.map hexDigit
      ∧ ofHexDigits ds = n % Nat.pow 16 width := by
  induction width generalizing n with
  | zero =>
    refine ⟨[], rfl, by simp, rfl, ?_⟩
    rw [Nat.pow_eq, Nat.pow_zero, Nat.mod_one]
    rfl
  | succ width ih =>
    obtain ⟨ds, hlen, hlt, hds, hn⟩ := ih (n / 16)
    refine ⟨ds ++ [n % 16], by simp [hlen], ?_, by simp [hexDigits_succ, hds], ?_⟩
    · intro d hd
      rcases List.mem_append.mp hd with hd | hd
      · exact hlt d hd
      · rw [List.mem_singleton.mp hd]
        exact Nat.mod_lt _ (by decide)
    · rw [ofHexDigits_append, hn, Nat.pow_eq, Nat.pow_eq, Nat.pow_succ, Nat.mul_comm _ 16,
        Nat.mod_mul]
      omega

theorem mapM_hexValue?_eq_some {cs : List Char} {ds : List Nat} :
    cs.mapM hexValue? = some ds ↔ List.Forall₂ (fun c d => hexValue? c = some d) cs ds := by
  induction cs generalizing ds with
  | nil =>
    rw [List.mapM_nil, List.forall₂_nil_left_iff]
    exact Option.some.injEq [] ds ▸ eq_comm
  | cons c cs ih =>
    simp only [List.mapM_cons, Option.bind_eq_bind, Option.bind_eq_some_iff, ih,
      List.forall₂_cons_left_iff]
    constructor
    · intro h
      obtain ⟨d, hd, rest, hrest, heq⟩ := h
      exact ⟨d, rest, hd, hrest, (Option.some.inj heq).symm⟩
    · intro h
      obtain ⟨d, rest, hd, hrest, rfl⟩ := h
      exact ⟨d, hd, rest, hrest, rfl⟩

theorem lt_of_mapM_hexValue? {cs : List Char} {ds : List Nat} (h : cs.mapM hexValue? = some ds) :
    ∀ d ∈ ds, d < 16 := by
  intro d hd
  have hread := mapM_hexValue?_eq_some.mp h
  obtain ⟨i, hi, rfl⟩ := List.getElem_of_mem hd
  exact hexValue?_lt (hread.get (hread.length_eq ▸ hi) hi)

theorem mapM_hexValue?_map_hexDigit {ds : List Nat} (h : ∀ d ∈ ds, d < 16) :
    (ds.map hexDigit).mapM hexValue? = some ds := by
  rw [mapM_hexValue?_eq_some, List.forall₂_map_left_iff, List.forall₂_same]
  exact fun d hd => hexValue?_hexDigit (h d hd)

/-- Two digits for each byte, all of them below sixteen. -/
theorem length_nibbles (bytes : List UInt8) : (nibbles bytes).length = 2 * bytes.length := by
  induction bytes with
  | nil => rfl
  | cons b bytes ih =>
    change (nibbles bytes).length + 1 + 1 = _
    rw [ih, List.length_cons]
    omega

theorem nibbles_injective {bytes others : List UInt8} (h : nibbles bytes = nibbles others) :
    bytes = others := by
  induction bytes generalizing others with
  | nil =>
    cases others with
    | nil => rfl
    | cons b others => cases h
  | cons b bytes ih =>
    cases others with
    | nil => cases h
    | cons c others =>
      obtain ⟨hhigh, hrest⟩ := List.cons.inj h
      obtain ⟨hlow, hrest⟩ := List.cons.inj hrest
      have hbyte : b.toNat = c.toNat := by omega
      rw [UInt8.toNat_inj.mp hbyte, ih hrest]

theorem lt_of_mem_nibbles {bytes : List UInt8} {d : Nat} (h : d ∈ nibbles bytes) : d < 16 := by
  obtain ⟨b, -, hb⟩ := List.mem_flatMap.mp h
  have hlt : b.toNat < 256 := b.toNat_lt
  simp only [List.mem_cons, List.not_mem_nil, or_false] at hb
  omega

end Text

theorem Keccak256.length_hash (message : List UInt8) : (hash message).length = 32 := by
  simp [hash, wordBytes, List.length_flatMap]

namespace Address

/-- Digits of either case are read as they were. -/
private theorem forall₂_checksum {hash : List Nat} {ds : List Nat} (h : ∀ d ∈ ds, d < 16)
    (hlen : ds.length ≤ hash.length) :
    List.Forall₂ (fun c d => hexValue? c = some d)
      ((ds.map hexDigit).zipWith (fun c h => if 8 ≤ h then c.toUpper else c) hash) ds := by
  induction ds generalizing hash with
  | nil => simp
  | cons d ds ih =>
    cases hash with
    | nil => simp at hlen
    | cons k hash =>
      have hd : d < 16 := h d (by simp)
      refine .cons ?_ (ih (fun e he => h e (by simp [he])) (by simpa using hlen))
      dsimp only
      split
      · exact hexValue?_toUpper_hexDigit hd
      · exact hexValue?_hexDigit hd

/-- The checksummed digits of an address have its value. -/
theorem exists_checksumDigits (a : Address) :
    ∃ ds, ds.length = 40 ∧ ofHexDigits ds = a.word.toNat
      ∧ List.Forall₂ (fun c d => hexValue? c = some d) a.checksumDigits ds := by
  obtain ⟨ds, hlen, hlt, hds, hn⟩ := exists_digits 40 a.word.toNat
  refine ⟨ds, hlen, ?_, ?_⟩
  · rw [hn]
    exact Nat.mod_eq_of_lt a.word.isLt
  · unfold checksumDigits digits
    rw [hds]
    apply forall₂_checksum hlt
    rw [length_nibbles, Keccak256.length_hash, hlen]
    decide

/-- The checksummed text of an address is read as that address. -/
theorem read?_text (a : Address) : read? a.text = some a := by
  obtain ⟨ds, hlen, hword, hds⟩ := a.exists_checksumDigits
  have hread : a.checksumDigits.mapM hexValue? = some ds := mapM_hexValue?_eq_some.mpr hds
  have htext : withoutMark a.text.toList = a.checksumDigits := by
    rw [text, String.toList_ofList]
    rfl
  unfold read?
  rw [htext, hread]
  simp [hlen, hword]

theorem text_injective {a b : Address} (h : a.text = b.text) : a = b := by
  have ha := read?_text a
  rw [h, read?_text b] at ha
  exact (Option.some.inj ha).symm

theorem eq_of_toNat {a b : Address} (h : a.word.toNat = b.word.toNat) : a = b := by
  cases a
  cases b
  exact congrArg mk (BitVec.eq_of_toNat_eq h)

/-- The number that hexadecimal digits stand for, which a mark may precede. -/
def number? (text : String) : Option Nat :=
  ((withoutMark text.toList).mapM hexValue?).map ofHexDigits

/-- An address is read from the forty digits of its number. -/
theorem exists_digits_of_read? {text : String} {a : Address} (h : read? text = some a) :
    ∃ ds, (withoutMark text.toList).mapM hexValue? = some ds ∧ ds.length = 40
      ∧ a.word.toNat = ofHexDigits ds := by
  unfold read? at h
  obtain ⟨ds, hds, hread⟩ := Option.bind_eq_some_iff.mp h
  obtain ⟨hlen, ha⟩ := Option.ite_none_right_eq_some.mp hread
  have hbound : ofHexDigits ds < 2 ^ 160 := by
    have hlt := ofHexDigits_lt (lt_of_mapM_hexValue? hds)
    rw [hlen, Nat.pow_eq] at hlt
    exact hlt
  refine ⟨ds, hds, hlen, ?_⟩
  rw [← Option.some.inj ha, BitVec.toNat_ofNat, Nat.mod_eq_of_lt hbound]

/-- An address has the number of the text that it is read from. -/
theorem number?_of_read? {text : String} {a : Address} (h : read? text = some a) :
    number? text = some a.word.toNat := by
  obtain ⟨ds, hds, -, hword⟩ := exists_digits_of_read? h
  rw [number?, hds, Option.map_some, hword]

theorem number?_text (a : Address) : number? a.text = some a.word.toNat :=
  number?_of_read? a.read?_text

theorem isAlphanum_text {a : Address} {c : Char} (h : c ∈ a.text.toList) :
    c.isAlphanum = true := by
  rw [text, String.toList_ofList] at h
  obtain ⟨ds, -, -, hds⟩ := a.exists_checksumDigits
  rcases List.mem_cons.mp h with rfl | h
  · rfl
  · rcases List.mem_cons.mp h with rfl | h
    · rfl
    · obtain ⟨i, hi, rfl⟩ := List.getElem_of_mem h
      have hvalue := hds.get hi (hds.length_eq ▸ hi)
      exact isAlphanum_of_hexValue? (Option.isSome_of_mem hvalue)

/-- The digits of a text in lower case, without a mark before them. -/
def lowered (text : String) : List Char := (withoutMark text.toList).map Char.toLower

/-- Forty hexadecimal digits, which a mark may precede. -/
def IsSpelled (text : String) : Prop :=
  (lowered text).length = 40 ∧ ∀ c ∈ lowered text, (hexValue? c).isSome = true

instance : DecidablePred IsSpelled := fun text =>
  decidable_of_iff ((lowered text).length = 40
    ∧ (lowered text).all (fun c => (hexValue? c).isSome) = true) (by simp [IsSpelled])

/-- One address up to the letter case of its digits and the mark. Any other text stays as it is. -/
def Respelled (s t : String) : Prop := s = t ∨ IsSpelled s ∧ lowered s = lowered t

theorem mapM_hexValue?_lowered (text : String) :
    (lowered text).mapM hexValue? = (withoutMark text.toList).mapM hexValue? := by
  have hsame : hexValue? ∘ Char.toLower = hexValue? := funext hexValue?_toLower
  rw [lowered, List.mapM_map]
  exact congrArg (List.mapM · _) hsame

theorem IsSpelled.exists_read? {text : String} (h : IsSpelled text) :
    ∃ a, read? text = some a := by
  obtain ⟨hlen, hdigits⟩ := h
  obtain ⟨ds, hds⟩ : ∃ ds, List.Forall₂ (fun c d => hexValue? c = some d) (lowered text) ds := by
    generalize lowered text = cs at hdigits
    clear hlen
    induction cs with
    | nil => exact ⟨[], .nil⟩
    | cons c cs ih =>
      obtain ⟨d, hd⟩ := Option.isSome_iff_exists.mp (hdigits c (by simp))
      obtain ⟨ds, hds⟩ := ih fun e he => hdigits e (by simp [he])
      exact ⟨d :: ds, .cons hd hds⟩
  have hread : (withoutMark text.toList).mapM hexValue? = some ds := by
    rw [← mapM_hexValue?_lowered, mapM_hexValue?_eq_some.mpr hds]
  have hlength : ds.length = 40 := hds.length_eq ▸ hlen
  exact ⟨_, by rw [read?, hread]; exact if_pos hlength⟩

/-- The text of some lower-case digits after a mark, with a letter in upper case where the hash of
the digits has a digit of at least eight. -/
def checksummed (digits : List Char) : String :=
  let hash := nibbles (Keccak256.hash (digits.map fun c => UInt8.ofNat c.toNat))
  String.ofList ('0' :: 'x' :: digits.zipWith (fun c h => if 8 ≤ h then c.toUpper else c) hash)

/-- The digits that an address is hashed with are those of every text that it is read from, in
lower case and without a mark. -/
theorem digits_of_read? {text : String} {a : Address} (h : read? text = some a) :
    a.digits = lowered text := by
  obtain ⟨ds, hds, hlen, hword⟩ := exists_digits_of_read? h
  have hlower : (withoutMark text.toList).map Char.toLower = ds.map hexDigit := by
    rw [← List.forall₂_eq_eq_eq, List.forall₂_map_left_iff, List.forall₂_map_right_iff]
    exact (mapM_hexValue?_eq_some.mp hds).imp fun _ _ hd => toLower_of_hexValue? hd
  calc a.digits
      = hexDigits ds.length (ofHexDigits ds) := by rw [digits, hword, hlen]
    _ = ds.map hexDigit := hexDigits_ofHexDigits (lt_of_mapM_hexValue? hds)
    _ = lowered text := hlower.symm

theorem text_of_read? {text : String} {a : Address} (h : read? text = some a) :
    a.text = checksummed (lowered text) := by
  rw [← digits_of_read? h]
  rfl

theorem exists_read?_iff {text : String} : (∃ a, read? text = some a) ↔ IsSpelled text := by
  constructor
  · intro h
    obtain ⟨a, ha⟩ := h
    obtain ⟨ds, hlen, hlt, hds, -⟩ := exists_digits 40 a.word.toNat
    have hlower : lowered text = ds.map hexDigit := (digits_of_read? ha).symm.trans hds
    constructor
    · rw [hlower, List.length_map, hlen]
    · rw [hlower]
      intro c hc
      obtain ⟨d, hd, rfl⟩ := List.mem_map.mp hc
      exact Option.isSome_of_mem (hexValue?_hexDigit (hlt d hd))
  · exact IsSpelled.exists_read?

/-- Two texts of addresses are checksummed alike exactly if they stand for the same number. -/
theorem text_eq_iff {s t : String} {a b : Address} (ha : read? s = some a)
    (hb : read? t = some b) : a.text = b.text ↔ number? s = number? t := by
  rw [number?_of_read? ha, number?_of_read? hb, Option.some.injEq]
  constructor
  · intro h
    rw [text_injective h]
  · intro h
    rw [eq_of_toNat h]

private theorem exists_mark (cs : List Char) :
    ∃ mark, cs = mark ++ withoutMark cs ∧ ∀ c ∈ mark, c.isAlphanum = true := by
  unfold withoutMark
  split
  · exact ⟨['0', 'x'], rfl, List.all_eq_true.mp rfl⟩
  · exact ⟨['0', 'X'], rfl, List.all_eq_true.mp rfl⟩
  · exact ⟨[], rfl, List.all_eq_true.mp rfl⟩

theorem IsSpelled.isAlphanum {text : String} (h : IsSpelled text) :
    ∀ c ∈ text.toList, c.isAlphanum = true := by
  obtain ⟨mark, hmark, halphanum⟩ := exists_mark text.toList
  intro c hc
  rw [hmark] at hc
  rcases List.mem_append.mp hc with hc | hc
  · exact halphanum c hc
  · have hlower := h.2 c.toLower (List.mem_map_of_mem hc)
    rw [hexValue?_toLower] at hlower
    exact isAlphanum_of_hexValue? hlower

theorem IsSpelled.ne_empty {text : String} (h : IsSpelled text) : text ≠ "" := by
  rintro rfl
  exact absurd h.1 (by decide)

namespace Respelled
variable {s t : String}

theorem symm (h : Respelled s t) : Respelled t s := by
  rcases h with rfl | ⟨hs, hst⟩
  · exact .inl rfl
  · exact .inr ⟨by rwa [IsSpelled, ← hst], hst.symm⟩

theorem read?_eq (h : Respelled s t) : read? s = read? t := by
  rcases h with rfl | ⟨-, hst⟩
  · rfl
  · unfold read?
    rw [← mapM_hexValue?_lowered, hst, mapM_hexValue?_lowered]

end Respelled

end Address
end ReactiveContract
