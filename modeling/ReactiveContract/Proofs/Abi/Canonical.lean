import Mathlib.Data.List.SplitBy
import ReactiveContract.Proofs.Abi.Acceptance
/-! Canonical spellings are a normal form of types: they are read without any rewriting, and two
texts have the same one exactly if they are read as the same type. -/
namespace ReactiveContract.Abi

/-- A word with its full spelling if it is a short name. -/
def spelledWord (word : List Char) : List Char :=
  let (base, suffix) := TypeExpr.spelledOut (String.ofList word) .none
  (base ++ suffix.text).toList

/-- A text with each short name in it spelled out that is a whole word. Words are the longest runs
of word characters; what stands between them is no short name. -/
def spellWords (isWord : Char → Bool) (text : String) : String :=
  String.ofList ((text.toList.splitBy fun c d => isWord c == isWord d).flatMap spelledWord)

namespace ValueType

/-- The canonical spelling of the type that a text names. -/
def canonicalText (text : String) : Except TypeFault String := (ofText text).map ValueType.text

theorem canonicalText_of_ofText {text : String} {t : ValueType} (h : ofText text = .ok t) :
    canonicalText text = .ok t.text := by
  rw [canonicalText, h]
  rfl

/-- A type is known by its name and its suffix. -/
private theorem ext_parts {t u : ValueType} (hbase : t.base = u.base)
    (hsuffix : t.suffix = u.suffix) :
    t = u := by
  have ht := t.ofParts?_parts
  rw [hbase, hsuffix, u.ofParts?_parts] at ht
  exact (Option.some.inj ht).symm

theorem text_injective {t u : ValueType} (ht : t.WellFormed) (hu : u.WellFormed)
    (h : t.text = u.text) : t = u := by
  have hread := ofText_text ht
  rw [h, ofText_text hu] at hread
  exact (Except.ok.inj hread).symm

/-- The canonical spelling of a type is its name with its suffix, as it stands. -/
theorem read?_text {t : ValueType} (h : t.WellFormed) :
    TypeExpr.read? t.text = some (.basic t.base t.suffix []) :=
  TypeExpr.read?_spelled t.base_ne_empty t.isAlpha_base h.suffix_positive

/-- No canonical spelling is a short name. -/
private theorem spelledOut_text {t : ValueType} (h : t.WellFormed) :
    TypeExpr.spelledOut t.text .none = (t.text, .none) := by
  have hread := ofText_text h
  have hother {name : String} {u : ValueType} (htext : t.text = name) (hname : ofText name = .ok u)
      (hne : u.text ≠ name) : False := by
    rw [htext, hname] at hread
    exact hne (Except.ok.inj hread ▸ htext)
  have hrefused {name : String} {fault : TypeFault} (htext : t.text = name)
      (hname : ofText name = .error fault) : False := by
    rw [htext, hname] at hread
    cases hread
  unfold TypeExpr.spelledOut
  dsimp only
  split
  · rename_i htext
    exact (hother htext (ofText_of_shortName .int) (by decide)).elim
  · rename_i htext
    exact (hother htext (ofText_of_shortName .uint) (by decide)).elim
  · rename_i htext
    exact (hrefused htext rfl).elim
  · rename_i htext
    exact (hrefused htext rfl).elim
  · rename_i htext
    exact (hother htext (ofText_of_shortName .function) (by decide)).elim
  · rename_i htext
    exact (hother htext (ofText_of_shortName .byte) (by decide)).elim
  · rfl

private theorem spelledWord_of_ofText {text : String} {t : ValueType} (h : ofText text = .ok t) :
    spelledWord text.toList = t.text.toList := by
  rw [spelledWord, String.ofList_toList]
  rcases ofText_eq_ok_iff.mp h with ⟨hwell, rfl⟩ | hshort
  · simp [spelledOut_text hwell, Suffix.text]
  · cases hshort <;> rfl

/-- The canonical spelling of the type that a text names is the text with its words spelled out. -/
private theorem spellWords_of_ofText {isWord : Char → Bool}
    (hword : ∀ c, c.isAlphanum = true → isWord c = true) {text : String} {t : ValueType}
    (h : ofText text = .ok t) : spellWords isWord text = t.text := by
  have hne : text.toList ≠ [] := by
    intro hnil
    rw [String.toList_eq_nil_iff.mp hnil] at h
    cases h
  have hwords : ∀ c ∈ text.toList, isWord c = true := fun c hc =>
    hword c (isAlphanum_of_ofText h c hc)
  have hchain : text.toList.IsChain fun c d => (isWord c == isWord d) = true := by
    apply List.Pairwise.isChain
    apply List.pairwise_of_forall_mem_list
    intro c hc d hd
    rw [hwords c hc, hwords d hd]
    rfl
  rw [spellWords, List.splitBy_of_isChain hne hchain, List.flatMap_singleton,
    spelledWord_of_ofText h, String.ofList_toList]

/-- A text that names a type, without dimensions, and its canonical spelling, which is the text with
its words spelled out, have the same name, suffix and dimensions, and are read as the same type. So
spelling a type canonically twice is the same as once, and two texts have one canonical spelling
exactly if they are read alike. -/
theorem ofText_normalForm {s : String} {t : ValueType} (h : ofText s = .ok t) :
    (∃ base suffix, TypeExpr.read? s = some (.basic base suffix [])
        ∧ TypeExpr.spelledOut base suffix = (t.base, t.suffix))
      ∧ canonicalText s = .ok t.text
      ∧ (∀ isWord : Char → Bool, (∀ c, c.isAlphanum = true → isWord c = true) →
        spellWords isWord s = t.text)
      ∧ TypeExpr.read? t.text = some (.basic t.base t.suffix [])
      ∧ ofText t.text = .ok t
      ∧ (canonicalText s).bind canonicalText = canonicalText s
      ∧ ∀ s' u, ofText s' = .ok u →
        (canonicalText s = canonicalText s' ↔ ofText s = ofText s')
          ∧ (ofText s = ofText s' ↔ t.base = u.base ∧ t.suffix = u.suffix) := by
  have hwell : t.WellFormed := wellFormed_of_ofText h
  have hcanonical : canonicalText s = .ok t.text := canonicalText_of_ofText h
  have hagain : canonicalText t.text = .ok t.text := canonicalText_of_ofText (ofText_text hwell)
  refine ⟨?_, hcanonical, fun isWord hword => spellWords_of_ofText hword h, read?_text hwell,
    ofText_text hwell, ?_, fun s' u hu => ⟨?_, ?_⟩⟩
  · obtain ⟨base, suffix, hread, -, hparts⟩ := exists_read?_of_ofText h
    obtain ⟨hbase, hsuffix⟩ := ofParts?_eq_some hparts
    exact ⟨base, suffix, hread, by rw [hbase, hsuffix]⟩
  · rw [hcanonical]
    exact hagain
  · rw [hcanonical, canonicalText_of_ofText hu, h, hu, Except.ok.injEq, Except.ok.injEq]
    exact ⟨text_injective hwell (wellFormed_of_ofText hu), fun htu => htu ▸ rfl⟩
  · rw [h, hu, Except.ok.injEq]
    constructor
    · rintro rfl
      exact ⟨rfl, rfl⟩
    · exact fun hparts => ext_parts hparts.1 hparts.2

/-- A short name and the name that it stands for have one canonical spelling. -/
theorem byte_normalForm :
    ofText "byte" = .ok (.bytes (some 1)) ∧ ofText "bytes1" = .ok (.bytes (some 1))
      ∧ (canonicalText "byte").bind canonicalText = canonicalText "byte"
      ∧ canonicalText "byte" = canonicalText "bytes1"
      ∧ spellWords Char.isAlphanum "byte" = "bytes1" := by
  have hshort : ofText "byte" = .ok (.bytes (some 1)) := ofText_of_shortName .byte
  have hfull : ofText "bytes1" = .ok (.bytes (some 1)) := rfl
  obtain ⟨-, -, hwords, -, -, hagain, hsame⟩ := ofText_normalForm hshort
  have hread : ofText "byte" = ofText "bytes1" := hshort.trans hfull.symm
  exact ⟨hshort, hfull, hagain, (hsame "bytes1" _ hfull).1.mpr hread, hwords _ fun _ h => h⟩

end ValueType
end ReactiveContract.Abi
