import ReactiveContract.Proofs.Abi.Respelling
import ReactiveContract.Proofs.Binding.Resolution
import ReactiveContract.Proofs.Binding.Scan
import ReactiveContract.Proofs.Text.Hexadecimal
/-! Mappings that differ in spelling are resolved alike. -/
namespace ReactiveContract
open Abi Document Text Outcome

namespace Expression

private theorem step_outside_of_isAlphanum {c : Char} (h : c.isAlphanum = true) (rest : List Char) :
    step .outside c rest = some .outside := by
  have hne : ∀ d : Char, d.isAlphanum = false → c ≠ d := by
    rintro d hd rfl
    rw [h] at hd
    cases hd
  have hbreak : isLineBreak c = false :=
    isLineBreak_eq_false.mpr ⟨hne '\n' (by decide), hne '\r' (by decide)⟩
  have hquote : isQuote c = false := by
    simp [isQuote, hne '"' (by decide), hne '\'' (by decide)]
  have hseparator : isSeparator c = false := by
    simp [isSeparator, hne ';' (by decide), hne '\x7b' (by decide), hne '\x7d' (by decide)]
  have hcomment : opensComment c rest = false :=
    opensComment_eq_false.mpr (absurd · (hne '/' (by decide)))
  exact step_outside_iff.mpr (.inr ⟨hquote, ⟨hbreak, hseparator⟩, hcomment, rfl⟩)

theorem isSingle_of_isAlphanum {cs : List Char} (h : ∀ c ∈ cs, c.isAlphanum = true) :
    isSingle cs = true := by
  have hscan : scan .outside cs = some .outside := by
    induction cs with
    | nil => rfl
    | cons c cs ih =>
      rw [scan, step_outside_of_isAlphanum (h c (by simp)), Option.bind_some]
      exact ih fun d hd => h d (by simp [hd])
  simp [isSingle, hscan]

/-- One expression up to the blanks around it. -/
def Respelled (s t : String) : Prop := trim s = trim t

theorem Respelled.acceptable {s t : String} (h : Respelled s t) (hs : Acceptable s) :
    Acceptable t := by
  have htrim : trim s = trim t := h
  unfold Acceptable at hs ⊢
  rwa [htrim] at hs

end Expression

/-- One literal up to the blanks around it and, for an address, to its spelling. -/
def Source.LiteralRespelled (ofAddress : Prop) (s t : String) : Prop :=
  Expression.Respelled s t ∨ ofAddress ∧ Address.Respelled (trim s) (trim t)

/-- Sources that differ in the literal alone. Of what is unbound no value counts. -/
inductive Source.Rel (L : String → String → Prop) : Source → Source → Prop
  | fixed {s t : String} (h : L s t) : Rel L (.fixed s) (.fixed t)
  | topic (index : Int) : Rel L (.topic index) (.topic index)
  | data (field : String) : Rel L (.data field) (.data field)
  | unbound (zero other : Option String) : Rel L (.unbound zero) (.unbound other)

/-- Mappings that differ in the spelling of the type and of the literal. -/
def Mapping.Rel (m n : Mapping) : Prop :=
  ∃ type source, n = { m with type, source } ∧ ValueType.Respelled m.type type
    ∧ Source.Rel (Source.LiteralRespelled (m.type = "address")) m.source source

/-- Documents of sources that differ in the names of fields and in the literal. -/
structure Source.Respelled (L : String → String → Prop) (f g : Fields) : Prop where
  tag : tagKey.Rel Eq f g
  literal : literalKey.Rel (Json.TextRel L) f g
  topic : topicKey.Rel Eq f g
  field : fieldKey.Rel Eq f g

/-- Documents of mappings that differ in the names of fields and in the spelling of the type and of
the literal. -/
structure Mapping.Respelled (f g : Fields) : Prop where
  target : targetKey.Rel Eq f g
  type : typeKey.Rel (Json.TextRel ValueType.Respelled) f g
  source : sourceKey.Rel (Json.RecordRel (Source.Respelled
    (Source.LiteralRespelled (typeKey.value? f = some (.str "address"))))) f g

namespace Source
variable {L : String → String → Prop} {f g : Fields}

theorem LiteralRespelled.acceptable {ofAddress : Prop} {s t : String}
    (h : LiteralRespelled ofAddress s t) (hs : Expression.Acceptable s) :
    Expression.Acceptable t := by
  rcases h with hblank | ⟨-, heq | ⟨hspelled, hlowered⟩⟩
  · exact hblank.acceptable hs
  · exact Expression.Respelled.acceptable heq hs
  · have ht : Address.IsSpelled (trim t) := by rwa [Address.IsSpelled, ← hlowered]
    exact ⟨ht.ne_empty, Expression.isSingle_of_isAlphanum ht.isAlphanum⟩

theorem LiteralRespelled.symm {ofAddress other : Prop} {s t : String}
    (h : LiteralRespelled ofAddress s t) (hof : ofAddress → other) :
    LiteralRespelled other t s := by
  rcases h with hblank | ⟨haddress, hspelled⟩
  · exact .inl (Eq.symm hblank)
  · exact .inr ⟨hof haddress, hspelled.symm⟩

/-- Both settle to the same text. -/
private theorem LiteralRespelled.settledLiteral_eq {ofAddress : Prop} {s t type : String}
    (h : LiteralRespelled ofAddress s t) (hof : ofAddress → type = "address") :
    settledLiteral type s = settledLiteral type t := by
  unfold settledLiteral
  rcases h with hblank | ⟨haddress, heq | ⟨hspelled, hlowered⟩⟩
  · rw [show trim s = trim t from hblank]
  · rw [heq]
  · have hread := Address.Respelled.read?_eq (.inr ⟨hspelled, hlowered⟩)
    obtain ⟨a, ha⟩ := hspelled.exists_read?
    rw [if_pos (hof haddress), if_pos (hof haddress), ← hread, ha]

private theorem Rel.mono {L' : String → String → Prop} {s t : Source} (h : Rel L s t)
    (hL : ∀ a b, L a b → L' a b) : Rel L' s t := by
  cases h with
  | fixed h => exact .fixed (hL _ _ h)
  | topic index => exact .topic index
  | data field => exact .data field
  | unbound zero other => exact .unbound zero other

/-- Each variant reads its own field beside the tag. -/
private theorem Respelled.rel_variant (h : Respelled L f g) {tag : String}
    {read : Fields → Checked Source} (hread : variant? tag = some read) :
    Checked.Rel (Source.Rel L) (read f) (read g) := by
  have htag (tag : String) : Checked.Rel Eq (checkTag tag f) (checkTag tag g) :=
    Key.rel_optional .eq rfl h.tag.value?
  have hzero : Respects (Json.TextRel L) (nullable text) (Option.Rel L) :=
    Respects.text.nullable fun _ _ => null_iff_of_textRel
  unfold variant? at hread
  split at hread
  · obtain rfl := Option.some.inj hread
    refine .seq (.map ?_ (htag _)) (Key.rel_required Respects.text h.literal.value?)
    exact fun _ _ _ _ _ hliteral => .fixed hliteral
  split at hread
  · obtain rfl := Option.some.inj hread
    refine .seq (.map ?_ (htag _)) (Key.rel_required .eq h.topic.value?)
    rintro _ _ _ index _ rfl
    exact .topic index
  split at hread
  · obtain rfl := Option.some.inj hread
    refine .seq (.map ?_ (htag _)) (Key.rel_required .eq h.field.value?)
    rintro _ _ _ field _ rfl
    exact .data field
  split at hread
  · obtain rfl := Option.some.inj hread
    refine .seq (.map ?_ (htag _)) (Key.rel_optional hzero .none h.literal.value?)
    exact fun _ _ _ zero other _ => .unbound zero other
  · cases hread

theorem Respelled.rel (h : Respelled L f g) :
    Checked.Rel (Source.Rel L) (ofJson (.obj f)) (ofJson (.obj g)) := by
  have htag : Fields.get? f tagKey.name = Fields.get? g tagKey.name := h.tag.get?_eq rfl
  unfold ofJson
  simp only [htag]
  cases Fields.get? g tagKey.name with
  | none => exact .rejected _ _
  | some given =>
    cases given with
    | str tag =>
      dsimp only
      cases hread : variant? tag with
      | none => exact .rejected _ _
      | some read => exact (h.rel_variant hread).under _ _
    | _ => exact .rejected _ _

theorem respects_ofJson (L : String → String → Prop) :
    Respects (Json.RecordRel (Respelled L)) ofJson (Source.Rel L) := by
  intro j k hjk
  cases hjk with
  | form h => exact h.rel
  | other hother =>
    cases j with
    | obj fields => exact absurd rfl (hother fields)
    | _ => exact .rejected _ _

end Source

namespace Mapping
variable {m n : Mapping} {event : Event} {input : CalleeInput}

theorem Respelled.rel {f g : Fields} (h : Respelled f g) :
    Checked.Rel Mapping.Rel (ofFields f) (ofFields g) := by
  have htype : Checked.Rel
      (fun a b => ValueType.Respelled a b
        ∧ (typeKey.value? f = some (.str "address") → a = "address"))
      (typeKey.required text f) (typeKey.required text g) := by
    refine (Key.rel_required Respects.text h.type.value?).and_left fun a ha haddress => ?_
    obtain ⟨step, hread⟩ := Key.required_eq typeKey text f
    rw [hread, haddress] at ha
    cases ha
    rfl
  have hsource := Source.respects_ofJson
    (Source.LiteralRespelled (typeKey.value? f = some (.str "address")))
  refine .seq (.seq (.map ?_ (Key.rel_optional .eq rfl h.target.value?)) htype)
    (Key.rel_optional hsource (.unbound none none) h.source.value?)
  rintro target _ rfl type type' ⟨htypes, haddress⟩ source source' hsources
  refine ⟨type', source', rfl, htypes, hsources.mono fun s t hliteral => ?_⟩
  rcases hliteral with hblank | ⟨hof, hspelled⟩
  · exact .inl hblank
  · exact .inr ⟨haddress hof, hspelled⟩

private theorem Rel.topic?_eq (h : Rel m n) : m.topic? = n.topic? := by
  obtain ⟨type, source, rfl, -, hsource⟩ := h
  unfold topic?
  cases hm : m.source <;> rw [hm] at hsource <;> cases hsource <;> rfl

theorem Rel.fits (h : Rel m n) (hm : m.Fits event input) : n.Fits event input := by
  obtain ⟨type, source, rfl, htype, hsource⟩ := h
  obtain ⟨⟨t, ht, htext⟩, hnamed, hsourced⟩ := hm
  refine ⟨⟨t, htype.ofText_ok ht, htext⟩, hnamed, ?_⟩
  change source.Fits event input.type
  cases hs : m.source <;> rw [hs] at hsource hsourced <;> cases hsource
  · rename_i hliteral
    exact Source.LiteralRespelled.acceptable hliteral hsourced
  · exact hsourced
  · exact hsourced
  · trivial

private theorem Rel.settled_eq (h : Rel m n) (hm : m.Fits event input) :
    m.settled input = n.settled input := by
  obtain ⟨type, source, rfl, htype, hsource⟩ := h
  obtain ⟨⟨t, ht, htext⟩, -, -⟩ := hm
  have haddress : m.type = "address" → input.type = "address" := by
    intro hm
    have hread : ValueType.ofText "address" = .ok .address :=
      ValueType.ofText_text (t := .address) trivial
    rw [hm, hread] at ht
    rw [← htext, ← Except.ok.inj ht]
    rfl
  have hsettled : m.source.settled input.type = source.settled input.type := by
    cases hs : m.source <;> rw [hs] at hsource <;> cases hsource
    · rename_i hliteral
      exact congrArg Source.fixed (hliteral.settledLiteral_eq haddress)
    · rfl
    · rfl
    · rfl
  unfold settled
  rw [hsettled]

theorem Rel.symm (h : Rel m n) : Rel n m := by
  obtain ⟨type, source, rfl, htype, hsource⟩ := h
  refine ⟨m.type, m.source, rfl, htype.symm, ?_⟩
  have haddress : m.type = "address" → type = "address" := fun hm => htype.eq_of_address hm
  cases hs : m.source <;> rw [hs] at hsource <;> cases hsource
  · rename_i hliteral
    exact .fixed (hliteral.symm haddress)
  · exact .topic _
  · exact .data _
  · exact .unbound _ _

end Mapping

namespace Binding
variable {event : Event} {callee : Callee} {ms ns : List Mapping} {b : Binding}

private theorem forall₂_fits {inputs : List CalleeInput} (h : List.Forall₂ Mapping.Rel ms ns)
    (hm : List.Forall₂ (Mapping.Fits event) ms inputs) :
    List.Forall₂ (Mapping.Fits event) ns inputs
      ∧ List.zipWith Mapping.settled ms inputs = List.zipWith Mapping.settled ns inputs := by
  induction h generalizing inputs with
  | nil => exact ⟨hm, rfl⟩
  | cons hmn _ ih =>
    cases hm with
    | cons hfits hrest =>
      obtain ⟨hall, hsettled⟩ := ih hrest
      refine ⟨.cons (hmn.fits hfits) hall, ?_⟩
      rw [List.zipWith_cons_cons, List.zipWith_cons_cons, hmn.settled_eq hfits, hsettled]

private theorem filterMap_topic?_eq (h : List.Forall₂ Mapping.Rel ms ns) :
    ms.filterMap Mapping.topic? = ns.filterMap Mapping.topic? := by
  induction h with
  | nil => rfl
  | cons hmn _ ih => rw [List.filterMap_cons, List.filterMap_cons, hmn.topic?_eq, ih]

/-- Respelled mappings and a respelled guard lead to the same binding. -/
theorem resolve_rel {condition other : Option String} (h : List.Forall₂ Mapping.Rel ms ns)
    (hg : Option.Rel Expression.Respelled condition other)
    (hb : resolve event callee ms condition = .ok b) :
    resolve event callee ns other = .ok b := by
  obtain ⟨⟨hfits, hnodup, hguard⟩, rfl⟩ := resolve_eq_ok.mp hb
  obtain ⟨hall, hsettled⟩ := forall₂_fits h hfits
  rw [filterMap_topic?_eq h] at hnodup
  have htrim : condition.map trim = other.map trim := by
    cases hg with
    | none => rfl
    | some hst => exact congrArg some hst
  have hacceptable : ∀ text, other = some text → Expression.Acceptable text := by
    rintro text rfl
    cases hg with
    | some hst => exact hst.acceptable (hguard _ rfl)
  rw [hsettled, htrim]
  exact resolve_eq_ok.mpr ⟨⟨hall, hnodup, hacceptable⟩, rfl⟩

end Binding
end ReactiveContract
