import Mathlib.Computability.DFA
import Mathlib.Tactic.DeriveFintype
import ReactiveContract.Proofs.Binding.Scan
/-! Which texts are single expressions: those that are put together of quotations and of characters
outside of quotes without a comment among them. They are a regular language: in place of looking
ahead, an automaton with seven states remembers a slash. -/
namespace ReactiveContract.Expression

/-- What may stand between two of the given quotation marks: characters other than the mark, the
backslash and line breaks, and pairs of a backslash and a character that breaks no line. -/
inductive Quotable (quote : Char) : List Char → Prop
  | nil : Quotable quote []
  | plain {c : Char} {cs : List Char} (hquote : c ≠ quote) (hescape : c ≠ '\\')
    (hline : c ≠ '\n' ∧ c ≠ '\r') (h : Quotable quote cs) : Quotable quote (c :: cs)
  | pair {c : Char} {cs : List Char} (hline : c ≠ '\n' ∧ c ≠ '\r') (h : Quotable quote cs) :
    Quotable quote ('\\' :: c :: cs)

/-- A part of an expression: a text in quotation marks, or one character outside of them. -/
inductive Piece where
  | quotation (quote : Char) (body : List Char)
  | bare (c : Char)
  deriving DecidableEq, Repr

namespace Piece

def text : Piece → List Char
  | .quotation quote body => quote :: (body ++ [quote])
  | .bare c => [c]

def WellFormed : Piece → Prop
  | .quotation quote body => (quote = '"' ∨ quote = '\'') ∧ Quotable quote body
  | .bare c => c ∉ ['"', '\'', '\n', '\r', ';', '\x7b', '\x7d']

end Piece

/-- One piece after the other. -/
def written (pieces : List Piece) : List Char := pieces.flatMap Piece.text

/-- Pieces that may stand in this order: no bare slash stands right before a slash or a star. -/
structure Compatible (pieces : List Piece) : Prop where
  wellFormed : ∀ p ∈ pieces, p.WellFormed
  uncommented : ∀ before after, pieces = before ++ .bare '/' :: after →
    ∀ c ∈ (written after).head?, c ≠ '/' ∧ c ≠ '*'

/-- A text that is a concatenation of such pieces. -/
def Concatenates (cs : List Char) : Prop :=
  ∃ pieces, Compatible pieces ∧ written pieces = cs

/-- A well-formed bare character is one that the scan takes in as it is. -/
theorem wellFormed_bare {c : Char} :
    (Piece.bare c).WellFormed
      ↔ isQuote c = false ∧ isLineBreak c = false ∧ isSeparator c = false := by
  simp [Piece.WellFormed, isQuote, isLineBreak, isSeparator]
  tauto

private theorem compatible_nil : Compatible [] := by
  constructor
  · simp
  · intro before after h
    simp at h

theorem compatible_cons {p : Piece} {ps : List Piece} :
    Compatible (p :: ps) ↔ p.WellFormed
      ∧ (p = .bare '/' → ∀ c ∈ (written ps).head?, c ≠ '/' ∧ c ≠ '*') ∧ Compatible ps := by
  constructor
  · intro h
    refine ⟨h.wellFormed p List.mem_cons_self, ?_, ?_, ?_⟩
    · rintro rfl
      exact h.uncommented [] ps rfl
    · exact fun q hq => h.wellFormed q (List.mem_cons_of_mem p hq)
    · intro before after hps
      exact h.uncommented (p :: before) after (by rw [hps, List.cons_append])
  · intro h
    obtain ⟨hp, hslash, hps⟩ := h
    constructor
    · exact List.forall_mem_cons.mpr ⟨hp, hps.wellFormed⟩
    · intro before after heq
      cases before with
      | nil =>
        obtain ⟨hbare, rfl⟩ := List.cons.inj heq
        exact hslash hbare
      | cons q before =>
        obtain ⟨-, hrest⟩ := List.cons.inj heq
        exact hps.uncommented before after hrest

theorem written_cons (p : Piece) (ps : List Piece) : written (p :: ps) = p.text ++ written ps :=
  List.flatMap_cons

/-- The rest of a text from within quotes: up to the closing mark, and the pieces after it. -/
def Closes (quote : Char) (cs : List Char) : Prop :=
  ∃ body rest, Quotable quote body ∧ Concatenates rest ∧ cs = body ++ quote :: rest

private theorem concatenates_quote {quote : Char} {cs : List Char} (hq : isQuote quote = true) :
    Concatenates (quote :: cs) ↔ Closes quote cs := by
  constructor
  · intro h
    obtain ⟨pieces, hpieces, htext⟩ := h
    cases pieces with
    | nil => cases htext
    | cons p ps =>
      obtain ⟨hp, -, hps⟩ := compatible_cons.mp hpieces
      rw [written_cons] at htext
      cases p with
      | quotation mark body =>
        obtain ⟨rfl, hcs⟩ := List.cons.inj htext
        exact ⟨body, written ps, hp.2, ⟨ps, hps, rfl⟩, by simpa using hcs.symm⟩
      | bare c =>
        obtain ⟨rfl, -⟩ := List.cons.inj htext
        have hnot := (wellFormed_bare.mp hp).1
        rw [hq] at hnot
        cases hnot
  · intro h
    obtain ⟨body, rest, hbody, ⟨ps, hps, hrest⟩, rfl⟩ := h
    refine ⟨.quotation quote body :: ps, ?_, ?_⟩
    · exact compatible_cons.mpr ⟨⟨isQuote_iff.mp hq, hbody⟩, nofun, hps⟩
    · simp [written_cons, Piece.text, hrest]

private theorem concatenates_bare {c : Char} {cs : List Char} (hq : isQuote c = false) :
    Concatenates (c :: cs) ↔ (isLineBreak c = false ∧ isSeparator c = false)
      ∧ opensComment c cs = false ∧ Concatenates cs := by
  constructor
  · intro h
    obtain ⟨pieces, hpieces, htext⟩ := h
    cases pieces with
    | nil => cases htext
    | cons p ps =>
      obtain ⟨hp, hslash, hps⟩ := compatible_cons.mp hpieces
      rw [written_cons] at htext
      cases p with
      | quotation mark body =>
        obtain ⟨rfl, -⟩ := List.cons.inj htext
        have hquote := isQuote_iff.mpr hp.1
        rw [hq] at hquote
        cases hquote
      | bare d =>
        obtain ⟨rfl, rfl⟩ := List.cons.inj htext
        refine ⟨(wellFormed_bare.mp hp).2, opensComment_eq_false.mpr ?_, ps, hps, rfl⟩
        rintro rfl
        exact hslash rfl
  · intro h
    obtain ⟨hc, hslash, ps, hps, rfl⟩ := h
    refine ⟨.bare c :: ps, compatible_cons.mpr ⟨wellFormed_bare.mpr ⟨hq, hc⟩, ?_, hps⟩, rfl⟩
    intro heq
    exact opensComment_eq_false.mp hslash (Piece.bare.inj heq)

private theorem not_closes_nil {quote : Char} : ¬ Closes quote [] := by
  intro h
  obtain ⟨body, rest, -, -, heq⟩ := h
  simp at heq

/-- One stride within quotes: the closing mark, a plain character, or a pair. -/
private theorem closes_cons {quote c : Char} {cs : List Char} :
    Closes quote (c :: cs)
      ↔ (c = quote ∧ Concatenates cs)
        ∨ (c ≠ quote ∧ c ≠ '\\' ∧ isLineBreak c = false ∧ Closes quote cs)
        ∨ (c = '\\' ∧ ∃ d rest, cs = d :: rest ∧ isLineBreak d = false ∧ Closes quote rest) := by
  constructor
  · intro h
    obtain ⟨body, rest, hbody, hrest, heq⟩ := h
    cases hbody with
    | nil =>
      obtain ⟨rfl, rfl⟩ := List.cons.inj heq
      exact .inl ⟨rfl, hrest⟩
    | @plain d ds hquote hescape hline hds =>
      obtain ⟨rfl, rfl⟩ := List.cons.inj heq
      exact .inr (.inl ⟨hquote, hescape, isLineBreak_eq_false.mpr hline, ds, rest, hds, hrest, rfl⟩)
    | @pair d ds hline hds =>
      obtain ⟨rfl, rfl⟩ := List.cons.inj heq
      exact .inr (.inr ⟨rfl, d, ds ++ quote :: rest, rfl, isLineBreak_eq_false.mpr hline, ds, rest,
        hds, hrest, rfl⟩)
  · intro h
    rcases h with ⟨rfl, hcs⟩ | ⟨hquote, hescape, hline, hcs⟩ | ⟨rfl, d, rest, rfl, hline, hcs⟩
    · exact ⟨[], cs, .nil, hcs, rfl⟩
    · obtain ⟨body, rest, hbody, hrest, rfl⟩ := hcs
      exact ⟨c :: body, rest, .plain hquote hescape (isLineBreak_eq_false.mp hline) hbody, hrest,
        rfl⟩
    · obtain ⟨body, rest', hbody, hrest, rfl⟩ := hcs
      exact ⟨'\\' :: d :: body, rest', .pair (isLineBreak_eq_false.mp hline) hbody, hrest, rfl⟩

/-- The texts that bring a scan from a mode to its end outside of quotes. -/
def Completes : Mode → List Char → Prop
  | .outside, cs => Concatenates cs
  | .quoted quote, cs => Closes quote cs
  | .escaped quote, cs => ∃ c rest, cs = c :: rest ∧ isLineBreak c = false ∧ Closes quote rest

private theorem completes_nil {mode : Mode} : Completes mode [] ↔ mode = .outside := by
  cases mode with
  | outside => exact iff_of_true ⟨[], compatible_nil, rfl⟩ rfl
  | quoted quote => exact iff_of_false not_closes_nil nofun
  | escaped quote =>
    refine iff_of_false ?_ nofun
    rintro ⟨c, rest, heq, -⟩
    cases heq

/-- A text completes a mode if its first character is taken in and the rest completes the mode that
this leads to. -/
private theorem completes_cons {mode : Mode} (hmode : Sane mode) {c : Char} {cs : List Char} :
    Completes mode (c :: cs) ↔ ∃ m, step mode c cs = some m ∧ Completes m cs := by
  cases mode with
  | outside =>
    by_cases hq : isQuote c = true
    · simp [step_outside_iff, Completes, concatenates_quote hq, hq]
    · rw [Bool.not_eq_true] at hq
      simp [step_outside_iff, Completes, concatenates_bare hq, hq, and_assoc]
  | quoted quote =>
    have hplain : isLineBreak quote = false ∧ quote ≠ '\\' := by
      rcases isQuote_iff.mp hmode with rfl | rfl <;> decide
    simp only [Completes, closes_cons, step_quoted_iff]
    by_cases hquote : c = quote
    · simp [hquote, hplain]
    · by_cases hescape : c = '\\'
      · have hline : isLineBreak '\\' = false := rfl
        have hmark : '\\' ≠ quote := hplain.2.symm
        simp [hescape, hline, hmark]
      · simp [hquote, hescape]
  | escaped quote =>
    simp only [step_escaped_iff, Completes, List.cons.injEq]
    constructor
    · rintro ⟨d, rest, ⟨rfl, rfl⟩, hline, hrest⟩
      exact ⟨.quoted quote, ⟨hline, rfl⟩, hrest⟩
    · rintro ⟨m, ⟨hline, rfl⟩, hrest⟩
      exact ⟨c, cs, ⟨rfl, rfl⟩, hline, hrest⟩

/-- A scan ends outside of quotes over exactly the texts that complete its mode. -/
theorem scan_eq_outside_iff {mode : Mode} (hmode : Sane mode) {cs : List Char} :
    scan mode cs = some .outside ↔ Completes mode cs := by
  induction cs generalizing mode with
  | nil => simp [scan, completes_nil]
  | cons c cs ih =>
    rw [completes_cons hmode, scan, Option.bind_eq_some_iff]
    constructor
    · intro h
      obtain ⟨m, hstep, hscan⟩ := h
      exact ⟨m, hstep, (ih (sane_of_step hmode hstep)).mp hscan⟩
    · intro h
      obtain ⟨m, hstep, hcompletes⟩ := h
      exact ⟨m, hstep, (ih (sane_of_step hmode hstep)).mpr hcompletes⟩

/-- A literal ends at the first mark that no backslash takes with it. -/
theorem Quotable.unique {quote : Char} (hquote : quote ≠ '\\') {body body' rest rest' : List Char}
    (h : Quotable quote body) (h' : Quotable quote body')
    (heq : body ++ quote :: rest = body' ++ quote :: rest') : body = body' ∧ rest = rest' := by
  induction h generalizing body' with
  | nil =>
    cases h' with
    | nil => exact ⟨rfl, (List.cons.inj heq).2⟩
    | plain hne => exact absurd (List.cons.inj heq).1.symm hne
    | pair => exact absurd (List.cons.inj heq).1 hquote
  | @plain c cs hne hescape _ _ ih =>
    cases h' with
    | nil => exact absurd (List.cons.inj heq).1 hne
    | plain _ _ _ hcs =>
      obtain ⟨rfl, hrest⟩ := List.cons.inj heq
      obtain ⟨rfl, hsame⟩ := ih hcs hrest
      exact ⟨rfl, hsame⟩
    | pair => exact absurd (List.cons.inj heq).1 hescape
  | @pair c cs _ _ ih =>
    cases h' with
    | nil => exact absurd (List.cons.inj heq).1.symm hquote
    | plain _ hescape => exact absurd (List.cons.inj heq).1.symm hescape
    | pair _ hcs =>
      obtain ⟨-, hpair⟩ := List.cons.inj heq
      obtain ⟨rfl, hrest⟩ := List.cons.inj hpair
      obtain ⟨rfl, hsame⟩ := ih hcs hrest
      exact ⟨rfl, hsame⟩

/-- A text is put together in one way only. -/
theorem written_injective {ps qs : List Piece} (hps : ∀ p ∈ ps, p.WellFormed)
    (hqs : ∀ q ∈ qs, q.WellFormed) (h : written ps = written qs) : ps = qs := by
  induction ps generalizing qs with
  | nil =>
    cases qs with
    | nil => rfl
    | cons q qs =>
      rw [written_cons] at h
      cases q <;> cases h
  | cons p ps ih =>
    obtain ⟨hp, hps⟩ := List.forall_mem_cons.mp hps
    cases qs with
    | nil =>
      rw [written_cons] at h
      cases p <;> cases h
    | cons q qs =>
      obtain ⟨hq, hqs⟩ := List.forall_mem_cons.mp hqs
      rw [written_cons, written_cons] at h
      obtain ⟨hhead, hrest⟩ : p = q ∧ written ps = written qs := by
        cases p with
        | quotation quote body =>
          have hquote : quote ≠ '\\' := by
            rcases hp.1 with rfl | rfl <;> decide
          cases q with
          | quotation quote' body' =>
            simp only [Piece.text, List.cons_append, List.append_assoc, List.nil_append] at h
            obtain ⟨rfl, hbodies⟩ := List.cons.inj h
            obtain ⟨rfl, hrest⟩ := hp.2.unique hquote hq.2 hbodies
            exact ⟨rfl, hrest⟩
          | bare c =>
            obtain ⟨rfl, -⟩ := List.cons.inj h
            exact absurd (isQuote_iff.mpr hp.1) (by simp [(wellFormed_bare.mp hq).1])
        | bare c =>
          cases q with
          | quotation quote body =>
            obtain ⟨rfl, -⟩ := List.cons.inj h
            exact absurd (isQuote_iff.mpr hq.1) (by simp [(wellFormed_bare.mp hp).1])
          | bare d =>
            obtain ⟨rfl, hrest⟩ := List.cons.inj h
            exact ⟨rfl, hrest⟩
      rw [hhead, ih hps hqs hrest]

section Automaton

/-- The two quotation marks. -/
inductive Mark where
  | double
  | single
  deriving DecidableEq

instance : Fintype Mark where
  elems := {.double, .single}
  complete := by
    intro mark
    cases mark <;> decide

def Mark.char : Mark → Char
  | .double => '"'
  | .single => '\''

/-- Where an automaton stands that does not look ahead: outside of quotes it remembers whether the
last character was a slash. -/
inductive Place where
  | refused
  | outside
  | afterSlash
  | quoted (mark : Mark)
  | escaped (mark : Mark)
  deriving DecidableEq, Fintype

namespace Place

/-- The place after a character outside of quotes. -/
def ofOutside (c : Char) : Place :=
  if c = '"' then .quoted .double
  else if c = '\'' then .quoted .single
  else if isLineBreak c || isSeparator c then .refused
  else if c = '/' then .afterSlash
  else .outside

def next : Place → Char → Place
  | .refused, _ => .refused
  | .outside, c => ofOutside c
  | .afterSlash, c => if c = '/' ∨ c = '*' then .refused else ofOutside c
  | .quoted mark, c =>
    if isLineBreak c then .refused
    else if c = '\\' then .escaped mark
    else if c = mark.char then .outside
    else .quoted mark
  | .escaped mark, c => if isLineBreak c then .refused else .quoted mark

/-- Whether a scan from a place takes in a text and ends outside of quotes. -/
def Completed : Place → List Char → Prop
  | .refused, _ => False
  | .outside, cs => scan .outside cs = some .outside
  | .afterSlash, cs => opensComment '/' cs = false ∧ scan .outside cs = some .outside
  | .quoted mark, cs => scan (.quoted mark.char) cs = some .outside
  | .escaped mark, cs => scan (.escaped mark.char) cs = some .outside

theorem completed_ofOutside {c : Char} {cs : List Char} :
    (ofOutside c).Completed cs ↔ scan .outside (c :: cs) = some .outside := by
  have hscan : scan .outside (c :: cs) = some .outside
      ↔ ∃ m, step .outside c cs = some m ∧ scan m cs = some .outside := by
    rw [scan, Option.bind_eq_some_iff]
  rw [hscan]
  simp only [step_outside_iff]
  by_cases hdouble : c = '"'
  · subst hdouble
    simp [ofOutside, isQuote, Completed, Mark.char]
  · by_cases hsingle : c = '\''
    · subst hsingle
      simp [ofOutside, isQuote, Completed, Mark.char]
    · have hq : isQuote c = false := by simp [isQuote, hdouble, hsingle]
      by_cases hslash : c = '/'
      · subst hslash
        simp [ofOutside, isQuote, isLineBreak, isSeparator, Completed]
      · have hopens : opensComment c cs = false := by simp [opensComment, hslash]
        simp only [ofOutside, if_neg hdouble, if_neg hsingle, if_neg hslash]
        cases isLineBreak c <;> cases isSeparator c <;> simp [hq, hopens, Completed]

private theorem completed_next {place : Place} {c : Char} {cs : List Char} :
    (place.next c).Completed cs ↔ place.Completed (c :: cs) := by
  cases place with
  | refused => rfl
  | outside => exact completed_ofOutside
  | afterSlash =>
    have hopens : opensComment '/' (c :: cs) = decide (c = '/' ∨ c = '*') := by
      simp [opensComment]
    change (if c = '/' ∨ c = '*' then refused else ofOutside c).Completed cs
      ↔ opensComment '/' (c :: cs) = false ∧ scan .outside (c :: cs) = some .outside
    rw [hopens, decide_eq_false_iff_not]
    by_cases hc : c = '/' ∨ c = '*'
    · rw [if_pos hc]
      exact iff_of_false id fun h => h.1 hc
    · rw [if_neg hc, completed_ofOutside]
      exact (and_iff_right hc).symm
  | quoted mark =>
    simp only [next, Completed, scan, Option.bind_eq_some_iff, step_quoted_iff]
    by_cases hline : isLineBreak c = true
    · simp [hline]
    · rw [Bool.not_eq_true] at hline
      by_cases hescape : c = '\\'
      · subst hescape
        simp [hline]
      · by_cases hmark : c = mark.char
        · subst hmark
          simp [hline, hescape]
        · simp [hline, hescape, hmark]
  | escaped mark =>
    simp only [next, Completed, scan, Option.bind_eq_some_iff, step_escaped_iff]
    cases hline : isLineBreak c <;> simp

end Place

/-- The automaton accepts outside of quotes. -/
def automaton : DFA Char Place where
  step := Place.next
  start := .outside
  accept := {.outside, .afterSlash}

private theorem evalFrom_mem_accept {place : Place} {cs : List Char} :
    automaton.evalFrom place cs ∈ automaton.accept ↔ place.Completed cs := by
  induction cs generalizing place with
  | nil => cases place <;> simp [automaton, Place.Completed, scan, opensComment]
  | cons c cs ih =>
    rw [DFA.evalFrom_cons, ih]
    exact Place.completed_next

private theorem accepts_automaton : automaton.accepts = {cs | isSingle cs = true} := by
  ext cs
  rw [DFA.mem_accepts]
  change automaton.evalFrom .outside cs ∈ automaton.accept ↔ isSingle cs = true
  rw [evalFrom_mem_accept, isSingle, decide_eq_true_iff]
  rfl

end Automaton

/-- A text is a single expression exactly if it is a concatenation of literals in quotation marks
and of bare characters none of which is a slash right before a slash or a star. There is at most
one way to read a text so, and the texts are a regular language. -/
theorem isSingle_language :
    (∀ v : String, isSingle v.toList = true
      ↔ ∃ pieces, Compatible pieces ∧ written pieces = v.toList)
      ∧ (∀ v : String, {pieces | Compatible pieces ∧ written pieces = v.toList}.Subsingleton)
      ∧ Language.IsRegular {cs | isSingle cs = true} := by
  refine ⟨fun v => ?_, fun v ps hps qs hqs => ?_, ?_⟩
  · rw [isSingle, decide_eq_true_iff, scan_eq_outside_iff sane_outside]
    rfl
  · exact written_injective hps.1.wellFormed hqs.1.wellFormed (hps.2.trans hqs.2.symm)
  · exact ⟨Place, inferInstance, automaton, accepts_automaton⟩

end ReactiveContract.Expression
