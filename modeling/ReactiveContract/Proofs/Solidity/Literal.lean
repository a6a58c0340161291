import ReactiveContract.Proofs.Binding.Scan
/-! Texts that are one quoted literal, and texts that are one name. -/
namespace ReactiveContract.Solidity
open Expression

/-- One quoted literal on one line: a scan is within quotes after each character but the last. -/
structure IsLiteral (text : String) : Prop where
  closed : scan .outside text.toList = some .outside
  within : ∀ p, p <+: text.toList → p ≠ [] → p ≠ text.toList →
    ∃ mode, scan .outside p = some mode ∧ mode ≠ .outside

/-- No line break, and no quotation mark other than one that a backslash takes with it. -/
def isQuotable : List Char → Bool
  | [] => true
  | ['\\'] => true
  | '\\' :: c :: cs => !isLineBreak c && isQuotable cs
  | c :: cs => c != '"' && !isLineBreak c && isQuotable cs

def isNameCharacter (c : Char) : Bool := c.isAlphanum || c = '_' || c = '$'

/-- A letter, an underscore or a dollar sign, then any of these and digits. -/
def isName (text : String) : Bool :=
  match text.toList with
  | [] => false
  | c :: cs => isNameCharacter c && !c.isDigit && cs.all isNameCharacter

/-- A scan of a text, and of every beginning of it, ends within quotes. -/
def Stays (mode : Mode) (cs : List Char) : Prop :=
  ∀ p, p <+: cs → ∃ m, scan mode p = some m ∧ m ≠ .outside

private theorem step_within {mode : Mode} (h : mode ≠ .outside) (c : Char) (rest : List Char) :
    step mode c rest = step mode c [] := by
  cases mode with
  | outside => exact absurd rfl h
  | quoted quote => rfl
  | escaped quote => rfl

theorem scan_quoted (c : Char) (cs : List Char) :
    scan (.quoted '"') (c :: cs) = (step (.quoted '"') c []).bind (scan · cs) := by
  rw [scan]
  rfl

theorem scan_escaped (c : Char) (cs : List Char) :
    scan (.escaped '"') (c :: cs) = (step (.escaped '"') c []).bind (scan · cs) := by
  rw [scan]
  rfl

theorem stays_nil {mode : Mode} : Stays mode [] ↔ mode ≠ .outside := by
  constructor
  · intro h
    obtain ⟨m, hscan, hm⟩ := h [] List.prefix_rfl
    rw [scan, Option.some.injEq] at hscan
    rw [hscan]
    exact hm
  · intro h p hp
    rw [List.prefix_nil.mp hp]
    exact ⟨mode, rfl, h⟩

theorem stays_cons {mode : Mode} (h : mode ≠ .outside) {c : Char} {cs : List Char} :
    Stays mode (c :: cs) ↔ ∃ m, step mode c [] = some m ∧ Stays m cs := by
  have hscan (p : List Char) : scan mode (c :: p) = (step mode c []).bind (scan · p) := by
    rw [scan, step_within h]
  constructor
  · intro hs
    have hfirst := hs [c] (by simp)
    rw [hscan] at hfirst
    obtain ⟨m, hm, -⟩ := hfirst
    obtain ⟨m', hstep, -⟩ := Option.bind_eq_some_iff.mp hm
    refine ⟨m', hstep, ?_⟩
    intro p hp
    have hrest := hs (c :: p) (List.cons_prefix_cons.mpr ⟨rfl, hp⟩)
    rw [hscan, hstep, Option.bind_some] at hrest
    exact hrest
  · intro hs p hp
    obtain ⟨m, hstep, hm⟩ := hs
    rcases List.prefix_cons_iff.mp hp with rfl | ⟨t, rfl, ht⟩
    · exact ⟨mode, rfl, h⟩
    · rw [hscan, hstep, Option.bind_some]
      exact hm t ht

theorem step_quoted {c : Char} (hb : isLineBreak c = false) (he : c ≠ '\\') (hq : c ≠ '"') :
    step (.quoted '"') c [] = some (.quoted '"') :=
  step_quoted_iff.mpr ⟨hb, .inr (.inr ⟨he, hq, rfl⟩)⟩

theorem step_escaped {c : Char} (hb : isLineBreak c = false) :
    step (.escaped '"') c [] = some (.quoted '"') :=
  step_escaped_iff.mpr ⟨hb, rfl⟩

theorem step_lineBreak {mode : Mode} {c : Char} (hb : isLineBreak c = true) :
    step mode c [] = none := by
  simp [step, hb]

/-- The last case of `isQuotable` is none of an escape. -/
theorem ne_escape {c : Char} {cs : List Char} (hlast : c = '\\' → cs = [] → False)
    (htaken : ∀ d ds, c = '\\' → cs = d :: ds → False) : c ≠ '\\' := by
  intro he
  cases cs with
  | nil => exact hlast he rfl
  | cons d ds => exact htaken d ds he rfl

/-- A character beside the escape, in front of what can stand between quotes. -/
theorem isQuotable_cons {c : Char} (h : c ≠ '\\') (cs : List Char) :
    isQuotable (c :: cs) = (c != '"' && !isLineBreak c && isQuotable cs) :=
  isQuotable.eq_4 c cs (fun he _ => h he) fun _ _ he _ => h he

/-- A scan stays within quotes over exactly what can stand between them. -/
theorem stays_iff {cs : List Char} : Stays (.quoted '"') cs ↔ isQuotable cs = true := by
  have hquoted : Mode.quoted '"' ≠ .outside := nofun
  have hescaped : Mode.escaped '"' ≠ .outside := nofun
  have hopen : step (.quoted '"') '\\' [] = some (.escaped '"') := by decide
  -- A backslash takes the next character with it, so the scan is followed in the same strides.
  induction cs using isQuotable.induct with
  | case1 => simp [stays_nil, isQuotable]
  | case2 =>
    rw [stays_cons hquoted, hopen]
    simp [stays_nil, isQuotable]
  | case3 c cs ih =>
    rw [stays_cons hquoted, hopen, isQuotable, Bool.and_eq_true, Bool.not_eq_true']
    simp only [Option.some.injEq, exists_eq_left', stays_cons hescaped]
    by_cases hb : isLineBreak c = true
    · simp [step_lineBreak hb, hb]
    · rw [Bool.not_eq_true] at hb
      simp only [step_escaped hb, Option.some.injEq, exists_eq_left', hb, true_and]
      exact ih
  | case4 c cs hlast htaken ih =>
    have he : c ≠ '\\' := ne_escape hlast htaken
    rw [stays_cons hquoted, isQuotable_cons he, Bool.and_eq_true, Bool.and_eq_true,
      Bool.not_eq_true', bne_iff_ne]
    by_cases hb : isLineBreak c = true
    · simp [step_lineBreak hb, hb]
    · rw [Bool.not_eq_true] at hb
      by_cases hq : c = '"'
      · have hclose : step (.quoted '"') '"' [] = some .outside := by decide
        subst hq
        simp only [hclose, Option.some.injEq, exists_eq_left', ne_eq, not_true_eq_false, false_and,
          iff_false]
        intro hs
        obtain ⟨m, hm, hne⟩ := hs [] List.nil_prefix
        exact hne (Option.some.inj hm).symm
      · simp only [step_quoted hb he hq, Option.some.injEq, exists_eq_left', hb, ne_eq, hq,
          not_false_eq_true, true_and]
        exact ih

/-- What neither closes a literal nor breaks the line nor escapes. -/
def isBland (c : Char) : Bool := c != '"' && c != '\\' && !isLineBreak c

private theorem isQuotable_bland {cs : List Char} (h : ∀ c ∈ cs, isBland c = true) :
    isQuotable cs = true := by
  induction cs with
  | nil => rfl
  | cons c cs ih =>
    have hc := h c (by simp)
    simp only [isBland, Bool.and_eq_true, bne_iff_ne] at hc
    rw [isQuotable_cons hc.1.2, ih fun d hd => h d (by simp [hd])]
    simp [hc.1.1, hc.2]

theorem scan_bland {cs : List Char} (h : ∀ c ∈ cs, isBland c = true) (rest : List Char) :
    scan (.quoted '"') (cs ++ rest) = scan (.quoted '"') rest := by
  induction cs with
  | nil => rfl
  | cons c cs ih =>
    have hc := h c (by simp)
    simp only [isBland, Bool.and_eq_true, bne_iff_ne, Bool.not_eq_true'] at hc
    rw [List.cons_append, scan_quoted, step_quoted hc.2 hc.1.2 hc.1.1, Option.bind_some]
    exact ih fun d hd => h d (by simp [hd])

/-- After a bland character it is no matter whether an escape stood before it. -/
private theorem isQuotable_append {name rest : List Char} {t : Char} (ht : isBland t = true)
    (hr : ∀ c ∈ rest, isBland c = true) :
    isQuotable (name ++ t :: rest) = isQuotable name := by
  have hrest : isQuotable rest = true := isQuotable_bland hr
  simp only [isBland, Bool.and_eq_true, bne_iff_ne, Bool.not_eq_true'] at ht
  induction name using isQuotable.induct with
  | case1 =>
    rw [List.nil_append, isQuotable_cons ht.1.2, hrest]
    simp [isQuotable, ht.1.1, ht.2]
  | case2 => simp [isQuotable, hrest, ht.2]
  | case3 c cs ih =>
    rw [List.cons_append, List.cons_append, isQuotable, isQuotable, ih]
  | case4 c cs hlast htaken ih =>
    have he : c ≠ '\\' := ne_escape hlast htaken
    rw [List.cons_append, isQuotable_cons he, isQuotable_cons he, ih]

/-- What can stand between quotes is passed over, up to a bland end. -/
private theorem scan_quotable {name rest : List Char} {t : Char} (ht : isBland t = true)
    (hr : ∀ c ∈ rest, isBland c = true) (h : isQuotable name = true) (more : List Char) :
    scan (.quoted '"') (name ++ (t :: rest ++ more)) = scan (.quoted '"') more := by
  have hopen : step (.quoted '"') '\\' [] = some (.escaped '"') := by decide
  have hbland : ∀ c ∈ t :: rest, isBland c = true := List.forall_mem_cons.mpr ⟨ht, hr⟩
  induction name using isQuotable.induct with
  | case1 => exact scan_bland hbland more
  | case2 =>
    have hb : isLineBreak t = false := by
      simp only [isBland, Bool.and_eq_true, Bool.not_eq_true'] at ht
      exact ht.2
    rw [List.cons_append, List.nil_append, scan_quoted, hopen, Option.bind_some, List.cons_append,
      scan_escaped, step_escaped hb, Option.bind_some]
    exact scan_bland hr more
  | case3 c cs ih =>
    rw [isQuotable, Bool.and_eq_true, Bool.not_eq_true'] at h
    rw [List.cons_append, List.cons_append, scan_quoted, hopen, Option.bind_some, scan_escaped,
      step_escaped h.1, Option.bind_some]
    exact ih h.2
  | case4 c cs hlast htaken ih =>
    have he : c ≠ '\\' := ne_escape hlast htaken
    rw [isQuotable_cons he, Bool.and_eq_true, Bool.and_eq_true, Bool.not_eq_true', bne_iff_ne] at h
    rw [List.cons_append, scan_quoted, step_quoted h.1.2 he h.1.1, Option.bind_some]
    exact ih h.2

/-- A text in quotes that ends blandly is one literal exactly if what comes before can stand there. -/
theorem isLiteral_iff {text : String} {name rest : List Char} {t : Char} (ht : isBland t = true)
    (hr : ∀ c ∈ rest, isBland c = true) (htext : text.toList = name ++ t :: rest) :
    IsLiteral ("\"" ++ text ++ "\"") ↔ isQuotable name = true := by
  have hcs : ("\"" ++ text ++ "\"").toList = '"' :: (text.toList ++ ['"']) := by
    simp only [String.toList_append]
    rfl
  have hscan (p : List Char) : scan .outside ('"' :: p) = scan (.quoted '"') p := rfl
  have hstays : Stays (.quoted '"') text.toList ↔ isQuotable name = true := by
    rw [stays_iff, htext, isQuotable_append ht hr]
  rw [← hstays]
  constructor
  · intro h p hp
    have hprefix : '"' :: p <+: ("\"" ++ text ++ "\"").toList := by
      rw [hcs]
      exact List.cons_prefix_cons.mpr ⟨rfl, hp.trans (List.prefix_append _ _)⟩
    have hne : '"' :: p ≠ ("\"" ++ text ++ "\"").toList := by
      intro heq
      have hlen := congrArg List.length heq
      have hle := hp.length_le
      rw [hcs] at hlen
      simp only [List.length_cons, List.length_append, List.length_nil] at hlen
      omega
    exact h.within _ hprefix (List.cons_ne_nil _ _) hne
  · intro h
    refine ⟨?_, ?_⟩
    · rw [hcs, hscan, htext, List.append_assoc, scan_quotable ht hr (hstays.mp h)]
      decide
    · intro p hp hnil hne
      rw [hcs] at hp hne
      rcases List.prefix_cons_iff.mp hp with rfl | ⟨q, rfl, hq⟩
      · exact absurd rfl hnil
      · rcases List.prefix_concat_iff.mp hq with rfl | hq
        · exact absurd rfl hne
        · rw [hscan]
          exact h q hq

end ReactiveContract.Solidity
