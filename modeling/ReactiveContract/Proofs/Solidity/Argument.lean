import Mathlib.Data.List.Forall2
import ReactiveContract.Proofs.Binding.Scan
/-! Texts that are one argument in a list of arguments, and how such a list is read. -/
namespace ReactiveContract.Solidity
open Expression Text

def isOpening (c : Char) : Bool := c = '(' || c = '['

def isClosing (c : Char) : Bool := c = ')' || c = ']'

/-- The characters outside of quotes. -/
def bare : Mode → List Char → List Char
  | _, [] => []
  | mode, c :: cs =>
    if mode = .outside ∧ isQuote c = false then c :: bare (mode.next c) cs
    else bare (mode.next c) cs

/-- How many more brackets are opened than closed. -/
def depth (cs : List Char) : Int := (cs.countP isOpening : Int) - cs.countP isClosing

/-- Every quote is closed. Outside of quotes the brackets are balanced, none is closed before it
is opened, and every comma is within brackets. -/
structure IsArgument (text : String) : Prop where
  closed : text.toList.foldl Mode.next .outside = .outside
  balanced : depth (bare .outside text.toList) = 0
  nested : ∀ p, p <+: bare .outside text.toList → 0 ≤ depth p
  joined : ∀ p s, bare .outside text.toList = p ++ ',' :: s → 0 < depth p

/-- The number of open brackets after a character that belongs to the argument; none if it ends
the argument. -/
def depthAfter (mode : Mode) (level : Nat) (c : Char) : Option Nat :=
  match mode with
  | .outside =>
    if isOpening c then some (level + 1)
    else if isClosing c then
      match level with
      | 0 => none
      | n + 1 => some n
    else if c = ',' ∧ level = 0 then none
    else some level
  | _ => some level

/-- Where a scan within an argument ends, unless the argument ends before. -/
def scanArgument : Mode → Nat → List Char → Option (Mode × Nat)
  | mode, n, [] => some (mode, n)
  | mode, n, c :: cs =>
    match depthAfter mode n c with
    | some k => scanArgument (mode.next c) k cs
    | none => none

/-- Reads arguments up to the bracket that closes their list, from within the first of them. -/
def readArguments : Mode → Nat → List Char → Option (List Char × List (List Char))
  | _, _, [] => none
  | mode, n, c :: cs =>
    match depthAfter mode n c with
    | some k => (readArguments (mode.next c) k cs).map fun (a, rest) => (c :: a, rest)
    | none =>
      if c = ',' then (readArguments .outside 0 cs).map fun (a, rest) => ([], a :: rest)
      else some ([], [])

theorem depthAfter_eq_none {mode : Mode} {level : Nat} {c : Char} :
    depthAfter mode level c = none
      ↔ mode = .outside ∧ level = 0 ∧ (isClosing c = true ∨ c = ',') := by
  cases mode with
  | outside =>
    unfold depthAfter
    dsimp only
    by_cases ho : isOpening c = true
    · have hne : ¬(isClosing c = true ∨ c = ',') := by
        simp only [isOpening, Bool.or_eq_true, decide_eq_true_eq] at ho
        rcases ho with rfl | rfl <;> decide
      simp [ho, hne]
    · by_cases hc : isClosing c = true
      · cases level <;> simp [ho, hc]
      · simp [ho, hc, and_comm]
  | quoted quote => simp [depthAfter]
  | escaped quote => simp [depthAfter]

/-- The characters that a scan reacts to. -/
def specials : List Char := ['"', '\'', '(', '[', ')', ']', ',', '\\']

theorem notMem_specials {p : Char → Bool} (hp : specials.all (!p ·) = true) {c : Char}
    (h : p c = true) : c ∉ specials := by
  intro hc
  have hn := List.all_eq_true.mp hp c hc
  simp [h] at hn

theorem ne_of_notMem_specials {c : Char} (h : c ∉ specials) :
    isQuote c = false ∧ isOpening c = false ∧ isClosing c = false ∧ c ≠ ',' ∧ c ≠ '\\' := by
  simp only [specials, List.mem_cons, List.not_mem_nil, or_false, not_or] at h
  obtain ⟨hdouble, hsingle, hround, hsquare, hround', hsquare', hcomma, hescape⟩ := h
  simp [isQuote, isOpening, isClosing, hdouble, hsingle, hround, hsquare, hround', hsquare', hcomma,
    hescape]

theorem depthAfter_plain {mode : Mode} {level : Nat} {c : Char} (h : c ∉ specials) :
    depthAfter mode level c = some level := by
  obtain ⟨-, ho, hc, hcomma, -⟩ := ne_of_notMem_specials h
  cases mode <;> simp [depthAfter, ho, hc, hcomma]

theorem scanArgument_append (mode : Mode) (level : Nat) (as bs : List Char) :
    scanArgument mode level (as ++ bs)
      = (scanArgument mode level as).bind fun place => scanArgument place.1 place.2 bs := by
  induction as generalizing mode level with
  | nil => rfl
  | cons c as ih =>
    simp only [List.cons_append, scanArgument]
    cases depthAfter mode level c with
    | none => rfl
    | some k => exact ih _ _

/-- What is read as an argument is scanned as one. -/
theorem scanArgument_of_readArguments {mode : Mode} {level : Nat} {cs a : List Char}
    {rest : List (List Char)} (h : readArguments mode level cs = some (a, rest)) :
    scanArgument mode level a = some (.outside, 0)
      ∧ ∀ b ∈ rest, scanArgument .outside 0 b = some (.outside, 0) := by
  induction cs generalizing mode level a rest with
  | nil => simp [readArguments] at h
  | cons c cs ih =>
    unfold readArguments at h
    cases hd : depthAfter mode level c with
    | some k =>
      simp only [hd, Option.map_eq_some_iff, Prod.exists, Prod.mk.injEq] at h
      obtain ⟨a', rest', hread, rfl, rfl⟩ := h
      obtain ⟨ha, hrest⟩ := ih hread
      refine ⟨?_, hrest⟩
      simp only [scanArgument, hd, ha]
    | none =>
      obtain ⟨rfl, rfl, -⟩ := depthAfter_eq_none.mp hd
      simp only [hd] at h
      by_cases hc : c = ','
      · simp only [hc, if_true, Option.map_eq_some_iff, Prod.exists, Prod.mk.injEq] at h
        obtain ⟨a', rest', hread, rfl, rfl⟩ := h
        obtain ⟨ha, hrest⟩ := ih hread
        refine ⟨rfl, fun b hb => ?_⟩
        rcases List.mem_cons.mp hb with rfl | hb
        · exact ha
        · exact hrest b hb
      · simp only [hc, if_false, Option.some.injEq, Prod.mk.injEq] at h
        obtain ⟨rfl, rfl⟩ := h
        exact ⟨rfl, by simp⟩

/-- What is scanned as an argument is read as the beginning of one. -/
theorem readArguments_append {mode mode' : Mode} {level level' : Nat} {as : List Char}
    (h : scanArgument mode level as = some (mode', level')) (cs : List Char) :
    readArguments mode level (as ++ cs)
      = (readArguments mode' level' cs).map fun (b, rest) => (as ++ b, rest) := by
  induction as generalizing mode level with
  | nil =>
    simp only [scanArgument, Option.some.injEq, Prod.mk.injEq] at h
    obtain ⟨rfl, rfl⟩ := h
    simp
  | cons c as ih =>
    unfold scanArgument at h
    cases hd : depthAfter mode level c with
    | none => simp [hd] at h
    | some k =>
      simp only [hd] at h
      simp only [List.cons_append, readArguments, hd, ih h, Option.map_map]
      rfl

theorem readArguments_comma {as : List Char} (h : scanArgument .outside 0 as = some (.outside, 0))
    (cs : List Char) :
    readArguments .outside 0 (as ++ ',' :: cs)
      = (readArguments .outside 0 cs).map fun (a, rest) => (as, a :: rest) := by
  have hd : depthAfter .outside 0 ',' = none := by decide
  rw [readArguments_append h]
  simp only [readArguments, hd, if_true, Option.map_map]
  congr 1
  funext p
  simp

theorem readArguments_close {as : List Char} (h : scanArgument .outside 0 as = some (.outside, 0))
    (cs : List Char) : readArguments .outside 0 (as ++ ')' :: cs) = some (as, []) := by
  have hd : depthAfter .outside 0 ')' = none := by decide
  rw [readArguments_append h]
  simp [readArguments, hd]

/-- Within a number of open brackets, none more is closed and no comma is outside of brackets. -/
structure Enclosed (level : Int) (cs : List Char) : Prop where
  nested : ∀ p, p <+: cs → 0 ≤ level + depth p
  joined : ∀ p s, cs = p ++ ',' :: s → 0 < level + depth p

theorem depth_cons (c : Char) (cs : List Char) : depth (c :: cs) = depth [c] + depth cs := by
  unfold depth
  rw [List.countP_cons, List.countP_cons, List.countP_singleton, List.countP_singleton]
  omega

private theorem enclosed_nil {level : Int} : Enclosed level [] ↔ 0 ≤ level := by
  constructor
  · intro h
    simpa [depth] using h.nested [] List.prefix_rfl
  · intro h
    refine ⟨?_, by simp⟩
    intro p hp
    rw [List.prefix_nil.mp hp]
    simpa [depth] using h

theorem enclosed_cons {level : Int} {c : Char} {cs : List Char} :
    Enclosed level (c :: cs)
      ↔ 0 ≤ level ∧ (c = ',' → 0 < level) ∧ Enclosed (level + depth [c]) cs := by
  have hnil : depth [] = 0 := rfl
  constructor
  · intro ⟨hn, hj⟩
    refine ⟨?_, ?_, ?_, ?_⟩
    · have h := hn [] List.nil_prefix
      omega
    · intro hc
      have h := hj [] cs (by rw [hc]; rfl)
      omega
    · intro p hp
      have h := hn (c :: p) (List.cons_prefix_cons.mpr ⟨rfl, hp⟩)
      rw [depth_cons] at h
      omega
    · intro p s hs
      have h := hj (c :: p) s (by rw [hs]; rfl)
      rw [depth_cons] at h
      omega
  · intro ⟨h0, hc, hn, hj⟩
    refine ⟨?_, ?_⟩
    · intro p hp
      rcases List.prefix_cons_iff.mp hp with rfl | ⟨t, rfl, ht⟩
      · omega
      · have h := hn t ht
        rw [depth_cons]
        omega
    · intro p s hs
      rcases List.cons_eq_append_iff.mp hs with ⟨rfl, heq⟩ | ⟨t, rfl, heq⟩
      · have h := hc (List.cons.inj heq).1.symm
        omega
      · have h := hj t s heq
        rw [depth_cons]
        omega

private theorem Enclosed.nonneg {level : Int} {cs : List Char} (h : Enclosed level cs) :
    0 ≤ level := by
  have hn := h.nested [] List.nil_prefix
  have hnil : depth [] = 0 := rfl
  omega

private theorem depth_of_isOpening {c : Char} (h : isOpening c = true) :
    depth [c] = 1 ∧ c ≠ ',' := by
  simp only [isOpening, Bool.or_eq_true, decide_eq_true_eq] at h
  rcases h with rfl | rfl <;> decide

theorem depth_of_isClosing {c : Char} (h : isClosing c = true) : depth [c] = -1 ∧ c ≠ ',' := by
  simp only [isClosing, Bool.or_eq_true, decide_eq_true_eq] at h
  rcases h with rfl | rfl <;> decide

/-- Outside of quotes a character changes the number of open brackets by its own depth. -/
private theorem depthAfter_outside {level k : Nat} {c : Char}
    (h : depthAfter .outside level c = some k) :
    (k : Int) = level + depth [c] ∧ (c = ',' → 0 < level) := by
  unfold depthAfter at h
  dsimp only at h
  by_cases ho : isOpening c = true
  · have hd := depth_of_isOpening ho
    simp only [ho, if_true, Option.some.injEq] at h
    exact ⟨by omega, fun hc => absurd hc hd.2⟩
  · by_cases hc : isClosing c = true
    · have hd := depth_of_isClosing hc
      simp only [ho, hc, if_true] at h
      cases level with
      | zero => simp at h
      | succ level =>
        simp only [Bool.false_eq_true, if_false, Option.some.injEq] at h
        exact ⟨by omega, fun hc' => absurd hc' hd.2⟩
    · have hd : depth [c] = 0 := by
        simp [depth, ho, hc]
      rw [if_neg ho, if_neg hc] at h
      by_cases hcomma : c = ',' ∧ level = 0
      · rw [if_pos hcomma] at h
        cases h
      · rw [if_neg hcomma, Option.some.injEq] at h
        refine ⟨by omega, fun hc' => ?_⟩
        exact Nat.pos_of_ne_zero fun hzero => hcomma ⟨hc', hzero⟩

private theorem depthAfter_quoted {mode : Mode} {level : Nat} {c : Char}
    (h : ¬(mode = .outside ∧ isQuote c = false)) : depthAfter mode level c = some level := by
  cases mode with
  | outside =>
    have hq : isQuote c = true := by simpa using h
    rcases isQuote_iff.mp hq with rfl | rfl <;> rfl
  | quoted quote => rfl
  | escaped quote => rfl

/-- The scan within an argument, by what the characters outside of quotes are. -/
theorem scanArgument_eq_some {mode mode' : Mode} {level level' : Nat} {cs : List Char} :
    scanArgument mode level cs = some (mode', level')
      ↔ cs.foldl Mode.next mode = mode' ∧ (level : Int) + depth (bare mode cs) = level'
        ∧ Enclosed level (bare mode cs) := by
  -- A character within quotes is on neither side; one outside moves the number of open brackets
  -- by its own depth, and is refused exactly where the depth would fall below zero or a comma
  -- stands outside of brackets.
  induction cs generalizing mode level with
  | nil =>
    have hnil : depth [] = 0 := rfl
    simp only [scanArgument, bare, enclosed_nil, hnil, Option.some.injEq, Prod.mk.injEq,
      List.foldl_nil]
    refine and_congr_right fun _ => ?_
    omega
  | cons c cs ih =>
    unfold scanArgument bare
    rw [List.foldl_cons]
    by_cases hb : mode = .outside ∧ isQuote c = false
    · rw [if_pos hb]
      obtain ⟨rfl, hq⟩ := hb
      cases hd : depthAfter .outside level c with
      | some k =>
        obtain ⟨hk, hc⟩ := depthAfter_outside hd
        dsimp only
        rw [ih, enclosed_cons, depth_cons c, ← hk, ← Int.add_assoc, ← hk]
        constructor
        · intro h
          obtain ⟨hmode, hdepth, he⟩ := h
          exact ⟨hmode, hdepth, by omega, by simpa using hc, he⟩
        · intro h
          obtain ⟨hmode, hdepth, -, -, he⟩ := h
          exact ⟨hmode, hdepth, he⟩
      | none =>
        obtain ⟨-, rfl, hend⟩ := depthAfter_eq_none.mp hd
        simp only [reduceCtorEq, enclosed_cons, false_iff]
        intro h
        obtain ⟨-, -, -, hc, he⟩ := h
        rcases hend with hclose | rfl
        · have hd := depth_of_isClosing hclose
          have hn := he.nonneg
          omega
        · exact absurd (hc rfl) (by decide)
    · rw [if_neg hb, depthAfter_quoted hb]
      exact ih

theorem isArgument_iff {text : String} :
    IsArgument text ↔ scanArgument .outside 0 text.toList = some (.outside, 0) := by
  rw [scanArgument_eq_some]
  constructor
  · intro h
    refine ⟨h.closed, by simpa using h.balanced, ?_, ?_⟩
    · simpa using h.nested
    · simpa using h.joined
  · intro h
    obtain ⟨hclosed, hbalanced, henclosed⟩ := h
    refine ⟨hclosed, by simpa using hbalanced, ?_, ?_⟩
    · simpa using henclosed.nested
    · simpa using henclosed.joined

/-- In a single expression every quote is closed, so only brackets and commas matter. -/
theorem isArgument_of_isSingle {text : String} (h : isSingle text.toList = true) :
    IsArgument text
      ↔ depth (bare .outside text.toList) = 0
        ∧ (∀ p, p <+: bare .outside text.toList → 0 ≤ depth p)
        ∧ ∀ p s, bare .outside text.toList = p ++ ',' :: s → 0 < depth p := by
  have hclosed : text.toList.foldl Mode.next .outside = .outside :=
    foldl_next_of_scan (by simpa [isSingle] using h)
  constructor
  · intro ha
    exact ⟨ha.balanced, ha.nested, ha.joined⟩
  · intro ha
    exact ⟨hclosed, ha.1, ha.2.1, ha.2.2⟩

end ReactiveContract.Solidity
