import ReactiveContract.Traced
/-! When a chain of computations that may fail succeeds, and what it fails with. -/
namespace ReactiveContract

namespace Outcome

/-- Two outcomes with related values, or with a failure each. -/
inductive Rel {ε α : Type} (R : α → α → Prop) : Except ε α → Except ε α → Prop
  | ok {a b : α} (h : R a b) : Rel R (.ok a) (.ok b)
  | error (e d : ε) : Rel R (.error e) (.error d)

theorem exists_ok_iff {ε α : Type} {x : Except ε α} :
    (∃ a, x = .ok a) ↔ ¬ ∃ e, x = .error e := by
  cases x <;> simp

theorem bind_eq_ok {ε α β : Type} {x : Except ε α} {f : α → Except ε β} {b : β} :
    (x >>= f) = .ok b ↔ ∃ a, x = .ok a ∧ f a = .ok b := by
  cases x <;> simp [bind, Except.bind]

theorem bind_eq_error {ε α β : Type} {x : Except ε α} {f : α → Except ε β} {e : ε} :
    (x >>= f) = .error e ↔ x = .error e ∨ ∃ a, x = .ok a ∧ f a = .error e := by
  cases x <;> simp [bind, Except.bind]

theorem bind_pure_eq_error {ε α β : Type} {x : Except ε α} {f : α → β} {e : ε} :
    (x >>= fun a => pure (f a)) = .error e ↔ x = .error e := by
  cases x <;> simp [bind, Except.bind, pure, Except.pure]

theorem pure_eq_ok {ε α : Type} {a b : α} : (pure a : Except ε α) = .ok b ↔ a = b := by
  simp [pure, Except.pure]

theorem throw_ne_ok {ε α : Type} {e : ε} {a : α} : (throw e : Except ε α) ≠ .ok a := nofun

theorem map_eq_ok {ε α β : Type} {x : Except ε α} {f : α → β} {b : β} :
    x.map f = .ok b ↔ ∃ a, x = .ok a ∧ f a = b := by
  cases x <;> simp [Except.map]

/-- Two lists with one image begin with items of one image. -/
theorem map_cons_eq_map_iff {α β γ : Type} {f : α → γ} {g : β → γ} {x : α} {xs : List α}
    {ys : List β} :
    (x :: xs).map f = ys.map g
      ↔ ∃ y, f x = g y ∧ ∃ rest, xs.map f = rest.map g ∧ y :: rest = ys := by
  rw [List.map_cons]
  constructor
  · intro h
    cases ys with
    | nil => cases h
    | cons y rest =>
      obtain ⟨hy, hrest⟩ := List.cons.inj h
      exact ⟨y, hy, rest, hrest, rfl⟩
  · rintro ⟨y, hy, rest, hrest, rfl⟩
    rw [hy, hrest, List.map_cons]

theorem mapM_eq_ok {ε α β : Type} {f : α → Except ε β} {xs : List α} {ys : List β} :
    xs.mapM f = .ok ys ↔ xs.map f = ys.map .ok := by
  induction xs generalizing ys with
  | nil =>
    rw [List.mapM_nil, pure_eq_ok, List.map_nil]
    simp only [List.nil_eq, List.map_eq_nil_iff]
  | cons x xs ih => simp only [List.mapM_cons, bind_eq_ok, pure_eq_ok, ih, map_cons_eq_map_iff]

/-- The first item that fails decides what comes of a list. -/
theorem mapM_eq_error {ε α β : Type} {f : α → Except ε β} {xs : List α} {e : ε} :
    xs.mapM f = .error e ↔ ∃ before x after, xs = before ++ x :: after
      ∧ (∀ earlier ∈ before, ∃ y, f earlier = .ok y) ∧ f x = .error e := by
  induction xs with
  | nil => simp [pure, Except.pure]
  | cons x xs ih =>
    rw [List.mapM_cons, bind_eq_error]
    simp only [bind_pure_eq_error, ih]
    constructor
    · rintro (h | ⟨y, hy, before, z, after, rfl, hbefore, hz⟩)
      · exact ⟨[], x, xs, rfl, nofun, h⟩
      · exact ⟨x :: before, z, after, rfl, List.forall_mem_cons.mpr ⟨⟨y, hy⟩, hbefore⟩, hz⟩
    · rintro ⟨before, z, after, heq, hbefore, hz⟩
      cases before with
      | nil =>
        obtain ⟨rfl, -⟩ := List.cons.inj heq
        exact .inl hz
      | cons first before =>
        obtain ⟨rfl, rfl⟩ := List.cons.inj heq
        obtain ⟨⟨y, hy⟩, hbefore⟩ := List.forall_mem_cons.mp hbefore
        exact .inr ⟨y, hy, before, z, after, rfl, hbefore, hz⟩

theorem mapError_ok {ε δ α : Type} (f : ε → δ) (a : α) :
    (.ok a : Except ε α).mapError f = .ok a := rfl

theorem mapError_error {ε δ α : Type} (f : ε → δ) (e : ε) :
    (.error e : Except ε α).mapError f = .error (f e) := rfl

theorem mapError_eq_ok {ε δ α : Type} {x : Except ε α} {f : ε → δ} {a : α} :
    x.mapError f = .ok a ↔ x = .ok a := by
  cases x <;> simp [mapError_ok, mapError_error]

theorem mapError_eq_error {ε δ α : Type} {x : Except ε α} {f : ε → δ} {d : δ} :
    x.mapError f = .error d ↔ ∃ e, x = .error e ∧ f e = d := by
  cases x <;> simp [mapError_ok, mapError_error]

theorem mapError_bind {ε δ α β : Type} (x : Except ε α) (f : α → Except ε β) (g : ε → δ) :
    (x >>= f).mapError g = x.mapError g >>= fun a => (f a).mapError g := by
  cases x <;> rfl

theorem toOption_bind {ε α β : Type} (x : Except ε α) (f : α → Except ε β) :
    (x >>= f).toOption = x.toOption.bind fun a => (f a).toOption := by
  cases x <;> rfl

/-- All failures have a property. -/
def FailsWith {ε α : Type} (P : ε → Prop) (x : Except ε α) : Prop := ∀ e, x = .error e → P e

section FailsWith
variable {ε α β : Type} {P : ε → Prop}

theorem failsWith_ok (a : α) : FailsWith P (.ok a) := nofun

theorem failsWith_error {e : ε} : FailsWith P (.error e : Except ε α) ↔ P e := by
  simp [FailsWith]

theorem FailsWith.bind {x : Except ε α} {f : α → Except ε β} (hx : FailsWith P x)
    (hf : ∀ a, FailsWith P (f a)) : FailsWith P (x >>= f) := by
  cases x with
  | ok a => exact hf a
  | error e => exact failsWith_error.mpr (hx e rfl)

theorem FailsWith.map {x : Except ε α} (hx : FailsWith P x) (f : α → β) :
    FailsWith P (x.map f) := by
  cases x with
  | ok a => exact failsWith_ok (f a)
  | error e => exact failsWith_error.mpr (hx e rfl)

end FailsWith

end Outcome

namespace Traced

@[simp] theorem outcome_pure {α : Type} (a : α) : (pure a : Traced α).outcome = .ok a := rfl

@[simp] theorem outcome_note (n : Note) : (note n).outcome = .ok () := rfl

@[simp] theorem outcome_fail {α : Type} (failure : Failure) :
    (fail failure : Traced α).outcome = .error failure := rfl

@[simp] theorem outcome_ofExcept {α : Type} (outcome : Except Failure α) :
    (ofExcept outcome).outcome = outcome := rfl

@[simp] theorem outcome_noteViolation {α : Type} (n : Note) (x : Traced α) :
    (noteViolation n x).outcome = x.outcome := by
  unfold noteViolation
  split <;> rfl

/-- Notes have no influence on the outcome. -/
theorem outcome_bind {α β : Type} (x : Traced α) (f : α → Traced β) :
    (x >>= f).outcome = x.outcome >>= fun a => (f a).outcome := by
  change (Traced.bind x f).outcome = _
  unfold Traced.bind
  cases x.outcome <;> rfl

theorem outcome_bind_eq_ok {α β : Type} {x : Traced α} {f : α → Traced β} {b : β} :
    (x >>= f).outcome = .ok b ↔ ∃ a, x.outcome = .ok a ∧ (f a).outcome = .ok b := by
  rw [outcome_bind, Outcome.bind_eq_ok]

theorem outcome_bind_of_ok {α β : Type} {x : Traced α} {a : α} (h : x.outcome = .ok a)
    (f : α → Traced β) : (x >>= f).outcome = (f a).outcome := by
  rw [outcome_bind, h]
  rfl

theorem outcome_ofExcept_bind {ε α β : Type} {x : Except ε α} {a : α} (h : x = .ok a)
    (g : ε → Failure) (f : α → Traced β) :
    (ofExcept (x.mapError g) >>= f).outcome = (f a).outcome := by
  subst h
  rfl

/-- A chain fails where the first of its parts does. -/
theorem outcome_bind_eq_error {α β : Type} {x : Traced α} {f : α → Traced β} {e : Failure} :
    (x >>= f).outcome = .error e
      ↔ x.outcome = .error e ∨ ∃ a, x.outcome = .ok a ∧ (f a).outcome = .error e := by
  rw [outcome_bind, Outcome.bind_eq_error]

theorem failsWith_bind {α β : Type} {P : Failure → Prop} {x : Traced α} {f : α → Traced β} :
    Outcome.FailsWith P (x >>= f).outcome
      ↔ Outcome.FailsWith P x.outcome
        ∧ ∀ a, x.outcome = .ok a → Outcome.FailsWith P (f a).outcome := by
  simp only [Outcome.FailsWith, outcome_bind_eq_error]
  constructor
  · intro h
    exact ⟨fun e hx => h e (.inl hx), fun a ha e hf => h e (.inr ⟨a, ha, hf⟩)⟩
  · rintro ⟨hx, hf⟩ e (h | ⟨a, ha, h⟩)
    · exact hx e h
    · exact hf a ha e h

@[simp] theorem notes_pure {α : Type} (a : α) : (pure a : Traced α).notes = [] := rfl

@[simp] theorem notes_note (n : Note) : (note n).notes = [n] := rfl

@[simp] theorem notes_ofExcept {α : Type} (outcome : Except Failure α) :
    (ofExcept outcome).notes = [] := rfl

/-- The notes of a chain are those of its parts, one after the other. -/
theorem notes_bind_of_ok {α β : Type} {x : Traced α} {a : α} (h : x.outcome = .ok a)
    (f : α → Traced β) : (x >>= f).notes = x.notes ++ (f a).notes := by
  change (Traced.bind x f).notes = _
  rw [Traced.bind, h]

end Traced
end ReactiveContract
