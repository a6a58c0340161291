import Mathlib.Data.List.Basic
/-! Parts that are joined by a separator. -/
namespace ReactiveContract.Text
variable {α : Type}

/-- What holds of the separator and of the parts holds of all that they are joined to. -/
theorem forall_mem_intercalate {P : α → Prop} {sep : List α} {parts : List (List α)}
    (hsep : ∀ a ∈ sep, P a) (h : ∀ part ∈ parts, ∀ a ∈ part, P a) :
    ∀ a ∈ sep.intercalate parts, P a := by
  induction parts with
  | nil => simp
  | cons part parts ih =>
    have hpart : ∀ a ∈ part, P a := h part (by simp)
    have hrest := ih fun other ho => h other (by simp [ho])
    cases parts with
    | nil => simpa using hpart
    | cons next parts =>
      rw [List.intercalate_cons_cons]
      exact List.forall_mem_append.mpr ⟨List.forall_mem_append.mpr ⟨hpart, hsep⟩, hrest⟩

theorem notMem_intercalate {a : α} {sep : List α} (hsep : a ∉ sep) {parts : List (List α)}
    (h : ∀ part ∈ parts, a ∉ part) : a ∉ sep.intercalate parts := by
  have hne : ∀ b ∈ sep.intercalate parts, b ≠ a :=
    forall_mem_intercalate (fun _ hb => ne_of_mem_of_not_mem hb hsep)
      fun part hp _ hb => ne_of_mem_of_not_mem hb (h part hp)
  exact fun ha => hne a ha rfl

/-- Parts that are not empty and do not have the separator in them are found again. -/
theorem intercalate_injective [BEq α] [LawfulBEq α] {a : α} {parts others : List (List α)}
    (hne : [] ∉ parts) (hne' : [] ∉ others) (h : ∀ part ∈ parts, a ∉ part)
    (h' : ∀ part ∈ others, a ∉ part)
    (heq : [a].intercalate parts = [a].intercalate others) : parts = others := by
  -- Joining one empty part and joining none come to the same, so no part may be empty.
  have hnil {parts : List (List α)} (hne : [] ∉ parts) (h : ∀ part ∈ parts, a ∉ part)
      (hjoined : [a].intercalate parts = []) : parts = [] := by
    by_contra hparts
    have hsplit := List.splitOn_intercalate a h hparts
    rw [hjoined, List.splitOn_nil] at hsplit
    rw [← hsplit] at hne
    simp at hne
  by_cases hparts : parts = []
  · subst hparts
    exact (hnil hne' h' heq.symm).symm
  · by_cases hothers : others = []
    · subst hothers
      exact hnil hne h heq
    · rw [← List.splitOn_intercalate a h hparts, heq, List.splitOn_intercalate a h' hothers]

/-- The last place of an item that does not come again is found again. -/
theorem append_cons_injective {a : α} {before before' after after' : List α} (h : a ∉ after)
    (h' : a ∉ after') (heq : before ++ a :: after = before' ++ a :: after') :
    before = before' ∧ after = after' := by
  have hlast {after after' between : List α} (h : a ∉ after)
      (heq : a :: after = between ++ a :: after') : between = [] := by
    cases between with
    | nil => rfl
    | cons b between =>
      obtain ⟨-, rfl⟩ := List.cons.inj heq
      simp at h
  rcases List.append_eq_append_iff.mp heq with ⟨between, rfl, hafter⟩ | ⟨between, rfl, hafter⟩
  · obtain rfl := hlast h hafter
    exact ⟨(List.append_nil before).symm, (List.cons.inj hafter).2⟩
  · obtain rfl := hlast h' hafter
    exact ⟨List.append_nil before', (List.cons.inj hafter).2.symm⟩

end ReactiveContract.Text
