import Mathlib.Data.List.Forall2
import Mathlib.Data.Set.List
import ReactiveContract.Document.Scalar
/-! When values of documents are read, and as what. -/
namespace ReactiveContract.Document

theorem exists_map_eq_iff {α β γ : Type} {f : α → γ} {g : β → γ} {l : List α} :
    (∃ m : List β, l.map f = m.map g) ↔ ∀ a ∈ l, ∃ b, f a = g b := by
  have hrange : l.map f ∈ Set.range (List.map g) ↔ ∀ c ∈ l.map f, c ∈ Set.range g := by
    rw [Set.range_list_map]
    exact Iff.rfl
  rw [List.forall_mem_map] at hrange
  simpa only [Set.mem_range, eq_comm] using hrange

theorem map_eq_map_iff {α β γ : Type} {f : α → γ} {g : β → γ} {l : List α} {m : List β} :
    l.map f = m.map g ↔ List.Forall₂ (fun a b => f a = g b) l m := by
  rw [← List.forall₂_eq_eq_eq, List.forall₂_map_left_iff, List.forall₂_map_right_iff]

namespace Checked
variable {α β : Type} {x : Checked α}

theorem map_eq_ok {f : α → β} {b : β} : f <$> x = .ok b ↔ ∃ a, x = .ok a ∧ f a = b := by
  cases x <;> simp [Functor.map, Checked.map]

theorem seq_eq_ok {f : Checked (α → β)} {b : β} :
    f <*> x = .ok b ↔ ∃ g a, f = .ok g ∧ x = .ok a ∧ g a = b := by
  cases f <;> cases x <;> simp [Seq.seq, Checked.apply]

theorem under_eq_ok {step : Step} {a : α} : x.under step = .ok a ↔ x = .ok a := by
  cases x <;> simp [Checked.under]

theorem refine_eq_ok {f : α → Except Cause β} {b : β} :
    x.refine f = .ok b ↔ ∃ a, x = .ok a ∧ f a = .ok b := by
  cases x with
  | rejected faults => simp [refine]
  | ok a => cases hf : f a <;> simp [refine, hf, fail]

end Checked

theorem text_eq_ok {j : Json} {s : String} : text j = .ok s ↔ j = .str s := by
  cases j <;> simp [text, Checked.fail]

theorem object_eq_ok {j : Json} {fields : Fields} : object j = .ok fields ↔ j = .obj fields := by
  cases j <;> simp [object, Checked.fail]

theorem itemsFrom_eq_ok {α : Type} {read : Json → Checked α} {index : Nat} {items : List Json}
    {values : List α} :
    itemsFrom read index items = .ok values ↔ items.map read = values.map .ok := by
  induction items generalizing index values with
  | nil => simp only [itemsFrom, Checked.ok.injEq, List.map_nil, List.nil_eq, List.map_eq_nil_iff]
  | cons j rest ih =>
    simp only [itemsFrom, Checked.seq_eq_ok, Checked.map_eq_ok, Checked.under_eq_ok, ih,
      List.map_cons]
    constructor
    · rintro ⟨-, others, ⟨value, hvalue, rfl⟩, hothers, rfl⟩
      rw [List.map_cons, hvalue, hothers]
    · intro h
      cases values with
      | nil => cases h
      | cons value others =>
        obtain ⟨hvalue, hothers⟩ := List.cons.inj h
        exact ⟨_, others, ⟨value, hvalue, rfl⟩, hothers, rfl⟩

/-- A list is read exactly if it is one and each of its items is read. -/
theorem exists_list_eq_ok {α : Type} {read : Json → Checked α} {j : Json} :
    (∃ values, list read j = .ok values)
      ↔ ∃ items, j = .arr items ∧ ∀ item ∈ items, ∃ value, read item = .ok value := by
  cases j with
  | arr items => simp [list, itemsFrom_eq_ok, exists_map_eq_iff]
  | _ => simp [list, Checked.fail]

end ReactiveContract.Document
