import ReactiveContract.Contract.Topology
import ReactiveContract.Proofs.Text.Case
/-! Which values name a topology. -/
namespace ReactiveContract.Topology
open Text

/-- The letters of a name in lower case, without hyphens and underscores. -/
def letters (name : String) : List Char :=
  lowerCase (name.toList.filter fun c => c != '_' && c != '-')

/-- A text with the letters of a topology. -/
def Names (given : Json) (t : Topology) : Prop :=
  ∃ name, given = .str name ∧ letters name = letters t.text

private theorem isAscii_letters_text (t : Topology) : ∀ c ∈ letters t.text, IsAscii c := by
  have h : (letters t.text).all (fun c => c.toNat < 0x80) = true := by
    cases t <;> decide +kernel
  intro c hc
  change c.toNat < 0x80
  simpa using List.all_eq_true.mp h c hc

theorem letters_text_injective {t u : Topology} (h : letters t.text = letters u.text) : t = u := by
  cases t <;> cases u <;> first | rfl | exact absurd h (by decide +kernel)

private theorem nameKey_text (t : Topology) : nameKey t.text = String.ofList (letters t.text) := by
  cases t <;> decide +kernel

theorem nameKey_eq_iff {name : String} {t : Topology} :
    nameKey t.text = nameKey name ↔ letters name = letters t.text := by
  have hshort : letters name = letters t.text
      ↔ (name.toList.filter fun c => c != '_' && c != '-').map lowerChar = letters t.text :=
    lowerCase_eq_iff (isAscii_letters_text t)
  rw [nameKey_text, nameKey, Text.lower, String.ofList_inj, String.toList_ofList, eq_comm, hshort]

theorem ofText?_eq_some {name : String} {t : Topology} :
    ofText? name = some t ↔ letters name = letters t.text := by
  unfold ofText?
  simp only [nameKey_eq_iff]
  constructor
  · intro h
    simpa using List.find?_some h
  · intro h
    have hself : ∀ u : Topology, decide (letters name = letters u.text) = decide (t = u) := by
      intro u
      rw [h, decide_eq_decide]
      exact ⟨letters_text_injective, fun htu => htu ▸ rfl⟩
    simp only [hself]
    cases t <;> rfl

/-- Names with the same letters are names of the same topology, or of none. -/
theorem ofText?_congr {a b : String} (h : letters a = letters b) : ofText? a = ofText? b := by
  apply Option.ext
  intro t
  rw [ofText?_eq_some, ofText?_eq_some, h]

theorem resolve_eq_ok {given : Json} {t : Topology} : resolve given = .ok t ↔ Names given t := by
  unfold resolve Names
  cases given with
  | str name =>
    simp only [Json.str.injEq, exists_eq_left', ← ofText?_eq_some]
    cases ofText? name <;> simp
  | _ => simp

theorem resolve_eq_error {given : Json} {failure : Failure} :
    resolve given = .error failure
      ↔ (∀ t, ¬ Names given t) ∧ failure = .unsupportedTopology (.unknown given) := by
  simp only [← resolve_eq_ok]
  have herror : ∀ f, resolve given = .error f → f = .unsupportedTopology (.unknown given) := by
    intro f hf
    unfold resolve at hf
    cases given with
    | str name =>
      dsimp only at hf
      split at hf
      · cases hf
      · exact (Except.error.inj hf).symm
    | _ => exact (Except.error.inj hf).symm
  cases hr : resolve given with
  | ok t => simp
  | error f => simp [herror f hr, eq_comm]

end ReactiveContract.Topology
