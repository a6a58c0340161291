import Mathlib.Data.List.Nodup
import ReactiveContract.Contract.Origins
import ReactiveContract.Proofs.Text.Numeral
/-! The origins of subscriptions: each is any contract or one of the declared constants. -/
namespace ReactiveContract
open Solidity Text

/-- What depends on the indices of a list only. -/
theorem map_zipIdx_index {α β : Type} (f : Nat → β) (xs : List α) :
    xs.zipIdx.map (fun p => f p.2) = (List.range xs.length).map f := by
  have hindices : xs.zipIdx.map Prod.snd = List.range xs.length := by
    rw [List.zipIdx_map_snd, List.range_eq_range']
  rw [← hindices, List.map_map]
  rfl

/-- Numbered names of one stem. -/
theorem nodup_numbered {name : Nat → String} (hinj : ∀ i j, name i = name j → i = j) (n : Nat) :
    ((List.range n).map name).Nodup :=
  List.Nodup.map_on (fun i _ j _ => hinj i j) List.nodup_range

namespace Origins

theorem numberedName_injective {i j : Nat} (h : numberedName i = numberedName j) : i = j :=
  append_toString_injective (sharedName ++ "_") h

theorem of_eq_ok {topology : Topology} {addresses : List Address} {bindings : Nat}
    {origins : Origins} :
    of topology addresses bindings = .ok origins
      ↔ (topology = .protocolToProtocol ∧ addresses.length = bindings
          ∧ origins = ofEach addresses)
        ∨ (topology = .originToProtocol ∧ ∃ a, addresses = [a] ∧ origins = ofShared a bindings)
        ∨ topology = .blockchainWide ∧ addresses = [] ∧ origins = ofAny bindings := by
  cases topology with
  | protocolToProtocol =>
    by_cases hlen : addresses.length = bindings
    · simp [of, hlen, eq_comm]
    · simp [of, hlen]
  | originToProtocol =>
    cases addresses with
    | nil => simp [of]
    | cons a rest => cases rest <;> simp [of, eq_comm]
  | blockchainWide => cases addresses <;> simp [of, eq_comm]

variable {topology : Topology} {addresses : List Address} {bindings : Nat} {origins : Origins}

/-- Every binding has its criterion. -/
theorem length_criteria (h : of topology addresses bindings = .ok origins) :
    origins.criteria.length = bindings := by
  rcases of_eq_ok.mp h with ⟨-, hlen, rfl⟩ | ⟨-, a, -, rfl⟩ | ⟨-, -, rfl⟩
  · simpa [ofEach] using hlen
  · simp [ofShared]
  · simp [ofAny]

/-- The names of the constants are numbered from zero, or there is only the shared one. -/
theorem names_eq (h : of topology addresses bindings = .ok origins) :
    origins.constants.map (·.name) = [sharedName]
      ∨ ∃ n, origins.constants.map (·.name) = (List.range n).map numberedName := by
  rcases of_eq_ok.mp h with ⟨-, -, rfl⟩ | ⟨-, a, -, rfl⟩ | ⟨-, -, rfl⟩
  · right
    refine ⟨addresses.eraseDups.length, ?_⟩
    rw [ofEach, List.map_map, ← map_zipIdx_index]
    rfl
  · exact .inl rfl
  · exact .inr ⟨0, rfl⟩

theorem names_nodup (h : of topology addresses bindings = .ok origins) :
    (origins.constants.map (·.name)).Nodup := by
  rcases names_eq h with hshared | ⟨n, hnumbered⟩
  · rw [hshared]
    exact List.nodup_singleton _
  · rw [hnumbered]
    exact nodup_numbered (fun i j => numberedName_injective) n

/-- A criterion that is not any contract names one of the constants. -/
theorem criterion_declared (h : of topology addresses bindings = .ok origins) {c : String}
    (hc : c ∈ origins.criteria) : c = anyContract ∨ c ∈ origins.constants.map (·.name) := by
  rcases of_eq_ok.mp h with ⟨-, -, rfl⟩ | ⟨-, a, -, rfl⟩ | ⟨-, -, rfl⟩
  · right
    obtain ⟨a, ha, rfl⟩ := List.mem_map.mp hc
    have hdistinct : a ∈ addresses.eraseDups := List.mem_eraseDups.mpr ha
    have hlt := List.idxOf_lt_length_of_mem hdistinct
    refine List.mem_map.mpr ⟨⟨"address", numberedName (addresses.eraseDups.idxOf a), a.text⟩, ?_,
      rfl⟩
    refine List.mem_map.mpr ⟨(a, addresses.eraseDups.idxOf a), ?_, rfl⟩
    rw [List.mk_mem_zipIdx_iff_getElem?, List.getElem?_eq_getElem hlt, List.getElem_idxOf hlt]
  · right
    rw [List.eq_of_mem_replicate hc]
    exact List.mem_singleton_self _
  · exact .inl (List.eq_of_mem_replicate hc)

end Origins
end ReactiveContract
