import Mathlib.Data.List.Forall2
import ReactiveContract.Proofs.Contract.Dispatch
import ReactiveContract.Proofs.Contract.Origins
import ReactiveContract.Proofs.Text.Hexadecimal
/-! How origins are numbered: one address after the other, each under the name of its constant. -/
namespace ReactiveContract
open Solidity

private theorem find?_zipIdx {α : Type} [DecidableEq α] (a : α) (xs : List α) (n : Nat) :
    (xs.zipIdx n).find? (·.1 = a) = if a ∈ xs then some (a, n + xs.idxOf a) else none := by
  induction xs generalizing n with
  | nil => rfl
  | cons x xs ih =>
    by_cases hx : x = a
    · simp [hx]
    · have hmem : a ∈ x :: xs ↔ a ∈ xs := by simp [Ne.symm hx]
      have hindex : n + 1 + xs.idxOf a = n + (x :: xs).idxOf a := by
        rw [List.idxOf_cons_ne _ hx]
        omega
      simp only [List.zipIdx_cons, List.find?_cons, hx, decide_false, ih, hmem, hindex]

theorem eraseDups_append_singleton {α : Type} [DecidableEq α] (xs : List α) (a : α) :
    (xs ++ [a]).eraseDups = if a ∈ xs then xs.eraseDups else xs.eraseDups ++ [a] := by
  rw [List.eraseDups_append]
  by_cases h : a ∈ xs
  · simp [List.removeAll, h]
  · simp [List.removeAll, h, List.eraseDups_cons]

/-- Without repetitions, the images of some items are those of the distinct items. -/
theorem eraseDups_map {α β : Type} [DecidableEq α] [DecidableEq β] {f : α → β}
    (hf : Function.Injective f) (xs : List α) : (xs.map f).eraseDups = xs.eraseDups.map f := by
  induction xs using List.reverseRecOn with
  | nil => rfl
  | append_singleton xs x ih =>
    rw [List.map_append, List.map_singleton, eraseDups_append_singleton,
      eraseDups_append_singleton, ih]
    simp only [List.mem_map_of_injective hf]
    split
    · rfl
    · rw [List.map_append, List.map_singleton]

theorem exists_of_mem_right {α β : Type} {R : α → β → Prop} {xs : List α} {ys : List β}
    (h : List.Forall₂ R xs ys) {y : β} (hy : y ∈ ys) : ∃ x ∈ xs, R x y := by
  induction h with
  | nil => simp at hy
  | @cons x z xs ys hxz _ ih =>
    rcases List.mem_cons.mp hy with rfl | hy
    · exact ⟨x, List.mem_cons_self, hxz⟩
    · obtain ⟨w, hw, hwy⟩ := ih hy
      exact ⟨w, List.mem_cons_of_mem x hw, hwy⟩

namespace Origins

/-- Takes one more origin. One that has a constant is named by it, and any other gets a constant
with the next number. -/
def record (o : Origins) (a : Address) : Origins :=
  match o.constants.find? (·.value = a.text) with
  | some c => { o with criteria := o.criteria ++ [c.name] }
  | none =>
    { constants := o.constants ++ [⟨"address", numberedName o.constants.length, a.text⟩]
      criteria := o.criteria ++ [numberedName o.constants.length] }

private theorem find?_ofEach (addresses : List Address) (a : Address) :
    (ofEach addresses).constants.find? (·.value = a.text)
      = if a ∈ addresses then
          some ⟨"address", numberedName (addresses.eraseDups.idxOf a), a.text⟩
        else none := by
  have htext : (fun p : Address × Nat => decide (p.1.text = a.text))
      = fun p => decide (p.1 = a) := by
    funext p
    exact decide_eq_decide.mpr ⟨Address.text_injective, congrArg Address.text⟩
  rw [ofEach, List.find?_map]
  change Option.map _ (List.find? (fun p : Address × Nat => decide (p.1.text = a.text)) _) = _
  rw [htext, find?_zipIdx, apply_ite (Option.map _)]
  simp only [List.mem_eraseDups, Option.map_some, Option.map_none, Nat.zero_add]

theorem ofEach_append (addresses : List Address) (a : Address) :
    ofEach (addresses ++ [a]) = (ofEach addresses).record a := by
  have hlength : (ofEach addresses).constants.length = addresses.eraseDups.length := by
    simp [ofEach]
  unfold record
  rw [find?_ofEach]
  by_cases h : a ∈ addresses
  · rw [if_pos h]
    simp only [ofEach, eraseDups_append_singleton, if_pos h, List.map_append, List.map_singleton]
  · rw [if_neg h]
    have hnew : a ∉ addresses.eraseDups := fun hmem => h (List.mem_eraseDups.mp hmem)
    have hold : addresses.map (fun b => numberedName ((addresses.eraseDups ++ [a]).idxOf b))
        = (ofEach addresses).criteria :=
      List.map_congr_left fun b hb => by
        rw [List.idxOf_append_of_mem (List.mem_eraseDups.mpr hb)]
    simp only [ofEach, eraseDups_append_singleton, if_neg h, List.map_append, List.map_singleton,
      List.zipIdx_append, List.idxOf_append_of_notMem hnew] at hold hlength ⊢
    rw [hold, hlength]
    simp

/-- The origins are taken one after the other. -/
private theorem ofEach_eq_foldl (addresses : List Address) :
    ofEach addresses = addresses.foldl record ⟨[], []⟩ := by
  induction addresses using List.reverseRecOn with
  | nil => rfl
  | append_singleton addresses a ih =>
    rw [ofEach_append, ih, List.foldl_append]
    rfl

/-- Where the value of a constant first appears among some addresses. -/
def appearance (addresses : List Address) (c : Constant) : Nat :=
  (addresses.map Address.text).idxOf c.value

private theorem appearance_lt {addresses : List Address} {c : Constant}
    (h : c.value ∈ addresses.map Address.text) : appearance addresses c < addresses.length := by
  have hlt := List.idxOf_lt_length_of_mem h
  rwa [List.length_map] at hlt

theorem appearance_append {addresses : List Address} {c : Constant}
    (h : c.value ∈ addresses.map Address.text) (a : Address) :
    appearance (addresses ++ [a]) c = appearance addresses c := by
  rw [appearance, List.map_append, List.idxOf_append_of_mem h]
  rfl

private theorem appearance_last {addresses : List Address} {a : Address}
    (h : a.text ∉ addresses.map Address.text) (type name : String) :
    appearance (addresses ++ [a]) ⟨type, name, a.text⟩ = addresses.length := by
  rw [appearance, List.map_append, List.idxOf_append_of_notMem h]
  simp

/-- The constants are numbered from zero in the order in which their values first appear among some
addresses. Each of them is used, and the criterion of each address names exactly one of them, whose
value is the address. -/
structure Numbers (o : Origins) (addresses : List Address) : Prop where
  names : o.constants.map (·.name) = (List.range o.constants.length).map numberedName
  ordered : (o.constants.map (appearance addresses)).Pairwise (· < ·)
  used : ∀ c ∈ o.constants, c.name ∈ o.criteria
  resolved : List.Forall₂ (fun a name =>
    o.constants.filter (·.name = name) = [⟨"address", name, a.text⟩]) addresses o.criteria

namespace Numbers
variable {o : Origins} {addresses : List Address}

/-- A name that is used names one constant, which holds one of the addresses. -/
theorem exists_address (h : o.Numbers addresses) {c : Constant} (hc : c ∈ o.constants) :
    ∃ a ∈ addresses, c = ⟨"address", c.name, a.text⟩
      ∧ o.constants.filter (·.name = c.name) = [c] := by
  obtain ⟨a, ha, hfilter⟩ := exists_of_mem_right h.resolved (h.used c hc)
  have hmem : c ∈ o.constants.filter (·.name = c.name) :=
    List.mem_filter.mpr ⟨hc, decide_eq_true rfl⟩
  rw [hfilter] at hmem
  have heq := List.mem_singleton.mp hmem
  exact ⟨a, ha, heq, hfilter.trans (congrArg (fun d => [d]) heq.symm)⟩

theorem value_mem (h : o.Numbers addresses) {c : Constant} (hc : c ∈ o.constants) :
    c.value ∈ addresses.map Address.text := by
  obtain ⟨a, ha, heq, -⟩ := h.exists_address hc
  exact List.mem_map.mpr ⟨a, ha, (congrArg Constant.value heq).symm⟩

/-- Every address is the value of the constant that its criterion names. -/
private theorem exists_constant (h : o.Numbers addresses) {a : Address} (ha : a ∈ addresses) :
    ∃ c ∈ o.constants, c.value = a.text := by
  obtain ⟨name, -, hfilter⟩ := exists_of_mem_right h.resolved.flip ha
  have hmem : (⟨"address", name, a.text⟩ : Constant) ∈ o.constants.filter (·.name = name) := by
    rw [hfilter]
    exact List.mem_singleton_self _
  exact ⟨_, (List.mem_filter.mp hmem).1, rfl⟩

theorem values_nodup (h : o.Numbers addresses) : (o.constants.map (·.value)).Nodup := by
  rw [List.Nodup, List.pairwise_map]
  refine (List.pairwise_map.mp h.ordered).imp fun hlt heq => ?_
  rw [appearance, appearance, heq] at hlt
  exact Nat.lt_irrefl _ hlt

theorem ne_numberedName (h : o.Numbers addresses) {c : Constant} (hc : c ∈ o.constants) :
    c.name ≠ numberedName o.constants.length := by
  intro heq
  have hmem : c.name ∈ o.constants.map (·.name) := List.mem_map_of_mem hc
  rw [h.names, heq] at hmem
  obtain ⟨i, hi, hname⟩ := List.mem_map.mp hmem
  have hlt := List.mem_range.mp hi
  rw [numberedName_injective hname] at hlt
  exact Nat.lt_irrefl _ hlt

/-- One more address at the end does not move where the others first appear. -/
theorem ordered_append (h : o.Numbers addresses) (a : Address) :
    (o.constants.map (appearance (addresses ++ [a]))).Pairwise (· < ·) := by
  have hsame : o.constants.map (appearance (addresses ++ [a]))
      = o.constants.map (appearance addresses) :=
    List.map_congr_left fun c hc => appearance_append (h.value_mem hc) a
  rw [hsame]
  exact h.ordered

theorem nil : Numbers ⟨[], []⟩ [] := ⟨rfl, .nil, by simp, .nil⟩

private theorem record_known (h : o.Numbers addresses) {a : Address} {c : Constant}
    (hc : c ∈ o.constants) (hvalue : c.value = a.text) :
    Numbers { o with criteria := o.criteria ++ [c.name] } (addresses ++ [a]) := by
  obtain ⟨b, -, heq, hfilter⟩ := h.exists_address hc
  have hb : b.text = a.text := (congrArg Constant.value heq).symm.trans hvalue
  rw [hb] at heq
  refine ⟨h.names, h.ordered_append a, fun d hd => List.mem_append_left _ (h.used d hd), ?_⟩
  exact List.rel_append h.resolved (.cons (hfilter.trans (congrArg (fun d => [d]) heq)) .nil)

private theorem record_new (h : o.Numbers addresses) {a : Address}
    (hvalue : ∀ c ∈ o.constants, c.value ≠ a.text) :
    Numbers
      { constants := o.constants ++ [⟨"address", numberedName o.constants.length, a.text⟩]
        criteria := o.criteria ++ [numberedName o.constants.length] } (addresses ++ [a]) := by
  have hfirst : a.text ∉ addresses.map Address.text := by
    intro hmem
    obtain ⟨b, hb, htext⟩ := List.mem_map.mp hmem
    obtain ⟨c, hc, hc'⟩ := h.exists_constant hb
    exact hvalue c hc (hc'.trans htext)
  refine ⟨?_, ?_, ?_, List.rel_append (h.resolved.imp fun b name hb => ?_) (.cons ?_ .nil)⟩
  · rw [List.map_append, h.names, List.length_append, List.length_singleton, List.range_succ,
      List.map_append]
    rfl
  · rw [List.map_append, List.map_singleton, appearance_last hfirst, List.pairwise_append]
    refine ⟨h.ordered_append a, List.pairwise_singleton _ _, fun i hi j hj => ?_⟩
    obtain ⟨c, hc, rfl⟩ := List.mem_map.mp hi
    rw [List.mem_singleton.mp hj, appearance_append (h.value_mem hc)]
    exact appearance_lt (h.value_mem hc)
  · intro c hc
    rcases List.mem_append.mp hc with hc | hc
    · exact List.mem_append_left _ (h.used c hc)
    · rw [List.mem_singleton.mp hc]
      exact List.mem_append_right _ (List.mem_singleton_self _)
  · have hmem : (⟨"address", name, b.text⟩ : Constant) ∈ o.constants :=
      (List.mem_filter.mp (hb ▸ List.mem_singleton_self _)).1
    have hne := h.ne_numberedName hmem
    rw [List.filter_append, hb]
    simp [hne.symm]
  · have hnone : o.constants.filter (·.name = numberedName o.constants.length) = [] :=
      List.filter_eq_nil_iff.mpr fun c hc => by simpa using h.ne_numberedName hc
    rw [List.filter_append, hnone]
    simp

/-- What one more address preserves. -/
theorem record (h : o.Numbers addresses) (a : Address) :
    (o.record a).Numbers (addresses ++ [a]) := by
  unfold Origins.record
  split
  case h_1 c hfind =>
    exact h.record_known (List.mem_of_find?_eq_some hfind) (by simpa using List.find?_some hfind)
  case h_2 hfind =>
    exact h.record_new fun c hc => by simpa using List.find?_eq_none.mp hfind c hc

/-- What a run over further addresses preserves. -/
theorem foldl (h : o.Numbers addresses) (further : List Address) :
    (further.foldl Origins.record o).Numbers (addresses ++ further) := by
  induction further generalizing o addresses with
  | nil => rwa [List.append_nil]
  | cons a further ih =>
    rw [List.append_cons]
    exact ih (h.record a)

end Numbers

theorem numbers_ofEach (addresses : List Address) : (ofEach addresses).Numbers addresses := by
  rw [ofEach_eq_foldl]
  exact Numbers.nil.foldl addresses

/-- The origins of every accepted description. Each binding has one criterion. With an origin for
each binding the constants number them; with a shared one every criterion names its constant; and
otherwise nothing is declared and every criterion is any contract. -/
theorem ofSpec_resolves {spec : Spec} {origins : Origins} (h : ofSpec spec = .ok origins) :
    origins.criteria.length = spec.bindings.length
      ∧ match spec.settings.topology with
        | .protocolToProtocol =>
          origins.Numbers spec.settings.origins ∧ (origins.constants.map (·.value)).Nodup
        | .originToProtocol =>
          ∃ a, spec.settings.origins = [a]
            ∧ origins.constants = [⟨"address", sharedName, a.text⟩]
            ∧ ∀ c ∈ origins.criteria, c = sharedName
        | .blockchainWide => origins.constants = [] ∧ ∀ c ∈ origins.criteria, c = anyContract := by
  refine ⟨length_criteria h, ?_⟩
  rcases of_eq_ok.mp h with ⟨ht, -, rfl⟩ | ⟨ht, a, ha, rfl⟩ | ⟨ht, -, rfl⟩
  · rw [ht]
    exact ⟨numbers_ofEach _, (numbers_ofEach _).values_nodup⟩
  · rw [ht]
    exact ⟨a, ha, rfl, fun c hc => List.eq_of_mem_replicate hc⟩
  · rw [ht]
    exact ⟨rfl, fun c hc => List.eq_of_mem_replicate hc⟩

/-- The first origin comes back after the second. -/
def returningSpec : Spec :=
  { settings := { transferSpec.settings with
      topology := .protocolToProtocol, origins := [⟨7⟩, ⟨3⟩, ⟨7⟩] }
    bindings := [transferCredit, transferCredit, transferCredit] }

def returningOrigins : Origins :=
  { constants := [⟨"address", "ORIGIN_CONTRACT_0", (Address.mk 7).text⟩,
      ⟨"address", "ORIGIN_CONTRACT_1", (Address.mk 3).text⟩]
    criteria := ["ORIGIN_CONTRACT_0", "ORIGIN_CONTRACT_1", "ORIGIN_CONTRACT_0"] }

theorem returningSpec_resolves :
    ofSpec returningSpec = .ok returningOrigins
      ∧ returningOrigins.criteria.length = returningSpec.bindings.length
      ∧ returningOrigins.Numbers [⟨7⟩, ⟨3⟩, ⟨7⟩]
      ∧ (returningOrigins.constants.map (·.value)).Nodup := by
  have h : ofSpec returningSpec = .ok returningOrigins := rfl
  exact ⟨h, ofSpec_resolves h⟩

end Origins
end ReactiveContract
