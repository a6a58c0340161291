import ReactiveContract.Proofs.Contract.Extension
/-! The bindings of a description in another order. Constants get other names, but they mean the
same: each topic is dispatched to the same statements, and the same subscriptions are made. -/
namespace ReactiveContract
open Solidity

/-- The items at some positions, in the order of the positions. -/
def permuted {α : Type} (order : List Nat) (xs : List α) : List α := order.filterMap (xs[·]?)

section Permuted
variable {α β γ : Type} {order : List Nat}

theorem permuted_cons {i : Nat} {xs : List α} (h : i < xs.length) :
    permuted (i :: order) xs = xs[i] :: permuted order xs :=
  List.filterMap_cons_some (List.getElem?_eq_getElem h)

private theorem permuted_range (xs : List α) : permuted (List.range xs.length) xs = xs := by
  induction xs using List.reverseRecOn with
  | nil => rfl
  | append_singleton xs x ih =>
    have hbefore : permuted (List.range xs.length) (xs ++ [x])
        = permuted (List.range xs.length) xs := by
      apply List.filterMap_congr
      intro i hi
      exact List.getElem?_append_left (List.mem_range.mp hi)
    have hlast : permuted [xs.length] (xs ++ [x]) = [x] := by
      simp [permuted]
    rw [permuted] at hbefore hlast ⊢
    rw [List.length_append, List.length_singleton, List.range_succ, List.filterMap_append, hbefore,
      hlast]
    exact congrArg (· ++ [x]) ih

/-- All positions give all items. -/
theorem permuted_perm {xs : List α} (h : order.Perm (List.range xs.length)) :
    (permuted order xs).Perm xs := by
  have hperm : (permuted order xs).Perm (permuted (List.range xs.length) xs) := h.filterMap _
  rwa [permuted_range] at hperm

private theorem permuted_map (f : α → β) (xs : List α) :
    permuted order (xs.map f) = (permuted order xs).map f := by
  simp only [permuted, List.map_filterMap, List.getElem?_map]

private theorem permuted_zipWith (f : α → β → γ) {xs : List α} {ys : List β}
    (hx : ∀ i ∈ order, i < xs.length) (hy : ∀ i ∈ order, i < ys.length) :
    permuted order (List.zipWith f xs ys)
      = List.zipWith f (permuted order xs) (permuted order ys) := by
  induction order with
  | nil => rfl
  | cons i order ih =>
    have hi : i < xs.length := hx i List.mem_cons_self
    have hi' : i < ys.length := hy i List.mem_cons_self
    have hboth : i < (List.zipWith f xs ys).length := by
      rw [List.length_zipWith]
      omega
    rw [permuted_cons hi, permuted_cons hi', permuted_cons hboth, List.zipWith_cons_cons,
      List.getElem_zipWith, ih (fun j hj => hx j (List.mem_cons_of_mem i hj))
        fun j hj => hy j (List.mem_cons_of_mem i hj)]

theorem permuted_replicate {n : Nat} (h : order.Perm (List.range n)) (a : α) :
    permuted order (List.replicate n a) = List.replicate n a := by
  have hperm : (permuted order (List.replicate n a)).Perm (List.replicate n a) := by
    apply permuted_perm
    rwa [List.length_replicate]
  exact List.perm_replicate.mp hperm

/-- Where no two items have a property, their order does not matter to which is found. -/
private theorem find?_perm {p : α → Bool} {xs ys : List α} (h : xs.Perm ys)
    (hunique : ∀ x ∈ xs, ∀ y ∈ xs, p x = true → p y = true → x = y) :
    ys.find? p = xs.find? p := by
  cases hx : xs.find? p with
  | none =>
    rw [List.find?_eq_none] at hx ⊢
    intro y hy
    exact hx y (h.mem_iff.mpr hy)
  | some x =>
    have hmem := List.mem_of_find?_eq_some hx
    have hp := List.find?_some hx
    exact find?_eq_some_of_unique (h.mem_iff.mp hmem) hp
      fun y hy hpy => hunique y (h.mem_iff.mpr hy) x hmem hpy hp

/-- What is found in one of two related lists is related to what is found in the other. -/
private theorem find?_of_forall₂ {R : α → β → Prop} {p : α → Bool} {q : β → Bool} {f : α → Option γ}
    {g : β → γ} {xs : List α} {ys : List β} (h : List.Forall₂ R xs ys)
    (hR : ∀ x ∈ xs, ∀ y, R x y → p x = q y ∧ f x = some (g y)) :
    (xs.find? p).bind f = (ys.find? q).map g := by
  induction h with
  | nil => rfl
  | @cons x y xs ys hxy _ ih =>
    obtain ⟨hp, hf⟩ := hR x List.mem_cons_self y hxy
    have hrest := ih fun z hz => hR z (List.mem_cons_of_mem x hz)
    cases hq : q y with
    | true => simp [hp, hq, hf]
    | false => simp [hp, hq, hrest]

end Permuted

/-- The bindings in another order, and their origins with them if each has its own. -/
def Spec.reorder (spec : Spec) (order : List Nat) : Spec :=
  { settings := spec.settings.replaceOrigins (permuted order)
    bindings := permuted order spec.bindings }

/-- The contract that each binding listens to. -/
def Spec.contracts (spec : Spec) : List String :=
  match spec.settings.topology with
  | .protocolToProtocol => spec.settings.origins.map Address.text
  | .originToProtocol =>
    spec.settings.origins.flatMap fun a => List.replicate spec.bindings.length a.text
  | .blockchainWide => List.replicate spec.bindings.length Origins.anyContract

/-- No two bindings have a number for their topics in different spellings. -/
def Spec.SpellsAlike (spec : Spec) (n : Nat) : Prop :=
  ∀ b ∈ spec.bindings, ∀ c ∈ spec.bindings, hexLiteral? b.event.topic0 = some n →
    hexLiteral? c.event.topic0 = some n → b.event.topic0 = c.event.topic0

namespace Spec
variable {spec : Spec}

/-- Topics in all of their digits are spelled alike. -/
theorem spellsAlike_of_digits
    (h : ∀ b ∈ spec.bindings, ∃ topic, b.event.topic0 = topicText topic) (n : Nat) :
    spec.SpellsAlike n := by
  intro b hb c hc hbn hcn
  obtain ⟨t, ht⟩ := h b hb
  obtain ⟨u, hu⟩ := h c hc
  rw [ht, hexLiteral?_topicText] at hbn
  rw [hu, hexLiteral?_topicText] at hcn
  have hsame : t = u := BitVec.eq_of_toNat_eq (Option.some.inj (hbn.trans hcn.symm))
  rw [ht, hu, hsame]

theorem spellsAlike_of_resolved (h : ∀ b ∈ spec.bindings, b.Resolved) (n : Nat) :
    spec.SpellsAlike n :=
  spellsAlike_of_digits (fun b hb => (h b hb).event_declared.exists_topicText) n

theorem contracts_each (ht : spec.settings.topology = .protocolToProtocol) :
    spec.contracts = spec.settings.origins.map Address.text := by
  rw [contracts, ht]

theorem contracts_shared (ht : spec.settings.topology = .originToProtocol) {a : Address}
    (ha : spec.settings.origins = [a]) :
    spec.contracts = List.replicate spec.bindings.length a.text := by
  rw [contracts, ht, ha]
  exact List.flatMap_singleton _ _

theorem contracts_any (ht : spec.settings.topology = .blockchainWide) :
    spec.contracts = List.replicate spec.bindings.length Origins.anyContract := by
  rw [contracts, ht]

end Spec

namespace Plan

/-- The value that is declared for a name. -/
def value? (p : Plan) (name : String) : Option String :=
  (p.declarations.find? (·.name = name)).map (·.value)

/-- An argument, or its value if it is the name of a constant. -/
def expand (p : Plan) (argument : String) : String := (p.value? argument).getD argument

/-- The arguments of the subscriptions with values for the names of constants. -/
def expanded (p : Plan) : List (List String) :=
  p.subscriptions.map fun s => s.criteria.arguments.map p.expand

/-- The statements of the first branch whose constant has a value with a property. -/
def selected? (p : Plan) (holds : String → Bool) : Option (List Statement) :=
  (p.dispatch.branches.find? fun br => (p.value? br.topicConstant).any holds).map (·.statements)

/-- The statements for a binding. -/
def statements? (b : Binding) : Option (List Statement) :=
  (branch 0 b).toOption.map (·.statements)

/-- The index of a branch is in the name of its constant only. -/
theorem branch_index {i : Nat} {b : Binding} {br : Branch} (h : branch i b = .ok br) (j : Nat) :
    branch j b = .ok { br with topicConstant := eventConstantName j } := by
  obtain ⟨hlen, args, hargs, rfl⟩ := branch_eq_ok.mp h
  exact branch_eq_ok.mpr ⟨hlen, args, hargs, rfl⟩

theorem statements?_of_branch {i : Nat} {b : Binding} {br : Branch} (h : branch i b = .ok br) :
    statements? b = some br.statements := by
  rw [statements?, branch_index h 0]
  rfl

/-- Bindings that have branches have them at any index. -/
private theorem exists_branches {bindings : List Binding}
    (h : ∀ b ∈ bindings, ∃ i br, branch i b = .ok br) (n : Nat) :
    ∃ branches,
      List.Forall₂ (fun p br => branch p.2 p.1 = .ok br) (bindings.zipIdx n) branches := by
  induction bindings generalizing n with
  | nil => exact ⟨[], .nil⟩
  | cons b bindings ih =>
    obtain ⟨i, br, hbr⟩ := h b List.mem_cons_self
    obtain ⟨branches, hall⟩ := ih (fun c hc => h c (List.mem_cons_of_mem b hc)) (n + 1)
    exact ⟨_ :: branches, .cons (branch_index hbr n) hall⟩

section Assembled
variable {spec : Spec} {origins : Origins} {branches : List Branch}

theorem value?_of_mem (ho : Origins.ofSpec spec = .ok origins) {c : Constant}
    (hc : c ∈ (assemble spec origins branches).declarations) :
    (assemble spec origins branches).value? c.name = some c.value := by
  rw [value?, Constant.find?_of_mem (names_nodup ho) hc, Option.map_some]

theorem expand_of_mem (ho : Origins.ofSpec spec = .ok origins) {c : Constant}
    (hc : c ∈ (assemble spec origins branches).declarations) :
    (assemble spec origins branches).expand c.name = c.value := by
  rw [expand, value?_of_mem ho hc, Option.getD_some]

/-- What begins as no name does stays as it is. -/
private theorem expand_of_stems (ho : Origins.ofSpec spec = .ok origins) {argument : String}
    (h : ∀ stem ∈ stems, ¬ stem.toList <+: argument.toList) :
    (assemble spec origins branches).expand argument = argument := by
  have hnone : (assemble spec origins branches).value? argument = none := by
    rw [value?, Option.map_eq_none_iff, List.find?_eq_none]
    intro c hc hname
    apply notMem_names ho h
    rw [← of_decide_eq_true hname]
    exact List.mem_map_of_mem hc
  rw [expand, hnone, Option.getD_none]

theorem value?_event (ho : Origins.ofSpec spec = .ok origins) {i : Nat} {b : Binding}
    (hb : spec.bindings[i]? = some b) :
    (assemble spec origins branches).value? (eventConstantName i) = some b.event.topic0 :=
  value?_of_mem (c := ⟨"uint256", eventConstantName i, b.event.topic0⟩) ho
    (mem_declarations_event hb)

theorem mem_declarations_origin {c : Constant} (hc : c ∈ origins.constants) :
    c ∈ (assemble spec origins branches).declarations :=
  List.mem_append_left _ (List.mem_append_left _ (List.mem_append_right _ hc))

/-- The criteria mean the contracts that the bindings listen to. -/
private theorem map_expand_criteria (ho : Origins.ofSpec spec = .ok origins) :
    origins.criteria.map (assemble spec origins branches).expand = spec.contracts := by
  rcases Origins.of_eq_ok.mp ho with ⟨ht, -, rfl⟩ | ⟨ht, a, ha, rfl⟩ | ⟨ht, -, rfl⟩
  · rw [Spec.contracts_each ht, ← List.forall₂_eq_eq_eq, List.forall₂_map_left_iff,
      List.forall₂_map_right_iff]
    refine (Origins.numbers_ofEach spec.settings.origins).resolved.flip.imp fun name a hname => ?_
    have hmem : (⟨"address", name, a.text⟩ : Constant)
        ∈ (Origins.ofEach spec.settings.origins).constants :=
      (List.mem_filter.mp (hname ▸ List.mem_singleton_self _)).1
    exact expand_of_mem ho (mem_declarations_origin hmem)
  · have hshared : (assemble spec (Origins.ofShared a spec.bindings.length) branches).expand
        Origins.sharedName = a.text :=
      expand_of_mem (c := ⟨"address", Origins.sharedName, a.text⟩) ho
        (mem_declarations_origin (List.mem_singleton_self _))
    rw [Spec.contracts_shared ht ha, Origins.ofShared, List.map_replicate]
    exact congrArg _ hshared
  · have hany : (assemble spec (Origins.ofAny spec.bindings.length) branches).expand
        Origins.anyContract = Origins.anyContract := expand_of_stems ho (by decide)
    rw [Spec.contracts_any ht, Origins.ofAny, List.map_replicate]
    exact congrArg _ hany

theorem expanded_assemble (ho : Origins.ofSpec spec = .ok origins) :
    (assemble spec origins branches).expanded
      = List.zipWith (fun contract b => [toString spec.settings.originChainId, contract,
          b.event.topic0, anyTopic, anyTopic, anyTopic]) spec.contracts spec.bindings := by
  have hcontracts : origins.criteria.map (assemble spec origins branches).expand
      = spec.contracts := map_expand_criteria ho
  have hlength := Origins.length_criteria ho
  have hchain : (assemble spec origins branches).expand "ORIGIN_CHAIN_ID"
      = toString spec.settings.originChainId :=
    expand_of_mem (c := ⟨"uint256", "ORIGIN_CHAIN_ID", toString spec.settings.originChainId⟩) ho
      List.mem_cons_self
  have hany : (assemble spec origins branches).expand anyTopic = anyTopic :=
    expand_of_stems ho (by decide)
  rw [← hcontracts]
  apply List.ext_getElem
  · simp [expanded, assemble, subscriptionsOf, hlength]
  · intro i hi hi'
    have hbinding : i < spec.bindings.length := by
      rw [List.length_zipWith] at hi'
      omega
    have htopic : (assemble spec origins branches).expand (eventConstantName i)
        = spec.bindings[i].event.topic0 := by
      rw [expand, value?_event ho (List.getElem?_eq_getElem hbinding), Option.getD_some]
    have hsubscriptions : (assemble spec origins branches).subscriptions
        = subscriptionsOf origins.criteria := rfl
    simp [expanded, hsubscriptions, subscriptionsOf, Criteria.arguments, hchain, hany, htopic]

/-- The statements are those for the first binding whose topic has the property. -/
theorem selected?_assemble (ho : Origins.ofSpec spec = .ok origins)
    (hall : List.Forall₂ (fun p br => branch p.2 p.1 = .ok br) spec.bindings.zipIdx branches)
    (holds : String → Bool) :
    (assemble spec origins branches).selected? holds
      = (spec.bindings.find? (holds ·.event.topic0)).bind statements? := by
  have hzip : (spec.bindings.find? (holds ·.event.topic0)).bind statements?
      = (spec.bindings.zipIdx.find? (holds ·.1.event.topic0)).bind (statements? ·.1) := by
    have hbindings := List.zipIdx_map_fst 0 spec.bindings
    conv_lhs => rw [← hbindings, List.find?_map, Option.bind_map]
    rfl
  rw [hzip]
  refine (find?_of_forall₂ hall fun p hmem br hbr => ?_).symm
  have hb : spec.bindings[p.2]? = some p.1 := List.mk_mem_zipIdx_iff_getElem?.mp hmem
  obtain ⟨-, args, -, hbranch⟩ := branch_eq_ok.mp hbr
  have hconstant : br.topicConstant = eventConstantName p.2 := by rw [hbranch]
  constructor
  · rw [hconstant, value?_event ho hb, Option.any_some]
  · exact statements?_of_branch hbr

end Assembled

section Reordered
variable {spec : Spec} {order : List Nat}
  (horder : order.Perm (List.range spec.bindings.length))
include horder

theorem lt_of_mem_order {i : Nat} (hi : i ∈ order) : i < spec.bindings.length :=
  List.mem_range.mp (horder.mem_iff.mp hi)

theorem length_permuted {α : Type} {xs : List α} (h : xs.length = spec.bindings.length) :
    (permuted order xs).length = spec.bindings.length := by
  rw [← h] at horder
  rw [(permuted_perm horder).length_eq, h]

/-- The origins fit the bindings in any order, and each binding keeps its contract. -/
theorem origins_reorder {origins : Origins} (ho : Origins.ofSpec spec = .ok origins) :
    (∃ origins', Origins.ofSpec (spec.reorder order) = .ok origins')
      ∧ spec.contracts.length = spec.bindings.length
      ∧ (spec.reorder order).contracts = permuted order spec.contracts := by
  have hlength : (spec.reorder order).bindings.length = spec.bindings.length :=
    length_permuted horder rfl
  rcases Origins.of_eq_ok.mp ho with ⟨ht, hlen, -⟩ | ⟨ht, a, ha, -⟩ | ⟨ht, ha, -⟩
  · have ht' : (spec.reorder order).settings.topology = .protocolToProtocol := ht
    have horigins : (spec.reorder order).settings.origins
        = permuted order spec.settings.origins := by
      simp [Spec.reorder, Settings.replaceOrigins, ht]
    refine ⟨⟨_, Origins.of_eq_ok.mpr (.inl ⟨ht', ?_, rfl⟩)⟩, ?_, ?_⟩
    · rw [horigins, hlength, length_permuted horder hlen]
    · rw [Spec.contracts_each ht, List.length_map, hlen]
    · rw [Spec.contracts_each ht', Spec.contracts_each ht, horigins, permuted_map]
  · have ht' : (spec.reorder order).settings.topology = .originToProtocol := ht
    have ha' : (spec.reorder order).settings.origins = [a] := by
      simp [Spec.reorder, Settings.replaceOrigins, ht, ha]
    refine ⟨⟨_, Origins.of_eq_ok.mpr (.inr (.inl ⟨ht', a, ha', rfl⟩))⟩, ?_, ?_⟩
    · rw [Spec.contracts_shared ht ha, List.length_replicate]
    · rw [Spec.contracts_shared ht' ha', Spec.contracts_shared ht ha, hlength,
        permuted_replicate horder]
  · have ht' : (spec.reorder order).settings.topology = .blockchainWide := ht
    have ha' : (spec.reorder order).settings.origins = [] := by
      simp [Spec.reorder, Settings.replaceOrigins, ht, ha]
    refine ⟨⟨_, Origins.of_eq_ok.mpr (.inr (.inr ⟨ht', ha', rfl⟩))⟩, ?_, ?_⟩
    · rw [Spec.contracts_any ht, List.length_replicate]
    · rw [Spec.contracts_any ht', Spec.contracts_any ht, hlength, permuted_replicate horder]

theorem bindings_reorder : (spec.reorder order).bindings.Perm spec.bindings :=
  permuted_perm horder

/-- Each binding has its branch wherever it stands. -/
private theorem branches_reorder {branches : List Branch}
    (hall : List.Forall₂ (fun p br => branch p.2 p.1 = .ok br) spec.bindings.zipIdx branches) :
    ∃ branches', List.Forall₂ (fun p br => branch p.2 p.1 = .ok br)
      (spec.reorder order).bindings.zipIdx branches' := by
  apply exists_branches
  intro b hb
  obtain ⟨i, hi⟩ := List.getElem?_of_mem ((bindings_reorder horder).mem_iff.mp hb)
  obtain ⟨br, -, hbr⟩ := branch_getElem? hall hi
  exact ⟨i, br, hbr⟩

private theorem check_reorder (hc : check spec = .ok ()) : check (spec.reorder order) = .ok () := by
  apply check_replaceOrigins hc
  intro hnil
  have hperm := bindings_reorder horder
  rw [Spec.reorder, hnil] at hperm
  exact (check_eq_ok.mp hc).1 hperm.nil_eq.symm

section Assembled
variable {origins origins' : Origins} {branches branches' : List Branch}
  (ho : Origins.ofSpec spec = .ok origins)
  (ho' : Origins.ofSpec (spec.reorder order) = .ok origins')
include ho ho'

/-- If the topics are different texts, and a property does not hold of two of them, the same
statements are selected for it. -/
theorem selected?_reorder
    (hall : List.Forall₂ (fun p br => branch p.2 p.1 = .ok br) spec.bindings.zipIdx branches)
    (hall' : List.Forall₂ (fun p br => branch p.2 p.1 = .ok br)
      (spec.reorder order).bindings.zipIdx branches')
    (htopics : (spec.bindings.map (·.event.topic0)).Nodup) {holds : String → Bool}
    (hunique : ∀ b ∈ spec.bindings, ∀ c ∈ spec.bindings, holds b.event.topic0 = true →
      holds c.event.topic0 = true → b.event.topic0 = c.event.topic0) :
    (assemble (spec.reorder order) origins' branches').selected? holds
      = (assemble spec origins branches).selected? holds := by
  have hfind : (spec.reorder order).bindings.find? (holds ·.event.topic0)
      = spec.bindings.find? (holds ·.event.topic0) := by
    apply find?_perm (bindings_reorder horder).symm
    intro b hb c hc hbt hct
    exact List.inj_on_of_nodup_map htopics hb hc (hunique b hb c hc hbt hct)
  rw [selected?_assemble ho' hall', selected?_assemble ho hall, hfind]

private theorem expanded_reorder :
    (assemble (spec.reorder order) origins' branches').expanded
      = permuted order (assemble spec origins branches).expanded := by
  obtain ⟨-, hlen, hcontracts⟩ := origins_reorder horder ho
  rw [expanded_assemble ho', expanded_assemble ho, hcontracts, permuted_zipWith]
  · rfl
  · exact fun i hi => hlen ▸ lt_of_mem_order horder hi
  · exact fun i hi => lt_of_mem_order horder hi

end Assembled

private theorem named_reorder {origins origins' : Origins} {branches branches' : List Branch} :
    (assemble (spec.reorder order) origins' branches').reactParameters.named
      = (assemble spec origins branches).reactParameters.named := by
  apply ReactParameters.named_congr
  intro name
  rw [mem_used, mem_used]
  simp only [(bindings_reorder horder).mem_iff]
  exact Iff.rfl

end Reordered

/-- The order of bindings whose topics are different texts does not matter. The same statements are
selected for each text of a topic, and for each number that is not spelled in two ways, which none is
by resolved bindings; the same subscriptions are made, in the order of the bindings; and the same
parameters have names. -/
theorem ofSpec_reorder {spec : Spec} {plan : Plan} (hp : (ofSpec spec).outcome = .ok plan)
    (htopics : (spec.bindings.map (·.event.topic0)).Nodup) {order : List Nat}
    (horder : order.Perm (List.range spec.bindings.length)) :
    ∃ plan', (ofSpec (spec.reorder order)).outcome = .ok plan'
      ∧ (∀ text, plan'.selected? (· = text) = plan.selected? (· = text))
      ∧ (∀ topic : BitVec 256, spec.SpellsAlike topic.toNat →
        plan'.selected? (hexLiteral? · = some topic.toNat)
          = plan.selected? (hexLiteral? · = some topic.toNat))
      ∧ ((∀ b ∈ spec.bindings, b.Resolved) → ∀ topic : BitVec 256,
        plan'.selected? (hexLiteral? · = some topic.toNat)
          = plan.selected? (hexLiteral? · = some topic.toNat))
      ∧ plan'.expanded = permuted order plan.expanded
      ∧ plan'.expanded.Perm plan.expanded
      ∧ plan'.reactParameters.named = plan.reactParameters.named := by
  obtain ⟨hc, origins, branches, ho, hall, rfl⟩ := ofSpec_eq_ok.mp hp
  obtain ⟨⟨origins', ho'⟩, hlen, -⟩ := origins_reorder horder ho
  obtain ⟨branches', hall'⟩ := branches_reorder horder hall
  have hexpanded : (assemble (spec.reorder order) origins' branches').expanded
      = permuted order (assemble spec origins branches).expanded := expanded_reorder horder ho ho'
  have hselected (topic : BitVec 256) (halike : spec.SpellsAlike topic.toNat) :
      (assemble (spec.reorder order) origins' branches').selected?
          (hexLiteral? · = some topic.toNat)
        = (assemble spec origins branches).selected? (hexLiteral? · = some topic.toNat) := by
    apply selected?_reorder horder ho ho' hall hall' htopics
    intro b hb c hc hbt hct
    exact halike b hb c hc (of_decide_eq_true hbt) (of_decide_eq_true hct)
  refine ⟨_, ofSpec_eq_ok.mpr ⟨check_reorder horder hc, origins', branches', ho', hall', rfl⟩,
    fun text => ?_, hselected, fun hr topic => ?_, hexpanded, ?_, named_reorder horder⟩
  · apply selected?_reorder horder ho ho' hall hall' htopics
    intro b _ c _ hb hc
    exact (of_decide_eq_true hb).trans (of_decide_eq_true hc).symm
  · exact hselected topic (Spec.spellsAlike_of_resolved hr topic.toNat)
  · rw [hexpanded]
    apply permuted_perm
    rwa [expanded_assemble ho, List.length_zipWith, hlen, Nat.min_self]

theorem selected?_of_find? {spec : Spec} {plan : Plan} (hp : (ofSpec spec).outcome = .ok plan)
    (holds : String → Bool) {b : Binding}
    (h : spec.bindings.find? (holds ·.event.topic0) = some b) :
    plan.selected? holds = statements? b := by
  obtain ⟨-, origins, branches, ho, hall, rfl⟩ := ofSpec_eq_ok.mp hp
  rw [selected?_assemble ho hall, h, Option.bind_some]

/-- A credit for a transfer, for the logs of some topic and with some function. -/
def filedAs (topic0 signature : String) : Binding :=
  { transferCredit with
    event := { transferCredit.event with topic0 }
    callee := { transferCredit.callee with signature } }

def filed (topic : BitVec 256) (signature : String) : Binding := filedAs (topicText topic) signature

def filedSpec : Spec :=
  { settings := { transferSpec.settings with
      topology := .protocolToProtocol, origins := [⟨1⟩, ⟨2⟩] }
    bindings := [filed 7 "credit(address,uint256)", filed 9 "debit(address,uint256)"] }

def filedBranch (i : Nat) (signature : String) : Branch :=
  { topicConstant := eventConstantName i
    statements := [
      .decode ⟨[("uint256", some "evt_value")]⟩,
      .require ⟨"value > 0", "Condition not met"⟩,
      .emit ⟨signature, ["address(uint160(topic_1))", "evt_value"]⟩] }

def filedPlan : Plan :=
  assemble filedSpec (Origins.ofEach [⟨1⟩, ⟨2⟩])
    [filedBranch 0 "credit(address,uint256)", filedBranch 1 "debit(address,uint256)"]

theorem branch_filedAs (i : Nat) (topic0 signature : String) :
    branch i (filedAs topic0 signature) = .ok (filedBranch i signature) := by
  refine branch_eq_ok.mpr ⟨rfl, ["address(uint160(topic_1))", "evt_value"], ?_, rfl⟩
  exact arguments_eq_ok.mpr (.cons topicExpression_address (.cons rfl .nil))

theorem statements?_filedAs (topic0 signature : String) :
    statements? (filedAs topic0 signature) = some (filedBranch 0 signature).statements :=
  statements?_of_branch (branch_filedAs 0 topic0 signature)

private theorem ofSpec_filedSpec : (ofSpec filedSpec).outcome = .ok filedPlan := by
  refine ofSpec_eq_ok.mpr ⟨rfl, _, _, rfl, ?_, rfl⟩
  exact .cons (branch_filedAs 0 _ _) (.cons (branch_filedAs 1 _ _) .nil)

private theorem topics_filedSpec : (filedSpec.bindings.map (·.event.topic0)).Nodup := by
  have hne : topicText 7 ≠ topicText 9 := fun h => absurd (topicText_injective h) (by decide)
  exact List.nodup_cons.mpr ⟨fun h => hne (List.mem_singleton.mp h), List.nodup_singleton _⟩

private theorem spellsAlike_filedSpec (n : Nat) : filedSpec.SpellsAlike n := by
  refine Spec.spellsAlike_of_digits (fun b hb => ?_) n
  rcases List.mem_pair.mp hb with rfl | rfl
  · exact ⟨7, rfl⟩
  · exact ⟨9, rfl⟩

/-- The first of the two bindings comes last. The second, whose constants were those of index one,
is still selected for its topic. -/
theorem filedPlan_reorder :
    (ofSpec filedSpec).outcome = .ok filedPlan
      ∧ (filedSpec.bindings.map (·.event.topic0)).Nodup
      ∧ [1, 0].Perm (List.range filedSpec.bindings.length)
      ∧ filedSpec.SpellsAlike 9
      ∧ ∃ plan, (ofSpec (filedSpec.reorder [1, 0])).outcome = .ok plan
        ∧ plan.selected? (hexLiteral? · = some 9)
          = some (filedBranch 0 "debit(address,uint256)").statements
        ∧ plan.expanded.Perm filedPlan.expanded := by
  have horder : [1, 0].Perm (List.range filedSpec.bindings.length) := by decide
  have hother : ¬ hexLiteral? (filed 7 "credit(address,uint256)").event.topic0
      = some (9 : BitVec 256).toNat := by
    rw [show (filed 7 "credit(address,uint256)").event.topic0 = topicText 7 from rfl,
      hexLiteral?_topicText]
    decide
  have hfind : filedSpec.bindings.find? (hexLiteral? ·.event.topic0 = some (9 : BitVec 256).toNat)
      = some (filed 9 "debit(address,uint256)") := by
    rw [filedSpec, List.find?_cons_of_neg (by simpa using hother), List.find?_cons_of_pos]
    exact decide_eq_true (hexLiteral?_topicText 9)
  have hfiled := selected?_of_find? ofSpec_filedSpec
    (hexLiteral? · = some (9 : BitVec 256).toNat) hfind
  obtain ⟨plan, hplan, -, hselected, -, -, hperm, -⟩ :=
    ofSpec_reorder ofSpec_filedSpec topics_filedSpec horder
  have hdebit := (hselected 9 (spellsAlike_filedSpec 9)).trans
    (hfiled.trans (statements?_filedAs (topicText 9) _))
  exact ⟨ofSpec_filedSpec, topics_filedSpec, horder, spellsAlike_filedSpec 9, plan, hplan, hdebit,
    hperm⟩

def smallTopic : String := "0x69ca02dd4edd7bf0a4abb9ed3b7af3f14778db5d61921c7dc7cd545266326de2"

def capitalTopic : String := "0x69CA02DD4EDD7BF0A4ABB9ED3B7AF3F14778DB5D61921C7DC7CD545266326DE2"

/-- A credit and a debit for one number, each with a spelling of its own. -/
def respelledSpec : Spec :=
  { transferSpec with
    bindings := [
      filedAs smallTopic "credit(address,uint256)", filedAs capitalTopic "debit(address,uint256)"] }

def respelledPlan : Plan :=
  assemble respelledSpec (Origins.ofAny 2) [
    filedBranch 0 "credit(address,uint256)", filedBranch 1 "debit(address,uint256)"]

def exchangedPlan : Plan :=
  assemble (respelledSpec.reorder [1, 0]) (Origins.ofAny 2) [
    filedBranch 0 "debit(address,uint256)", filedBranch 1 "credit(address,uint256)"]

/-- The logs of this number are credited in one order and debited in the other. -/
theorem respelledPlan_exchanged :
    (ofSpec respelledSpec).outcome = .ok respelledPlan
      ∧ (respelledSpec.bindings.map (·.event.topic0)).Nodup
      ∧ [1, 0].Perm (List.range respelledSpec.bindings.length)
      ∧ (ofSpec (respelledSpec.reorder [1, 0])).outcome = .ok exchangedPlan
      ∧ ∃ topic : BitVec 256,
        respelledPlan.selected? (hexLiteral? · = some topic.toNat)
            = some (filedBranch 0 "credit(address,uint256)").statements
          ∧ exchangedPlan.selected? (hexLiteral? · = some topic.toNat)
            = some (filedBranch 0 "debit(address,uint256)").statements
          ∧ exchangedPlan.selected? (hexLiteral? · = some topic.toNat)
            ≠ respelledPlan.selected? (hexLiteral? · = some topic.toNat) := by
  have hplan : (ofSpec respelledSpec).outcome = .ok respelledPlan := by
    refine ofSpec_eq_ok.mpr ⟨rfl, _, _, rfl, ?_, rfl⟩
    exact .cons (branch_filedAs 0 _ _) (.cons (branch_filedAs 1 _ _) .nil)
  have hexchanged : (ofSpec (respelledSpec.reorder [1, 0])).outcome = .ok exchangedPlan := by
    refine ofSpec_eq_ok.mpr ⟨rfl, _, _, rfl, ?_, rfl⟩
    exact .cons (branch_filedAs 0 _ _) (.cons (branch_filedAs 1 _ _) .nil)
  have hne : smallTopic ≠ capitalTopic := by decide
  have htopics : (respelledSpec.bindings.map (·.event.topic0)).Nodup :=
    List.nodup_cons.mpr ⟨fun h => hne (List.mem_singleton.mp h), List.nodup_singleton _⟩
  let topic : BitVec 256 := 0x69ca02dd4edd7bf0a4abb9ed3b7af3f14778db5d61921c7dc7cd545266326de2
  have hsmall : hexLiteral? smallTopic = some topic.toNat := by decide +kernel
  have hcapital : hexLiteral? capitalTopic = some topic.toNat := by decide +kernel
  have hcredit : respelledPlan.selected? (hexLiteral? · = some topic.toNat)
      = some (filedBranch 0 "credit(address,uint256)").statements :=
    (selected?_of_find? hplan _ (List.find?_cons_of_pos (decide_eq_true hsmall))).trans
      (statements?_filedAs smallTopic _)
  have hdebit : exchangedPlan.selected? (hexLiteral? · = some topic.toNat)
      = some (filedBranch 0 "debit(address,uint256)").statements :=
    (selected?_of_find? hexchanged _ (List.find?_cons_of_pos (decide_eq_true hcapital))).trans
      (statements?_filedAs capitalTopic _)
  refine ⟨hplan, htopics, by decide, hexchanged, topic, hcredit, hdebit, ?_⟩
  rw [hcredit, hdebit]
  decide

end Plan
end ReactiveContract
