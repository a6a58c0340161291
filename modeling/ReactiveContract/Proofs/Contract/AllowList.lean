import ReactiveContract.Proofs.Contract.Numbering
import ReactiveContract.Proofs.Contract.Scope
import ReactiveContract.Proofs.Contract.Splice
/-! The addresses that a contract handles the logs of: the constants for them, the test that
compares an address with these constants, and the guard that asks for the test first. -/
namespace ReactiveContract
open Solidity Text

namespace Solidity

theorem hexLiteral?_text (a : Address) : hexLiteral? a.text = some a.word.toNat := by
  have hmark : a.text.toList = '0' :: 'x' :: a.checksumDigits := by
    rw [Address.text, String.toList_ofList]
  have hnumber : (a.checksumDigits.mapM hexValue?).map ofHexDigits = some a.word.toNat := by
    have hread := a.number?_text
    rw [Address.number?, hmark] at hread
    exact hread
  rw [hexLiteral?, hmark]
  exact hnumber

/-- Whether a number is the value of one of the constants that a test names. -/
def AllowList.admits (constants : List Constant) (names : List String) (n : Nat) : Bool :=
  names.any fun name => Constant.valueOf? constants name = some n

private theorem AllowList.exists_render {l : AllowList} (h : l.addresses ≠ []) :
    ∃ lines, l.render? = some lines := by
  have hne : l.constants ≠ [] := by simpa [constants] using h
  unfold render?
  split
  case h_1 hnil => exact absurd hnil hne
  case h_2 => exact ⟨_, rfl⟩

/-- A table is not read as the test of an address. -/
theorem AllowList.read?_table (t : SubscriptionTable) :
    read? (joinLines (indent 1 t.render)) = none := by
  obtain ⟨rest, hlines⟩ : ∃ rest, indent 1 t.render = ("    " ++ SubscriptionTable.head) :: rest :=
    ⟨_, rfl⟩
  have hclosed : Closed ("    " ++ SubscriptionTable.head) := by decide +kernel
  have hhead : (tokens ("    " ++ SubscriptionTable.head)).take 2
      = [.word "function", .word "getPausableSubscriptions"] := by decide +kernel
  obtain ⟨ts, hts⟩ := exists_tokens_joinLines hclosed hhead rest
  rw [read?, hlines, hts]
  rfl

end Solidity

theorem Settings.addressOfText_eq_ok {role text : String} {a : Address} :
    addressOfText role text = .ok a ↔ Address.read? text = some a := by
  unfold addressOfText
  cases Address.read? text <;> simp

theorem Settings.addressesOfTexts_eq_ok {role : String} {texts : List String}
    {addresses : List Address} :
    addressesOfTexts role texts = .ok addresses
      ↔ List.Forall₂ (fun text a => Address.read? text = some a) texts addresses := by
  induction texts generalizing addresses with
  | nil =>
    simp only [addressesOfTexts, Except.ok.injEq, List.forall₂_nil_left_iff]
    exact eq_comm
  | cons text texts ih =>
    simp only [addressesOfTexts, Outcome.bind_eq_ok, Outcome.pure_eq_ok, addressOfText_eq_ok, ih,
      List.forall₂_cons_left_iff]
    constructor
    · intro h
      obtain ⟨a, ha, rest, hrest, rfl⟩ := h
      exact ⟨a, rest, ha, hrest, rfl⟩
    · intro h
      obtain ⟨a, rest, ha, hrest, rfl⟩ := h
      exact ⟨a, ha, rest, hrest, rfl⟩

/-- An address was read exactly if one of the texts stands for its number. -/
private theorem Settings.mem_addressesOfTexts {role : String} {texts : List String}
    {addresses : List Address} (h : addressesOfTexts role texts = .ok addresses) {a : Address} :
    a ∈ addresses ↔ ∃ text ∈ texts, Address.number? text = some a.word.toNat := by
  have hread := addressesOfTexts_eq_ok.mp h
  constructor
  · intro ha
    obtain ⟨text, htext, hat⟩ := exists_of_mem_right hread ha
    exact ⟨text, htext, Address.number?_of_read? hat⟩
  · intro hnumber
    obtain ⟨text, htext, hn⟩ := hnumber
    obtain ⟨b, hb, hbt⟩ := exists_of_mem_right hread.flip htext
    have hsame : b = a := Address.eq_of_toNat
      (Option.some.inj ((Address.number?_of_read? hbt).symm.trans hn))
    rwa [← hsame]

namespace Plan

/-- The stem of the names of the constants for allowed addresses. -/
def addressStem : String := "APPLICABLE_ADDRESS_"

/-- A constant whose name has the stem. -/
def IsListed (c : Constant) : Prop := addressStem.toList <+: c.name.toList

instance : DecidablePred IsListed := fun c =>
  inferInstanceAs (Decidable (addressStem.toList <+: c.name.toList))

/-- The declared constants for allowed addresses. -/
def listed (p : Plan) : List Constant := p.declarations.filter (IsListed ·)

/-- Constants for some addresses: they are numbered from zero, have distinct values, and these are
the addresses in the order in which they first appear. -/
structure Lists (constants : List Constant) (addresses : List Address) : Prop where
  typed : ∀ c ∈ constants, c.type = "address"
  names : constants.map (·.name) = (List.range constants.length).map addressName
  distinct : (constants.map (·.value)).Nodup
  held : ∀ text, text ∈ constants.map (·.value) ↔ text ∈ addresses.map Address.text
  ordered : (constants.map (Origins.appearance addresses)).Pairwise (· < ·)

theorem values_allowList (l : AllowList) : l.constants.map (·.value) = l.addresses := by
  have hvalues : (Constant.value ∘ fun p : String × Nat =>
      (⟨"address", AllowList.constantName (toString p.2), p.1⟩ : Constant)) = Prod.fst := rfl
  rw [AllowList.constants, List.map_map]
  exact (congrArg (List.map · _) hvalues).trans (List.zipIdx_map_fst 0 l.addresses)

theorem values_ofEach (addresses : List Address) :
    (Origins.ofEach addresses).constants.map (·.value) = addresses.eraseDups.map Address.text := by
  have hvalues : (Constant.value ∘ fun p : Address × Nat =>
      (⟨"address", Origins.numberedName p.2, p.1.text⟩ : Constant)) = Address.text ∘ Prod.fst := rfl
  rw [Origins.ofEach, List.map_map]
  change List.map (Constant.value ∘ fun p : Address × Nat =>
      (⟨"address", Origins.numberedName p.2, p.1.text⟩ : Constant)) _ = _
  rw [hvalues, ← List.map_map, List.zipIdx_map_fst]

/-- The constants are listed as those for as many origins would be. -/
private theorem lists_eraseDups (addresses : List Address) :
    Lists (AllowList.constants ⟨addresses.eraseDups.map Address.text⟩) addresses := by
  have hvalues := values_allowList ⟨addresses.eraseDups.map Address.text⟩
  have hsame := values_ofEach addresses
  have hnumbers := Origins.numbers_ofEach addresses
  constructor
  case typed =>
    intro c hc
    obtain ⟨p, -, rfl⟩ := List.mem_map.mp hc
    rfl
  case names =>
    have hlength : (AllowList.constants ⟨addresses.eraseDups.map Address.text⟩).length
        = (addresses.eraseDups.map Address.text).length := by
      simp [AllowList.constants]
    rw [names_allowList, hlength]
  case distinct =>
    rw [hvalues, ← hsame]
    exact hnumbers.values_nodup
  case held =>
    intro text
    rw [hvalues]
    simp only [List.mem_map, List.mem_eraseDups]
  case ordered =>
    have hordered := hnumbers.ordered
    have hplaces : ∀ constants : List Constant, constants.map (Origins.appearance addresses)
        = (constants.map (·.value)).map ((addresses.map Address.text).idxOf ·) := by
      intro constants
      rw [List.map_map]
      rfl
    rw [hplaces, hsame] at hordered
    rw [hplaces, hvalues]
    exact hordered

theorem not_listed_of_stem {stem name : String} (h : Incomparable stem addressStem)
    (hs : stem.toList <+: name.toList) : ¬ addressStem.toList <+: name.toList :=
  fun ht => ne_of_stems h hs ht rfl

/-- Constants with other names are for no allowed addresses. -/
theorem filter_isListed_eq_nil {constants : List Constant}
    (h : ∀ name ∈ constants.map (·.name), ¬ addressStem.toList <+: name.toList) :
    constants.filter (IsListed ·) = [] := by
  rw [List.filter_eq_nil_iff]
  intro c hc hlisted
  exact h c.name (List.mem_map_of_mem hc) (of_decide_eq_true hlisted)

private theorem filter_isListed_allowList (l : AllowList) :
    l.constants.filter (IsListed ·) = l.constants := by
  rw [List.filter_eq_self]
  intro c hc
  have hstem : IsListed c := (family_addresses l).2 c.name (List.mem_map_of_mem hc)
  exact decide_eq_true hstem

private theorem constant_within {p : Plan} {c : Constant} (h : c ∈ p.constants) :
    Within [indentation 1 ++ c.render] p.render := by
  have hline : indentation 1 ++ c.render ∈ indent 1 (p.constants.map Constant.render) :=
    mem_indent (List.mem_map_of_mem h) (render_ne_empty c)
  have hheading : joinLines (indent 1 (p.constants.map Constant.render)) ∈ p.heading := by
    simp [heading]
  have hcontract : Within [joinLines (indent 1 (p.constants.map Constant.render))]
      p.contractText := by
    rw [contractText_eq]
    apply within_of_mem
    simp [hheading]
  exact ((within_of_mem hline).trans (List.cons_ne_nil _ _) hcontract).trans
    (List.cons_ne_nil _ _) p.within_render

section Assembled
variable {spec : Spec} {origins : Origins} {branches : List Branch}

/-- The constants for allowed addresses are declared last. -/
private theorem declarations_assemble :
    (assemble spec origins branches).declarations
      = (assemble spec origins branches).chainConstants ++ origins.constants
        ++ (assemble spec origins branches).callbackConstants ++ eventConstantsOf spec.bindings
        ++ ((allowList? spec.settings.applicable).map AllowList.constants).getD [] := by
  cases hl : allowList? spec.settings.applicable <;>
    simp [declarations, chainConstants, callbackConstants, constants, assemble, hl]

/-- Only the constants for allowed addresses have the stem. -/
theorem listed_assemble (ho : Origins.ofSpec spec = .ok origins) :
    (assemble spec origins branches).listed
      = ((allowList? spec.settings.applicable).map AllowList.constants).getD [] := by
  have hchain : (assemble spec origins branches).chainConstants.filter (IsListed ·) = [] := by
    apply filter_isListed_eq_nil
    change ∀ name ∈ ["ORIGIN_CHAIN_ID", "DESTINATION_CHAIN_ID"],
      ¬ addressStem.toList <+: name.toList
    decide
  have hcallback : (assemble spec origins branches).callbackConstants.filter (IsListed ·)
      = [] := by
    apply filter_isListed_eq_nil
    change ∀ name ∈ ["DESTINATION_CONTRACT", "CALLBACK_GAS_LIMIT"],
      ¬ addressStem.toList <+: name.toList
    decide
  have horigins : origins.constants.filter (IsListed ·) = [] := by
    apply filter_isListed_eq_nil
    intro name hname
    exact not_listed_of_stem (by decide) ((family_origins ho).2 name hname)
  have hevents : (eventConstantsOf spec.bindings).filter (IsListed ·) = [] := by
    apply filter_isListed_eq_nil
    intro name hname
    exact not_listed_of_stem (by decide) ((family_events spec.bindings).2 name hname)
  rw [listed, declarations_assemble]
  simp only [List.filter_append, hchain, hcallback, horigins, hevents, List.nil_append]
  cases allowList? spec.settings.applicable with
  | none => rfl
  | some l => exact filter_isListed_allowList l

/-- The value of a constant for an allowed address is the number of the address. -/
theorem valueOf?_listed (ho : Origins.ofSpec spec = .ok origins) {c : Constant}
    (hc : c ∈ (assemble spec origins branches).listed) :
    Constant.valueOf? (assemble spec origins branches).declarations c.name
      = hexLiteral? c.value := by
  rw [Constant.valueOf?, Constant.find?_of_mem (names_nodup ho) (List.mem_of_mem_filter hc),
    Option.bind_some]

/-- The test holds of the numbers of the addresses that are listed, and of no other. -/
theorem admits_iff (ho : Origins.ofSpec spec = .ok origins)
    (hl : Lists (assemble spec origins branches).listed spec.settings.applicable) (a : Address) :
    AllowList.admits (assemble spec origins branches).declarations
        ((assemble spec origins branches).listed.map (·.name)) a.word.toNat = true
      ↔ a ∈ spec.settings.applicable := by
  rw [AllowList.admits, List.any_map, List.any_eq_true]
  constructor
  · intro h
    obtain ⟨c, hc, hvalue⟩ := h
    have hmem : c.value ∈ spec.settings.applicable.map Address.text :=
      (hl.held c.value).mp (List.mem_map_of_mem hc)
    obtain ⟨b, hb, htext⟩ := List.mem_map.mp hmem
    have hnumber : b.word.toNat = a.word.toNat := by
      simpa [valueOf?_listed ho hc, ← htext, hexLiteral?_text] using hvalue
    rwa [← Address.eq_of_toNat hnumber]
  · intro h
    have hmem : a.text ∈ (assemble spec origins branches).listed.map (·.value) :=
      (hl.held a.text).mpr (List.mem_map_of_mem h)
    obtain ⟨c, hc, htext⟩ := List.mem_map.mp hmem
    refine ⟨c, hc, ?_⟩
    simp [valueOf?_listed ho hc, htext, hexLiteral?_text]

private theorem isWord_of_mem_allowList {l : AllowList} {c : Constant} (hc : c ∈ l.constants) :
    IsWord c.name := by
  have hname : c.name ∈ l.constants.map (·.name) := List.mem_map_of_mem hc
  rw [names_allowList] at hname
  obtain ⟨i, -, hi⟩ := List.mem_map.mp hname
  exact hi ▸ isWord_addressName i

/-- Among the functions the test is the one that the list of addresses needs. -/
private theorem tests_functionTexts (p : Plan) :
    p.functionTexts.filterMap AllowList.read?
      = (p.allowList.bind AllowList.render?).toList.filterMap fun lines =>
          AllowList.read? (joinLines (indent 1 lines)) := by
  have htable : (p.pausableTable.map SubscriptionTable.render).toList.filterMap
      (fun lines => AllowList.read? (joinLines (indent 1 lines))) = [] := by
    cases p.pausableTable with
    | none => rfl
    | some t => simp [AllowList.read?_table]
  rw [functionTexts, helperBlocks, List.filterMap_map, List.filterMap_append]
  change List.filterMap (fun lines => AllowList.read? (joinLines (indent 1 lines))) _
    ++ List.filterMap (fun lines => AllowList.read? (joinLines (indent 1 lines))) _ = _
  rw [htable, List.nil_append]

/-- The constants that a list of addresses needs are those for its allowed addresses. -/
theorem listed_of_ne_nil (ho : Origins.ofSpec spec = .ok origins)
    (h : spec.settings.applicable ≠ []) :
    (assemble spec origins branches).listed
      = AllowList.constants ⟨spec.settings.applicable.eraseDups.map Address.text⟩ := by
  rw [listed_assemble ho, allowList?, if_neg h]
  rfl

private theorem listed_of_nil (ho : Origins.ofSpec spec = .ok origins)
    (h : spec.settings.applicable = []) : (assemble spec origins branches).listed = [] := by
  rw [listed_assemble ho, allowList?, if_pos h]
  rfl

private theorem lists_assemble (ho : Origins.ofSpec spec = .ok origins)
    (h : spec.settings.applicable ≠ []) :
    Lists (assemble spec origins branches).listed spec.settings.applicable := by
  rw [listed_of_ne_nil ho h]
  exact lists_eraseDups spec.settings.applicable

/-- The one test names all constants for allowed addresses. -/
private theorem tests_assemble (ho : Origins.ofSpec spec = .ok origins)
    (h : spec.settings.applicable ≠ []) :
    (assemble spec origins branches).functionTexts.filterMap AllowList.read?
      = [(assemble spec origins branches).listed.map (·.name)] := by
  have hlist : (assemble spec origins branches).allowList
      = some ⟨spec.settings.applicable.eraseDups.map Address.text⟩ := if_neg h
  have hne : spec.settings.applicable.eraseDups.map Address.text ≠ [] := by
    obtain ⟨a, ha⟩ := List.exists_mem_of_ne_nil _ h
    exact List.ne_nil_of_mem (List.mem_map_of_mem (List.mem_eraseDups.mpr ha))
  obtain ⟨lines, hlines⟩ :=
    AllowList.exists_render (l := ⟨spec.settings.applicable.eraseDups.map Address.text⟩) hne
  have hread := AllowList.read?_render (fun c => isWord_of_mem_allowList) hlines 1
  rw [tests_functionTexts, hlist, Option.bind_some, hlines, Option.toList_some,
    List.filterMap_cons, hread, List.filterMap_nil, listed_of_ne_nil ho h]

private theorem listed_within {c : Constant} (ho : Origins.ofSpec spec = .ok origins)
    (hc : c ∈ (assemble spec origins branches).listed) :
    Within [indentation 1 ++ c.render] (assemble spec origins branches).render := by
  apply constant_within
  rw [listed_assemble ho] at hc
  cases hl : allowList? spec.settings.applicable with
  | none => simp [hl] at hc
  | some l =>
    rw [hl] at hc
    exact List.mem_append_right _ (by simpa [assemble, hl] using hc)

end Assembled

/-- A binding needs the emitter exactly if it has a guard. -/
private theorem contract_mem_usedParameters {b : Binding} :
    "_contract" ∈ usedParameters b ↔ guard? b ≠ none := by
  have htopic := ne_topicParameter (by decide : Incomparable "topic_" "_contract")
  simp only [mem_usedParameters, htopic, and_false, exists_false, false_or]
  simp [guardParameters]

private theorem named_contract_line {p : ReactParameters} (h : "_contract" ∈ p.used) :
    "_contract" ∈ p.named ∧ "address _contract," ∈ p.render := by
  constructor
  · exact List.mem_filter.mpr ⟨by decide, decide_eq_true h⟩
  · have hline : p.parameter ("address", "_contract") = "address _contract" := if_pos h
    have hrender : p.render = (p.parameter ("uint256", "chain_id") ++ ",")
        :: (p.parameter ("address", "_contract") ++ ",") :: commaLines
          ((ReactParameters.all.drop 2).map p.parameter) := rfl
    rw [hrender, hline]
    exact List.mem_cons_of_mem _ List.mem_cons_self

/-- The addresses whose logs an accepted plan handles. If some are configured, its constants list
them, and the one test among its functions compares an address with these constants: it holds of
an address exactly if one of the texts that the configured addresses were read from stands for the
same number. The reaction asks for the test of the emitter, which has a name, before its dispatch.
If none are configured, there is no such constant, test or guard, and the emitter has a name only
for a guard of a binding. -/
theorem ofSpec_admits {spec : Spec} {plan : Plan} (hp : (ofSpec spec).outcome = .ok plan) :
    Within plan.reaction plan.render
      ∧ (spec.settings.applicable ≠ [] →
        Lists plan.listed spec.settings.applicable
          ∧ (∀ c ∈ plan.listed, Within [indentation 1 ++ c.render] plan.render)
          ∧ (∀ text ∈ plan.functionTexts, Within [text] plan.render)
          ∧ plan.functionTexts.filterMap AllowList.read? = [plan.listed.map (·.name)]
          ∧ (∀ texts, Settings.addressesOfTexts Settings.applicableRole texts
              = .ok spec.settings.applicable →
            ∀ a : Address, AllowList.admits plan.declarations (plan.listed.map (·.name))
                a.word.toNat = true
              ↔ ∃ text ∈ texts, Address.number? text = some a.word.toNat)
          ∧ plan.reactBody = "require(isApplicableAddress(_contract), \"Address not allowed\");"
            :: plan.dispatch.render
          ∧ "_contract" ∈ plan.reactParameters.named
          ∧ "address _contract," ∈ plan.reactParameters.render)
      ∧ (spec.settings.applicable = [] →
        plan.listed = [] ∧ plan.functionTexts.filterMap AllowList.read? = []
          ∧ plan.reactBody = plan.dispatch.render
          ∧ ("_contract" ∈ plan.reactParameters.named
            ↔ ∃ b ∈ spec.bindings, guard? b ≠ none)) := by
  obtain ⟨-, origins, branches, ho, -, rfl⟩ := ofSpec_eq_ok.mp hp
  refine ⟨reaction_within _, fun hne => ?_, fun hnil => ?_⟩
  · have hlists : Lists (assemble spec origins branches).listed spec.settings.applicable :=
      lists_assemble ho hne
    have hcontract : "_contract" ∈ (assemble spec origins branches).reactParameters.used :=
      mem_used.mpr (.inr (.inr ⟨hne, rfl⟩))
    have hbody : (assemble spec origins branches).reactBody
        = (if (allowList? spec.settings.applicable).isSome then
            (AllowList.guard "_contract").render else [])
          ++ (assemble spec origins branches).dispatch.render := rfl
    refine ⟨hlists, fun c hc => listed_within ho hc, fun text => function_within _,
      tests_assemble ho hne, fun texts htexts a => ?_, ?_, named_contract_line hcontract⟩
    · rw [admits_iff ho hlists]
      exact Settings.mem_addressesOfTexts htexts
    · rw [hbody, if_pos (isSome_allowList?.mpr hne)]
      rfl
  · have hlist : (assemble spec origins branches).allowList = none := if_pos hnil
    refine ⟨listed_of_nil ho hnil, ?_, ?_, ?_⟩
    · rw [tests_functionTexts, hlist]
      rfl
    · rw [reactBody, hlist]
      rfl
    · have hused : "_contract" ∈ (assemble spec origins branches).reactParameters.named
          ↔ "_contract" ∈ (assemble spec origins branches).reactParameters.used := by
        simp [ReactParameters.named, ReactParameters.all]
      rw [hused, mem_used]
      simp [hnil, contract_mem_usedParameters]

/-- Two of the three addresses are the same: the test names two constants, and it holds of the
addresses that they stand for. -/
theorem listedPlan_admits :
    (ofSpec listedSpec).outcome = .ok listedPlan ∧ listedSpec.settings.applicable ≠ []
      ∧ listedPlan.functionTexts.filterMap AllowList.read?
        = [["APPLICABLE_ADDRESS_0", "APPLICABLE_ADDRESS_1"]]
      ∧ Settings.addressesOfTexts Settings.applicableRole
          ["0x0000000000000000000000000000000000000003",
            "0X0000000000000000000000000000000000000004",
            "0000000000000000000000000000000000000003"]
        = .ok listedSpec.settings.applicable
      ∧ AllowList.admits listedPlan.declarations ["APPLICABLE_ADDRESS_0", "APPLICABLE_ADDRESS_1"]
        4 = true := by
  have hne : listedSpec.settings.applicable ≠ [] := by decide
  have hnames : listedPlan.listed.map (·.name)
      = ["APPLICABLE_ADDRESS_0", "APPLICABLE_ADDRESS_1"] := rfl
  have hread : Settings.addressesOfTexts Settings.applicableRole
      ["0x0000000000000000000000000000000000000003",
        "0X0000000000000000000000000000000000000004",
        "0000000000000000000000000000000000000003"]
      = .ok listedSpec.settings.applicable := rfl
  obtain ⟨-, -, -, htests, hadmits, -⟩ := (ofSpec_admits ofSpec_listedSpec).2.1 hne
  rw [hnames] at htests hadmits
  refine ⟨ofSpec_listedSpec, hne, htests, hread, ?_⟩
  exact (hadmits _ hread ⟨4⟩).mpr ⟨"0X0000000000000000000000000000000000000004", by simp, rfl⟩

end Plan
end ReactiveContract
