import ReactiveContract.Proofs.Contract.AllowList
import ReactiveContract.Proofs.Contract.Settings
/-! Checksummed texts are a normal form of addresses: the case of the letters depends on the number
alone, so equal texts stand for equal addresses, and constants with distinct texts for distinct
ones. -/
namespace ReactiveContract
open Solidity Text

/-- Constants for some addresses: their values are the checksummed texts, each of them once and in
the order of first appearance, and no two stand for the same number. -/
structure DeclaresOnce (constants : List Constant) (addresses : List Address) : Prop where
  values : constants.map (·.value) = (addresses.map Address.text).eraseDups
  apart : (constants.map fun c => Address.number? c.value).Nodup

/-- Texts that differ stand for different numbers. -/
theorem declaresOnce_of_values {constants : List Constant} {addresses : List Address}
    (h : constants.map (·.value) = addresses.eraseDups.map Address.text) :
    DeclaresOnce constants addresses := by
  have hinjective : Function.Injective Address.text := fun _ _ => Address.text_injective
  have hnumbers : constants.map (fun c => Address.number? c.value)
      = addresses.eraseDups.map fun a => some a.word.toNat := by
    have hsplit : constants.map (fun c => Address.number? c.value)
        = (constants.map (·.value)).map Address.number? := by
      rw [List.map_map]
      rfl
    rw [hsplit, h, List.map_map]
    exact List.map_congr_left fun a _ => a.number?_text
  have hdistinct : addresses.eraseDups.Nodup := by
    have hvalues := (Origins.numbers_ofEach addresses).values_nodup
    rw [Plan.values_ofEach] at hvalues
    exact hvalues.of_map
  constructor
  · rw [h, eraseDups_map hinjective]
  · rw [hnumbers]
    apply hdistinct.map
    intro a b hab
    exact Address.eq_of_toNat (Option.some.inj hab)

namespace Plan

private theorem declaresOnce_origins {topology : Topology} {addresses : List Address}
    {bindings : Nat}
    {origins : Origins} (h : Origins.of topology addresses bindings = .ok origins) :
    DeclaresOnce origins.constants addresses := by
  apply declaresOnce_of_values
  rcases Origins.of_eq_ok.mp h with ⟨-, -, rfl⟩ | ⟨-, a, rfl, rfl⟩ | ⟨-, rfl, rfl⟩
  · exact values_ofEach addresses
  · rfl
  · rfl

private theorem declaresOnce_allowList (addresses : List Address) :
    DeclaresOnce (((allowList? addresses).map AllowList.constants).getD []) addresses := by
  apply declaresOnce_of_values
  unfold allowList?
  split
  · rename_i hnil
    rw [hnil]
    rfl
  · exact values_allowList _

/-- Exactly the texts of forty hexadecimal digits are addresses, whatever the case of the letters,
with a mark or without. The checksummed text of such a text depends on its digits in lower case
alone. It stands for the same number, is its own checksummed text, and is shared exactly by the
texts of this number. So the constants of a plan for its origins, and those for its allowed
addresses, which differ as texts, differ as addresses. -/
theorem ofSpec_checksums :
    (∀ role text, (∃ a, Settings.addressOfText role text = .ok a) ↔ Address.IsSpelled text)
      ∧ (∀ role text a, Settings.addressOfText role text = .ok a →
        a.text = Address.checksummed (Address.lowered text)
          ∧ (∃ n < 2 ^ 160, Address.number? text = some n ∧ Address.number? a.text = some n)
          ∧ Settings.addressOfText role a.text = .ok a
          ∧ ∀ other b, Settings.addressOfText role other = .ok b →
            (a.text = b.text ↔ Address.number? text = Address.number? other))
      ∧ ∀ spec plan, (ofSpec spec).outcome = .ok plan →
        DeclaresOnce plan.originConstants spec.settings.origins
          ∧ DeclaresOnce plan.listed spec.settings.applicable := by
  refine ⟨fun role text => ?_, fun role text a ha => ?_, fun spec plan hp => ?_⟩
  · simp only [Settings.addressOfText_eq_ok]
    exact Address.exists_read?_iff
  · have hread : Address.read? text = some a := Settings.addressOfText_eq_ok.mp ha
    refine ⟨Address.text_of_read? hread, ?_, Settings.addressOfText_text role a, ?_⟩
    · exact ⟨a.word.toNat, a.word.isLt, Address.number?_of_read? hread, a.number?_text⟩
    · intro other b hb
      exact Address.text_eq_iff hread (Settings.addressOfText_eq_ok.mp hb)
  · obtain ⟨-, origins, branches, ho, -, rfl⟩ := ofSpec_eq_ok.mp hp
    refine ⟨declaresOnce_origins ho, ?_⟩
    rw [listed_assemble ho]
    exact declaresOnce_allowList spec.settings.applicable

/-- Two spellings of one address are checksummed alike, and of the three addresses that a plan is
given, two of which are the same, two are declared. -/
theorem listedPlan_checksums :
    (∃ a b, Settings.addressOfText Settings.originRole
          "0x5aAeb6053F3E94C9b9A09f33669435E7Ef1BeAed" = .ok a
        ∧ Settings.addressOfText Settings.originRole
          "0X5AAEB6053F3E94C9B9A09F33669435E7EF1BEAED" = .ok b
        ∧ a.text = b.text)
      ∧ (ofSpec listedSpec).outcome = .ok listedPlan
      ∧ listedPlan.listed.map (·.value) = [Address.text ⟨3⟩, Address.text ⟨4⟩]
      ∧ (listedPlan.listed.map fun c => Address.number? c.value).Nodup := by
  have hread : ∀ text, Address.IsSpelled text →
      ∃ a, Settings.addressOfText Settings.originRole text = .ok a :=
    fun text => (ofSpec_checksums.1 Settings.originRole text).mpr
  obtain ⟨a, ha⟩ := hread "0x5aAeb6053F3E94C9b9A09f33669435E7Ef1BeAed" (by decide +kernel)
  obtain ⟨b, hb⟩ := hread "0X5AAEB6053F3E94C9B9A09F33669435E7EF1BEAED" (by decide +kernel)
  obtain ⟨-, -, -, halike⟩ := ofSpec_checksums.2.1 _ _ a ha
  obtain ⟨-, hlisted⟩ := ofSpec_checksums.2.2 _ _ ofSpec_listedSpec
  have hsame : a.text = b.text := (halike _ b hb).mpr (by decide +kernel)
  exact ⟨⟨a, b, ha, hb, hsame⟩, ofSpec_listedSpec, rfl, hlisted.apart⟩

end Plan
end ReactiveContract
