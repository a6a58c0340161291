import ReactiveContract.Contract.Settings
import ReactiveContract.Proofs.Document.Reading
import ReactiveContract.Proofs.Text.Hexadecimal
/-! Settings that are written out are read as they were. -/
namespace ReactiveContract
open Document

/-- Settings as documents can ask for them. -/
structure Settings.Valid (s : Settings) : Prop where
  originChainId_pos : 0 < s.originChainId
  destinationChainId_pos : 0 < s.destinationChainId
  callbackGasLimit_pos : 0 < s.callbackGasLimit
  callbackGasLimit_lt : s.callbackGasLimit < gasLimitBound
  contractName_identifier : isIdentifier s.contractName = true

private theorem Topology.ofJson_text (t : Topology) : ofJson (.str t.text) = .ok t := by
  cases t <;> rfl

theorem Document.Key.required_of_find? {α : Type} {key : Key} {read : Json → Checked α}
    {fields : Fields} {name : String} {j : Json} {a : α} (h : key.find? fields = some (name, j))
    (hj : read j = .ok a) : key.required read fields = .ok a := by
  rw [required, h]
  simp only [hj, Checked.under]

theorem Document.Key.optional_of_find? {α : Type} {key : Key} {default a : α}
    {read : Json → Checked α} {fields : Fields} {name : String} {j : Json}
    (h : key.find? fields = some (name, j)) (hj : read j = .ok a) :
    key.optional default read fields = .ok a := by
  rw [optional, h]
  simp only [hj, Checked.under]

namespace Settings

theorem addressOfText_text (role : String) (a : Address) : addressOfText role a.text = .ok a := by
  rw [addressOfText, Address.read?_text]

theorem address_text (role : String) (a : Address) : address role (.str a.text) = .ok a := by
  simp only [address, text, Checked.refine, addressOfText_text]

private theorem addressesOfTexts_map_text (role : String) (as : List Address) :
    addressesOfTexts role (as.map Address.text) = .ok as := by
  induction as with
  | nil => rfl
  | cons a as ih =>
    rw [List.map_cons, addressesOfTexts, addressOfText_text, ih]
    rfl

private theorem itemsFrom_texts (texts : List String) (index : Nat) :
    itemsFrom text index (texts.map .str) = .ok texts := by
  rw [itemsFrom_eq_ok, List.map_map]
  rfl

theorem addresses_texts (role : String) (as : List Address) :
    addresses role (.texts (as.map Address.text)) = .ok as := by
  simp only [addresses, Json.texts, list, itemsFrom_texts, Checked.refine,
    addressesOfTexts_map_text]

theorem positive_int {n : Nat} (h : 0 < n) : positive (.int n) = .ok n := by
  have hn : (0 : Int) < n := by omega
  simp only [positive, integer, Checked.refine, above, if_pos hn, Checked.map, Int.toNat_natCast]

private theorem bounded_int {n bound : Nat} (h : 0 < n) (hb : n < bound) :
    (((integer (.int n)).refine (above 0)).refine (below bound)).map Int.toNat = .ok n := by
  have hn : (0 : Int) < n := by omega
  have hlt : (n : Int) < bound := by omega
  simp only [integer, Checked.refine, above, below, if_pos hn, if_pos hlt, Checked.map,
    Int.toNat_natCast]

private theorem gasLimit_int {n : Nat} (h : 0 < n) (hb : n < gasLimitBound) :
    gasLimit (.int n) = .ok n := by
  rw [gasLimit]
  exact bounded_int h hb

private theorem identifier_str {name : String} (h : isIdentifier name = true) :
    identifier (.str name) = .ok name := by
  simp [identifier, text, Checked.refine, identifierOfText, h]

private theorem truth_bool (b : Bool) : truth (.bool b) = .ok b := rfl

private theorem owner_ofOption (role : String) (owner : Option Address) :
    nullable (address role) (.ofOption (fun a => .str a.text) owner) = .ok owner := by
  cases owner with
  | none => rfl
  | some a =>
    change some <$> address role (.str a.text) = _
    rw [address_text]
    rfl

private theorem find?_toFields (s : Settings) :
    topologyKey.find? s.toFields = some (topologyKey.name, .str s.topology.text)
      ∧ originChainIdKey.find? s.toFields = some (originChainIdKey.name, .int s.originChainId)
      ∧ destinationChainIdKey.find? s.toFields
        = some (destinationChainIdKey.name, .int s.destinationChainId)
      ∧ originsKey.find? s.toFields
        = some (originsKey.name, .texts (s.origins.map Address.text))
      ∧ destinationKey.find? s.toFields = some (destinationKey.name, .str s.destination.text)
      ∧ pausableKey.find? s.toFields = some (pausableKey.name, .bool s.pausable)
      ∧ ownerKey.find? s.toFields
        = some (ownerKey.name, .ofOption (fun a => .str a.text) s.owner)
      ∧ contractNameKey.find? s.toFields = some (contractNameKey.name, .str s.contractName)
      ∧ callbackGasLimitKey.find? s.toFields
        = some (callbackGasLimitKey.name, .int s.callbackGasLimit)
      ∧ applicableKey.find? s.toFields
        = some (applicableKey.name, .texts (s.applicable.map Address.text)) := by
  refine ⟨?_, ?_, ?_, ?_, ?_, ?_, ?_, ?_, ?_, ?_⟩ <;>
    simp [Key.find?, toFields, Fields.get?, List.lookup_cons, topologyKey, originChainIdKey,
      destinationChainIdKey, originsKey, destinationKey, pausableKey, ownerKey, contractNameKey,
      callbackGasLimitKey, applicableKey]

/-- Written settings are read as they were. -/
theorem ofFields_toFields {s : Settings} (h : s.Valid) : ofFields s.toFields = .ok s := by
  obtain ⟨ht, ho, hd, hos, hdest, hp, how, hn, hg, ha⟩ := find?_toFields s
  unfold ofFields
  rw [Key.required_of_find? ht (Topology.ofJson_text _),
    Key.required_of_find? ho (positive_int h.originChainId_pos),
    Key.required_of_find? hd (positive_int h.destinationChainId_pos),
    Key.optional_of_find? hos (addresses_texts _ _),
    Key.required_of_find? hdest (address_text _ _),
    Key.optional_of_find? hp (truth_bool _),
    Key.optional_of_find? how (owner_ofOption _ _),
    Key.optional_of_find? hn (identifier_str h.contractName_identifier),
    Key.optional_of_find? hg (gasLimit_int h.callbackGasLimit_pos h.callbackGasLimit_lt),
    Key.optional_of_find? ha (addresses_texts _ _)]
  rfl

end Settings
end ReactiveContract
