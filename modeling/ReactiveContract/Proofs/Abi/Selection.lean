import ReactiveContract.Proofs.Abi.Extraction
import ReactiveContract.Proofs.Contract.Bindable
import ReactiveContract.Proofs.Document.Reading
/-! What an interface lists: the entries that are selected, in their order. Entries that are not
selected are looked at only to see that they are well formed. -/
namespace ReactiveContract
open Abi Document Outcome

/-- The place of the entry that a fault is about. -/
def Abi.Fault.entry? : Fault → Option Int
  | .entryNotObject position | .entryMalformed position _ | .kindMissing position _
  | .kindUnknown position _ => some position
  | _ => none

namespace Abi.Entry

/-- A raw entry that can be read and is of a known kind. -/
def Declares (j : Json) (e : Entry) : Prop :=
  Entry.ofJson j = .ok e ∧ ∃ kind ∈ entryKinds, e.kind = some kind

def Malformed (j : Json) : Prop := ∀ e, ¬ Declares j e

/-- What an entry says of its effect on the state. The empty text says nothing. -/
def declaredMutability? (e : Entry) : Option String := e.stateMutability.filter (· ≠ "")

/-- A function that is declared neither `view` nor `pure`, nor by the flag `constant` if it is not
declared at all. -/
structure Callable (e : Entry) : Prop where
  kind : e.kind = some "function"
  declared : ∀ mutability, e.declaredMutability? = some mutability →
    mutability ≠ "view" ∧ mutability ≠ "pure"
  undeclared : e.declaredMutability? = none → e.constant ≠ some true

/-- An event that is not anonymous. -/
structure Subscribable (e : Entry) : Prop where
  kind : e.kind = some "event"
  named : e.anonymous = false

end Abi.Entry

namespace Abi
open Entry

section Entries
variable {j : Json} {e : Entry}

/-- The position of an entry only matters to the fault. -/
theorem Entry.parse_eq_ok (position : Int) : parse position j = .ok e ↔ Declares j e := by
  unfold parse Declares Entry.ofJson
  cases j with
  | obj fields =>
    cases hread : ofFields fields with
    | ok read =>
      simp only [record, hread, checkKind_eq_ok, Checked.ok.injEq]
      constructor
      · rintro ⟨rfl, hkind⟩
        exact ⟨rfl, hkind⟩
      · rintro ⟨rfl, hkind⟩
        exact ⟨rfl, hkind⟩
    | rejected faults => simp [record, hread]
  | _ => simp [record, Checked.fail]

/-- A fault of an entry names its position. -/
private theorem Entry.parse_entry? {position : Int} {fault : Fault}
    (h : parse position j = .error fault) :
    fault.entry? = some position := by
  unfold parse at h
  split at h
  · split at h
    · unfold checkKind at h
      split at h
      · cases h
        rfl
      · split at h
        · cases h
        · cases h
          rfl
    · cases h
      rfl
  · cases h
    rfl

theorem Entry.malformed_iff (position : Int) :
    Malformed j ↔ ∃ fault, parse position j = .error fault := by
  have hread : Malformed j ↔ ∀ e, parse position j ≠ .ok e := by
    simp only [Malformed, ne_eq, parse_eq_ok position]
  rw [hread]
  cases parse position j <;> simp

/-- The entry that a raw one is read as. -/
def Entry.declared? (j : Json) : Option Entry := (parse 0 j).toOption

theorem Entry.declared?_eq_some : declared? j = some e ↔ Declares j e := by
  rw [← parse_eq_ok 0, declared?]
  cases parse 0 j <;> simp [Except.toOption]

end Entries

theorem entriesFrom_eq_ok {items : List Json} : ∀ {start : Nat} {es : List Entry},
    entriesFrom start items = .ok es ↔ items.map declared? = es.map some := by
  induction items with
  | nil =>
    intro start es
    simp only [entriesFrom, Except.ok.injEq, List.map_nil, List.nil_eq, List.map_eq_nil_iff]
  | cons j items ih =>
    intro start es
    simp only [entriesFrom, bind_eq_ok, pure_eq_ok, ih, parse_eq_ok, ← declared?_eq_some,
      map_cons_eq_map_iff]

/-- The first malformed entry is the one that is refused. -/
private theorem entriesFrom_of_malformed {items : List Json} : ∀ (start : Nat) {i : Nat} {j : Json},
    items[i]? = some j → Malformed j → (∀ earlier ∈ items.take i, ¬ Malformed earlier) →
    ∃ fault, entriesFrom start items = .error fault
      ∧ fault.entry? = some ((start + i : Nat) : Int) := by
  induction items with
  | nil =>
    intro start i j h
    cases h
  | cons first items ih =>
    intro start i j h hj hbefore
    cases i with
    | zero =>
      obtain rfl : first = j := Option.some.inj h
      obtain ⟨fault, hfault⟩ := (malformed_iff start).mp hj
      exact ⟨fault, bind_eq_error.mpr (.inl hfault), parse_entry? hfault⟩
    | succ i =>
      obtain ⟨hfirst, hbefore⟩ := List.forall_mem_cons.mp hbefore
      obtain ⟨fault, hfault, hplace⟩ := ih (start + 1) h hj hbefore
      rw [malformed_iff start, ← exists_ok_iff] at hfirst
      obtain ⟨e, he⟩ := hfirst
      refine ⟨fault, bind_eq_error.mpr (.inr ⟨e, he, bind_eq_error.mpr (.inl hfault)⟩), ?_⟩
      rw [hplace, Nat.add_right_comm, Nat.add_assoc]

/-- Reads all entries, selects some and makes something of each of these. -/
def extract {ε α : Type} (chosen : Entry → Bool) (make : Entry → Except ε α) (failing : ε → Failure)
    (items : List Json) : Except Failure (List α) := do
  let es ← (entriesFrom 0 items).mapError .invalidAbi
  ((es.filter chosen).mapM make).mapError failing

theorem callees_eq_extract (items : List Json) : (callees (.arr items)).mapError .invalidAbi
    = extract isCallable Callee.ofEntry .invalidAbi items := mapError_bind _ _ _

private theorem outcome_eventsOf (es : List Entry) :
    (eventsOf es).outcome = (es.filter isSubscribable).mapM Event.ofEntry := by
  induction es with
  | nil => rfl
  | cons e es ih =>
    unfold eventsOf
    by_cases hkind : e.kind = some "event"
    · cases hanonymous : e.anonymous with
      | true =>
        have hpassed : e.isSubscribable = false := by simp [isSubscribable, hanonymous]
        rw [if_neg (not_not_intro hkind), if_pos rfl, List.filter_cons_of_neg (by simp [hpassed]),
          ← ih, Traced.outcome_bind]
        rfl
      | false =>
        have hchosen : e.isSubscribable = true := by simp [isSubscribable, hkind, hanonymous]
        rw [if_neg (not_not_intro hkind), if_neg (by simp), List.filter_cons_of_pos hchosen,
          List.mapM_cons, Traced.outcome_bind]
        refine bind_congr fun event => ?_
        rw [Traced.outcome_bind, ih]
        rfl
    · have hpassed : e.isSubscribable = false := by simp [isSubscribable, hkind]
      rw [if_pos hkind, List.filter_cons_of_neg (by simp [hpassed]), ih]

theorem outcome_events_eq_extract (items : List Json) :
    (events (.arr items)).outcome = extract isSubscribable Event.ofEntry id items := by
  rw [events, Traced.outcome_bind, Traced.outcome_ofExcept]
  refine bind_congr fun es => (outcome_eventsOf es).trans ?_
  cases (es.filter isSubscribable).mapM Event.ofEntry <;> rfl

section Extracts
variable {ε α : Type} {chosen : Entry → Bool} {make : Entry → Except ε α}
  {failing : ε → Failure}

theorem extract_eq_ok {items : List Json} {xs : List α} :
    extract chosen make failing items = .ok xs
      ↔ ∃ es : List Entry, items.map declared? = es.map some
        ∧ (es.filter chosen).map make = xs.map .ok := by
  simp only [extract, bind_eq_ok, mapError_eq_ok, entriesFrom_eq_ok, mapM_eq_ok]

theorem exists_extract_eq_ok {items : List Json} :
    (∃ xs, extract chosen make failing items = .ok xs)
      ↔ (∀ j ∈ items, ∃ e, Declares j e)
        ∧ ∀ j ∈ items, ∀ e, Declares j e → chosen e = true → ∃ x, make e = .ok x := by
  simp only [extract_eq_ok, ← declared?_eq_some, ← exists_map_eq_iff]
  constructor
  · rintro ⟨xs, es, hes, hxs⟩
    refine ⟨⟨es, hes⟩, fun j hj e he hchosen => ?_⟩
    have hmem : some e ∈ es.map some := by
      rw [← hes, ← he]
      exact List.mem_map_of_mem hj
    have hkept : e ∈ es.filter chosen :=
      List.mem_filter.mpr ⟨by simpa using hmem, hchosen⟩
    exact exists_map_eq_iff.mp ⟨xs, hxs⟩ e hkept
  · rintro ⟨⟨es, hes⟩, hmake⟩
    have hall : ∀ e ∈ es.filter chosen, ∃ x, make e = .ok x := by
      intro e he
      obtain ⟨hmem, hchosen⟩ := List.mem_filter.mp he
      have hread : some e ∈ items.map declared? := by
        rw [hes]
        exact List.mem_map_of_mem hmem
      obtain ⟨j, hj, hj'⟩ := List.mem_map.mp hread
      exact hmake j hj e hj' hchosen
    obtain ⟨xs, hxs⟩ := exists_map_eq_iff.mpr hall
    exact ⟨xs, es, hes, hxs⟩

private theorem extract_append {a b : List Json} {xs ys : List α}
    (ha : extract chosen make failing a = .ok xs) (hb : extract chosen make failing b = .ok ys) :
    extract chosen make failing (a ++ b) = .ok (xs ++ ys) := by
  obtain ⟨es, hes, hxs⟩ := extract_eq_ok.mp ha
  obtain ⟨ds, hds, hys⟩ := extract_eq_ok.mp hb
  refine extract_eq_ok.mpr ⟨es ++ ds, ?_, ?_⟩
  · rw [List.map_append, List.map_append, hes, hds]
  · rw [List.filter_append, List.map_append, List.map_append, hxs, hys]

private theorem extract_insert {a b : List Json} {xs : List α} {j : Json} {e : Entry}
    (h : extract chosen make failing (a ++ b) = .ok xs) (he : Declares j e)
    (hpassed : chosen e = false) :
    extract chosen make failing (a ++ j :: b) = .ok xs := by
  obtain ⟨es, hes, hxs⟩ := extract_eq_ok.mp h
  rw [List.map_append] at hes
  obtain ⟨before, after, rfl, hbefore, hafter⟩ := List.append_eq_map_iff.mp hes
  refine extract_eq_ok.mpr ⟨before ++ e :: after, ?_, ?_⟩
  · rw [List.map_append, List.map_cons, declared?_eq_some.mpr he, ← hbefore, ← hafter,
      List.map_append, List.map_cons]
  · rw [List.filter_append, List.filter_cons_of_neg (by simp [hpassed]), ← List.filter_append, hxs]

end Extracts

section Selected
variable {e : Entry}

private theorem Entry.mutability_eq (e : Entry) :
    e.mutability = e.declaredMutability?.getD (mutability.legacyMutability e) := by
  unfold mutability declaredMutability?
  cases e.stateMutability with
  | none => rfl
  | some declared => by_cases h : declared = "" <;> simp [Option.filter, h]

/-- Among the old flags only `constant` keeps a function from the state. -/
private theorem Entry.legacyMutability_eq (e : Entry) :
    (mutability.legacyMutability e = "view" ↔ e.constant = some true)
      ∧ mutability.legacyMutability e ≠ "pure" := by
  unfold mutability.legacyMutability
  by_cases hconstant : e.constant = some true
  · simp [hconstant]
  · by_cases hpayable : e.payable = some true <;> simp [hconstant, hpayable]

theorem Entry.isCallable_iff : e.isCallable = true ↔ e.Callable := by
  have hparts : e.isCallable = true
      ↔ e.kind = some "function" ∧ e.mutability ≠ "view" ∧ e.mutability ≠ "pure" := by
    simp [isCallable, isReadOnly]
  rw [hparts, mutability_eq]
  cases hdeclared : e.declaredMutability? with
  | some declared =>
    constructor
    · rintro ⟨hkind, hview, hpure⟩
      refine ⟨hkind, fun mutability h => ?_, fun h => ?_⟩
      · obtain rfl := Option.some.inj (hdeclared.symm.trans h)
        exact ⟨hview, hpure⟩
      · cases hdeclared.symm.trans h
    · intro h
      exact ⟨h.kind, h.declared declared hdeclared⟩
  | none =>
    obtain ⟨hview, hpure⟩ := legacyMutability_eq e
    constructor
    · rintro ⟨hkind, hnot, -⟩
      refine ⟨hkind, fun mutability h => ?_, fun _ hconstant => hnot (hview.mpr hconstant)⟩
      cases hdeclared.symm.trans h
    · intro h
      exact ⟨h.kind, fun hv => h.undeclared hdeclared (hview.mp hv), hpure⟩

theorem Entry.isSubscribable_iff : e.isSubscribable = true ↔ e.Subscribable := by
  have hparts : e.isSubscribable = true ↔ e.kind = some "event" ∧ e.anonymous = false := by
    simp [isSubscribable]
  rw [hparts]
  exact ⟨fun h => ⟨h.1, h.2⟩, fun h => ⟨h.kind, h.named⟩⟩

instance : DecidablePred Callable := fun _ => decidable_of_iff _ isCallable_iff

instance : DecidablePred Subscribable := fun _ => decidable_of_iff _ isSubscribable_iff

end Selected

/-- A listing that selects entries and makes something of each of these, unless it refuses one: it
keeps their order, and of what it does not select it asks no more than to be well formed. -/
structure FiltersInOrder {ε α : Type} (Selected : Entry → Prop) [DecidablePred Selected]
    (make : Entry → Except ε α) (Refused : Entry → Prop)
    (list : List Json → Except Failure (List α)) (items : List Json) : Prop where
  /-- The entries are read, the selected ones are kept, and each of these is listed. -/
  lists {xs : List α} : list items = .ok xs
    ↔ ∃ es : List Entry, List.Forall₂ Declares items es
      ∧ List.Forall₂ (fun e x => make e = .ok x) (es.filter fun e => Selected e) xs
  fails : (∃ failure, list items = .error failure)
    ↔ (∃ j ∈ items, Malformed j) ∨ ∃ j ∈ items, ∃ e, Declares j e ∧ Selected e ∧ Refused e
  /-- The first malformed entry is blamed, also where a selected one is refused. -/
  blames {i : Nat} {j : Json} : items[i]? = some j → Malformed j →
    (∀ earlier ∈ items.take i, ¬ Malformed earlier) →
    ∃ fault, list items = .error (.invalidAbi fault) ∧ fault.entry? = some (i : Int)
  append {others : List Json} {xs ys : List α} : list items = .ok xs → list others = .ok ys →
    list (items ++ others) = .ok (xs ++ ys)
  insert {others : List Json} {xs : List α} {j : Json} {e : Entry} :
    list (items ++ others) = .ok xs → Declares j e → ¬ Selected e →
    list (items ++ j :: others) = .ok xs

theorem filtersInOrder_extract {ε α : Type} {chosen : Entry → Bool} {Selected : Entry → Prop}
    [DecidablePred Selected] {make : Entry → Except ε α} {failing : ε → Failure}
    {Refused : Entry → Prop} {list : List Json → Except Failure (List α)}
    (hlist : ∀ items, list items = extract chosen make failing items)
    (hchosen : ∀ e, chosen e = true ↔ Selected e)
    (hmake : ∀ e, (∃ x, make e = .ok x) ↔ ¬ Refused e) (items : List Json) :
    FiltersInOrder Selected make Refused list items := by
  have hdecide : chosen = fun e => decide (Selected e) := by
    funext e
    rw [Bool.eq_iff_iff, hchosen, decide_eq_true_eq]
  obtain rfl : list = extract chosen make failing := funext hlist
  constructor
  case lists =>
    intro xs
    simp only [extract_eq_ok, map_eq_map_iff, declared?_eq_some, hdecide]
  case fails =>
    have hnot : (∃ failure, extract chosen make failing items = .error failure)
        ↔ ¬ ∃ xs, extract chosen make failing items = .ok xs := by
      rw [exists_ok_iff, not_not]
    rw [hnot, exists_extract_eq_ok, not_and_or]
    simp only [hchosen, hmake, Malformed, not_forall, not_exists, exists_prop, not_not]
  case blames =>
    intro i j hj hmalformed hbefore
    obtain ⟨fault, hfault, hplace⟩ := entriesFrom_of_malformed 0 hj hmalformed hbefore
    rw [Nat.zero_add] at hplace
    refine ⟨fault, ?_, hplace⟩
    rw [extract, hfault]
    rfl
  case append => exact extract_append
  case insert =>
    intro others xs j e h he hpassed
    have hpassed' : chosen e = false := Bool.eq_false_iff.mpr fun h => hpassed ((hchosen e).mp h)
    exact extract_insert h he hpassed'

/-- The first selected entry that declares no event decides how the listing fails, unless an entry
cannot be read. -/
theorem events_eq_error {items : List Json} {failure : Failure} :
    (events (.arr items)).outcome = .error failure
      ↔ (∃ fault, entriesFrom 0 items = .error fault ∧ .invalidAbi fault = failure)
        ∨ ∃ es, List.Forall₂ Declares items es
          ∧ ∃ before e after, (es.filter fun e => Subscribable e) = before ++ e :: after
            ∧ (∀ earlier ∈ before, ∃ event, Event.ofEntry earlier = .ok event)
            ∧ Event.ofEntry e = .error failure := by
  have hdecide : isSubscribable = fun e => decide (Subscribable e) := by
    funext e
    rw [Bool.eq_iff_iff, isSubscribable_iff, decide_eq_true_eq]
  have hread {es : List Entry} : entriesFrom 0 items = .ok es ↔ List.Forall₂ Declares items es := by
    simp only [entriesFrom_eq_ok, map_eq_map_iff, declared?_eq_some]
  rw [outcome_events_eq_extract, extract, bind_eq_error, hdecide]
  simp only [mapError_eq_error, mapError_eq_ok, hread, id, exists_eq_right, mapM_eq_error]

/-- The first event of an interface that cannot be listed has a garbled name. -/
def Garbles (items : List Json) : Prop :=
  ∃ es, List.Forall₂ Declares items es
    ∧ ∃ before e after, (es.filter fun e => Subscribable e) = before ++ e :: after
      ∧ (∀ earlier ∈ before, ∃ event, Event.ofEntry earlier = .ok event)
      ∧ (∀ p ∈ e.inputs, ¬ Unusable p) ∧ e.Garbled

theorem events_eq_unencodable {items : List Json} :
    (events (.arr items)).outcome = .error (.misuse .unencodable) ↔ Garbles items := by
  simp only [Garbles, events_eq_error, Event.ofEntry_eq_error, reduceCtorEq, and_false, false_and,
    exists_false, false_or, true_and]

theorem invalidAbi_or_unencodable {items : List Json} {failure : Failure}
    (h : (events (.arr items)).outcome = .error failure) :
    (∃ fault, failure = .invalidAbi fault) ∨ failure = .misuse .unencodable := by
  rcases events_eq_error.mp h with ⟨fault, -, rfl⟩ | ⟨-, -, -, e, -, -, -, he⟩
  · exact .inl ⟨fault, rfl⟩
  · rcases Event.ofEntry_eq_error.mp he with ⟨fault, hfault, -⟩ | ⟨hfault, -, -⟩
    · exact .inl ⟨fault, hfault⟩
    · exact .inr hfault

/-- The functions of an interface that may change the state, and the events that can be subscribed
to, are listed in order, and nothing else in the interface has an influence on the lists. What is
refused is an input of no usable type and, of an event, a garbled name: this comes out as a failure
to encode the name if it is met with first, and all else says what is wrong with the interface. -/
theorem listings_filter_in_order (items : List Json) :
    FiltersInOrder Callable Callee.ofEntry (fun e => ∃ p ∈ e.inputs, Unusable p)
        (fun items => (callees (.arr items)).mapError .invalidAbi) items
      ∧ FiltersInOrder Subscribable Event.ofEntry
        (fun e => (∃ p ∈ e.inputs, Unusable p) ∨ e.Garbled)
        (fun items => (events (.arr items)).outcome) items
      ∧ ((events (.arr items)).outcome = .error (.misuse .unencodable) ↔ Garbles items)
      ∧ ∀ failure, (events (.arr items)).outcome = .error failure →
        (∃ fault, failure = .invalidAbi fault) ∨ failure = .misuse .unencodable := by
  refine ⟨?_, ?_, events_eq_unencodable, fun failure => invalidAbi_or_unencodable⟩
  · refine filtersInOrder_extract callees_eq_extract (fun _ => isCallable_iff) (fun e => ?_) items
    rw [Callee.exists_ofEntry]
    simp only [not_exists, not_and]
  · refine filtersInOrder_extract outcome_events_eq_extract (fun _ => isSubscribable_iff)
      (fun e => ?_) items
    rw [Event.exists_ofEntry, not_or]
    simp only [not_exists, not_and]

end Abi

/-- A function that only reads, with a list among its inputs. -/
def balancesJson : Json := .obj [
  ("type", .str "function"), ("name", .str "balances"), ("stateMutability", .str "view"),
  ("inputs", .arr [.obj [("name", .str "owners"), ("type", .str "address[]")]])]

def balancesEntry : Entry :=
  { kind := some "function", name := "balances", stateMutability := some "view"
    inputs := [{ name := "owners", type := some "address[]" }] }

/-- A function that only reads is passed over with its list, and an entry that is no object is
blamed in spite of an event of no usable type before it. -/
theorem balancesJson_passed_over :
    callees (.arr [balancesJson, creditJson]) = .ok [transferCredit.callee]
      ∧ ∃ fault, (events (.arr [transferJson, .obj [("type", .str "event"),
          ("inputs", .arr [.obj [("type", .str "address[]")]])], .null])).outcome
          = .error (.invalidAbi fault) ∧ fault.entry? = some 2 := by
  have hread : Entry.Declares balancesJson balancesEntry :=
    ⟨rfl, "function", by decide, rfl⟩
  have hpassed : ¬ balancesEntry.Callable := fun h => (h.declared "view" rfl).1 rfl
  have hlisted : (callees (.arr [creditJson])).mapError Failure.invalidAbi
      = .ok [transferCredit.callee] := by
    rw [callees_creditJson]
    rfl
  constructor
  · exact mapError_eq_ok.mp ((listings_filter_in_order []).1.insert hlisted hread hpassed)
  · refine (listings_filter_in_order _).2.1.blames (i := 2) rfl (fun e h => nomatch h.1) ?_
    intro earlier hmem hmalformed
    rcases List.mem_cons.mp hmem with rfl | hmem
    · exact hmalformed transferEntry ⟨rfl, "event", by decide, rfl⟩
    · rw [List.mem_singleton.mp hmem] at hmalformed
      exact hmalformed { kind := some "event", inputs := [{ type := some "address[]" }] }
        ⟨rfl, "event", by decide, rfl⟩

/-- A surrogate on its own. -/
def surrogateName : String := String.ofList (Text.spell 0xd800)

def surrogateEntry : Entry := { kind := some "event", name := surrogateName }

def surrogateJson : Json := .obj [("type", .str "event"), ("name", .str surrogateName)]

private theorem spells_surrogateName : Text.Spells surrogateName [0xd800] := by
  refine ⟨?_, by decide⟩
  rw [surrogateName, String.toList_ofList, List.flatMap_singleton]

private theorem declares_surrogateJson : Entry.Declares surrogateJson surrogateEntry :=
  ⟨rfl, "event", by decide, rfl⟩

theorem garbled_surrogateEntry : surrogateEntry.Garbled :=
  spells_surrogateName.utf8?_eq_none.mpr ⟨0xd800, List.mem_singleton_self _, by decide⟩

/-- An event that a surrogate names cannot be listed, though it is well formed and has no inputs. -/
theorem surrogateJson_unlisted :
    Text.points surrogateName = [0xd800]
      ∧ Entry.Declares surrogateJson surrogateEntry ∧ surrogateEntry.Subscribable
      ∧ surrogateEntry.inputs = []
      ∧ (events (.arr [surrogateJson])).outcome = .error (.misuse .unencodable)
      ∧ (Failure.misuse .unencodable).isOwn = false
      ∧ ¬ ((∃ failure, (events (.arr [surrogateJson])).outcome = .error failure)
        ↔ (∃ j ∈ [surrogateJson], Entry.Malformed j)
          ∨ ∃ j ∈ [surrogateJson], ∃ e, Entry.Declares j e ∧ e.Subscribable
            ∧ ∃ p ∈ e.inputs, Entry.Unusable p) := by
  have hsubscribable : surrogateEntry.Subscribable := ⟨rfl, rfl⟩
  have hfailed : (events (.arr [surrogateJson])).outcome = .error (.misuse .unencodable) := by
    refine events_eq_unencodable.mpr ⟨[surrogateEntry], .cons declares_surrogateJson .nil, [],
      surrogateEntry, [], rfl, nofun, nofun, garbled_surrogateEntry⟩
  refine ⟨spells_surrogateName.points_eq, declares_surrogateJson, hsubscribable, rfl, hfailed, rfl,
    fun hall => ?_⟩
  rcases hall.mp ⟨_, hfailed⟩ with ⟨j, hj, hmalformed⟩ | ⟨j, hj, e, he, -, p, hp, -⟩
  · rw [List.mem_singleton.mp hj] at hmalformed
    exact hmalformed surrogateEntry declares_surrogateJson
  · rw [List.mem_singleton.mp hj, ← Entry.declared?_eq_some,
      Entry.declared?_eq_some.mpr declares_surrogateJson, Option.some.injEq] at he
    rw [← he] at hp
    cases hp

end ReactiveContract
