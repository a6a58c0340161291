import Mathlib.Data.List.Basic
import ReactiveContract.Compiler.Toolchain
import ReactiveContract.Proofs.Outcome
/-! Making sure of a compiler again and again: it is asked for and installed until that has worked
once, and never after that. -/
namespace ReactiveContract.Toolchain

variable {o : CompilerOptions} {m : Manager} {ms : List Manager}

/-- What one attempt can come to, from what is known before it. -/
inductive Attempted (o : CompilerOptions) (m : Manager) : Bool → Readiness → Prop
  | known : Attempted o m true ⟨true, [], pure ()⟩
  | unlisted {failure : Failure} (h : m.installed = .error failure) :
    Attempted o m false
      ⟨false, [.listInstalled], .fail (installationFailure o.solcVersion failure)⟩
  | present {listed : List String} (h : m.installed = .ok listed) (hv : o.solcVersion ∈ listed) :
    Attempted o m false ⟨true, [.listInstalled], pure ()⟩
  | refused {listed : List String} (h : m.installed = .ok listed) (hv : o.solcVersion ∉ listed)
    (hm : o.installMissing.isTruthy = false) :
    Attempted o m false ⟨false, [.listInstalled], .fail (.service (.notInstalled o.solcVersion))⟩
  | failed {listed : List String} {failure : Failure} (h : m.installed = .ok listed)
    (hv : o.solcVersion ∉ listed) (hm : o.installMissing.isTruthy = true)
    (hi : m.install = .error failure) :
    Attempted o m false ⟨false, [.listInstalled, .install o.solcVersion],
      ⟨[.installing o.solcVersion], .error (installationFailure o.solcVersion failure)⟩⟩
  | installed {listed : List String} (h : m.installed = .ok listed) (hv : o.solcVersion ∉ listed)
    (hm : o.installMissing.isTruthy = true) (hi : m.install = .ok ()) :
    Attempted o m false ⟨true, [.listInstalled, .install o.solcVersion],
      .note (.installing o.solcVersion)⟩

theorem attempted (o : CompilerOptions) (ready : Bool) (m : Manager) :
    Attempted o m ready (ensureInstalled o ready m) := by
  unfold ensureInstalled
  cases ready with
  | true => exact .known
  | false =>
    simp only [Bool.false_eq_true, if_false]
    cases hl : m.installed with
    | error failure => exact .unlisted hl
    | ok listed =>
      dsimp only
      by_cases hv : o.solcVersion ∈ listed
      · rw [if_pos hv]
        exact .present hl hv
      · rw [if_neg hv]
        cases hm : o.installMissing.isTruthy with
        | false => exact .refused hl hv hm
        | true =>
          simp only [Bool.not_true, Bool.false_eq_true, if_false]
          cases hi : m.install with
          | error failure => exact .failed hl hv hm hi
          | ok _ => exact .installed hl hv hm hi

/-- The compiler is known to be there after an attempt exactly if the attempt has succeeded. -/
theorem ready_iff_succeeded {ready : Bool} :
    (ensureInstalled o ready m).ready = true
      ↔ (ensureInstalled o ready m).result.outcome = .ok () := by
  have h := attempted o ready m
  generalize ensureInstalled o ready m = r at h
  cases h <;> simp

/-- What is known after some attempts. -/
def readyAfter (o : CompilerOptions) (ready : Bool) (ms : List Manager) : Bool :=
  ms.foldl (fun ready m => (ensureInstalled o ready m).ready) ready

/-- Successive attempts, each with the manager as it behaves at the time. -/
def attempts (o : CompilerOptions) : Bool → List Manager → List Readiness
  | _, [] => []
  | ready, m :: ms =>
    ensureInstalled o ready m :: attempts o (ensureInstalled o ready m).ready ms

/-- Each attempt goes by what is known from those before it. -/
theorem getElem?_attempts (ready : Bool) (ms : List Manager) (i : Nat) :
    (attempts o ready ms)[i]?
      = ms[i]?.map (ensureInstalled o (readyAfter o ready (ms.take i))) := by
  induction ms generalizing ready i with
  | nil => rfl
  | cons m ms ih =>
    cases i with
    | zero => rfl
    | succ i => exact ih (ensureInstalled o ready m).ready i

private theorem length_attempts (ready : Bool) (ms : List Manager) :
    (attempts o ready ms).length = ms.length := by
  induction ms generalizing ready with
  | nil => rfl
  | cons m ms ih => exact congrArg (· + 1) (ih (ensureInstalled o ready m).ready)

private theorem drop_attempts (ready : Bool) (ms : List Manager) (i : Nat) :
    (attempts o ready ms).drop i = attempts o (readyAfter o ready (ms.take i)) (ms.drop i) := by
  induction ms generalizing ready i with
  | nil => simp [attempts]
  | cons m ms ih =>
    cases i with
    | zero => rfl
    | succ i => exact ih (ensureInstalled o ready m).ready i

private theorem readyAfter_true (ms : List Manager) : readyAfter o true ms = true := by
  induction ms with
  | nil => rfl
  | cons m ms ih => exact ih

theorem readyAfter_take_succ {ready : Bool} {i : Nat} (h : ms[i]? = some m) :
    readyAfter o ready (ms.take (i + 1))
      = (ensureInstalled o (readyAfter o ready (ms.take i)) m).ready := by
  rw [List.take_add_one, h, readyAfter, List.foldl_append]
  rfl

/-- What is known stays known. -/
private theorem readyAfter_mono {ready : Bool} {i j : Nat} (hij : i ≤ j)
    (h : readyAfter o ready (ms.take i) = true) : readyAfter o ready (ms.take j) = true := by
  have hsplit : ms.take j = ms.take i ++ (ms.drop i).take (j - i) := by
    rw [← List.take_add, Nat.add_sub_cancel' hij]
  rw [readyAfter] at h
  rw [hsplit, readyAfter, List.foldl_append, h]
  exact readyAfter_true _

/-- What holds of successive attempts to make sure of a compiler, and of what each came to. -/
structure OneShot (o : CompilerOptions) (ms : List Manager) (rs : List Readiness) : Prop where
  length_eq : rs.length = ms.length
  /-- The compiler is known to be there exactly from the first success on. -/
  ready_iff : ∀ (i : Nat) (r : Readiness), rs[i]? = some r →
    (r.ready = true ↔ ∃ j ≤ i, ∃ s : Readiness, rs[j]? = some s ∧ s.result.outcome = .ok ())
  /-- Until then each attempt starts with the question what is installed. It succeeds if the version
  is there, or is wanted and can be installed. -/
  tries : ∀ (i : Nat) (m : Manager) (r : Readiness), ms[i]? = some m → rs[i]? = some r →
    (∀ j < i, ∀ s : Readiness, rs[j]? = some s → s.ready = false) →
      r.calls.head? = some .listInstalled
        ∧ (r.result.outcome = .ok () ↔ ∃ listed, m.installed = .ok listed
          ∧ (o.solcVersion ∈ listed ∨ o.installMissing.isTruthy = true ∧ m.install = .ok ()))
  /-- Once it is known, nothing is asked for or installed. -/
  quiet : ∀ (i j : Nat) (r s : Readiness), i < j → rs[i]? = some r → rs[j]? = some s →
    r.ready = true → s.calls = [] ∧ s.result.outcome = .ok ()
  /-- Only a missing version is installed, and only if that is wanted. -/
  installs_missing : ∀ (i : Nat) (m : Manager) (r : Readiness) (version : String),
    ms[i]? = some m → rs[i]? = some r → .install version ∈ r.calls →
      version = o.solcVersion ∧ o.installMissing.isTruthy = true
        ∧ r.calls = [.listInstalled, .install version]
        ∧ ∃ listed, m.installed = .ok listed ∧ version ∉ listed
  installs_once : ∀ (i j : Nat) (m n : Manager) (r s : Readiness) (u v : String),
    ms[i]? = some m → rs[i]? = some r → .install u ∈ r.calls → m.install = .ok () →
    ms[j]? = some n → rs[j]? = some s → .install v ∈ s.calls → n.install = .ok () → i = j
  /-- A failure leaves things as they were at first, and what follows goes on from there. -/
  failed_unchanged : ∀ (i : Nat) (r : Readiness) (failure : Failure), rs[i]? = some r →
    r.result.outcome = .error failure →
      r.ready = false ∧ (∀ j < i, ∀ s : Readiness, rs[j]? = some s → s.ready = false)
        ∧ rs.drop (i + 1) = attempts o false (ms.drop (i + 1))
  /-- Failures of installers and of the system are told apart from those of other kinds. -/
  reports : ∀ (i : Nat) (m : Manager) (r : Readiness) (f : ForeignFailure),
    ms[i]? = some m → rs[i]? = some r →
      (.listInstalled ∈ r.calls ∧ m.installed = .error (.foreign f)
        ∨ .install o.solcVersion ∈ r.calls ∧ m.install = .error (.foreign f)) →
      r.result.outcome = .error
        (if f.family = .installer ∨ f.family = .system ∨ f.family = .timeout then
          .service (.notInstallable o.solcVersion f.text)
        else .foreign f)

private theorem installationFailure_foreign (version : String) (f : ForeignFailure) :
    installationFailure version (.foreign f)
      = if f.family = .installer ∨ f.family = .system ∨ f.family = .timeout then
          .service (.notInstallable version f.text)
        else .foreign f := by
  unfold installationFailure
  cases hf : f.family <;> simp [hf]

/-- The attempt at a position, and what is known before and after it. -/
theorem attempt_at {i : Nat} {r : Readiness} (h : (attempts o false ms)[i]? = some r) :
    ∃ m, ms[i]? = some m ∧ r.ready = readyAfter o false (ms.take (i + 1))
      ∧ Attempted o m (readyAfter o false (ms.take i)) r
      ∧ (r.ready = true ↔ r.result.outcome = .ok ()) := by
  rw [getElem?_attempts, Option.map_eq_some_iff] at h
  obtain ⟨m, hm, rfl⟩ := h
  exact ⟨m, hm, (readyAfter_take_succ hm).symm, attempted _ _ _, ready_iff_succeeded⟩

/-- Nothing is known before the first attempt, so some attempt has made it known. -/
theorem exists_success {i : Nat} (h : readyAfter o false (ms.take i) = true) :
    ∃ j < i, ∃ r, (attempts o false ms)[j]? = some r ∧ r.result.outcome = .ok () := by
  induction i with
  | zero => cases h
  | succ i ih =>
    cases hm : ms[i]? with
    | none =>
      have hlength : ms.length ≤ i := List.getElem?_eq_none_iff.mp hm
      rw [List.take_of_length_le (by omega), ← List.take_of_length_le hlength] at h
      obtain ⟨j, hj, hr⟩ := ih h
      exact ⟨j, by omega, hr⟩
    | some m =>
      rw [readyAfter_take_succ hm] at h
      refine ⟨i, by omega, _, ?_, ready_iff_succeeded.mp h⟩
      rw [getElem?_attempts, hm]
      rfl

/-- Attempts after a success find the compiler known. -/
theorem known_after {i j : Nat} {r : Readiness} (hij : i < j)
    (hi : (attempts o false ms)[i]? = some r) (hr : r.ready = true) :
    readyAfter o false (ms.take j) = true := by
  obtain ⟨m, -, hready, -, -⟩ := attempt_at hi
  exact readyAfter_mono hij (hready.symm.trans hr)

/-- An attempt before which nothing is known finds the version or gets it. -/
theorem Attempted.tries {r : Readiness} (h : Attempted o m false r) :
    r.calls.head? = some .listInstalled
      ∧ (r.result.outcome = .ok () ↔ ∃ listed, m.installed = .ok listed
        ∧ (o.solcVersion ∈ listed ∨ o.installMissing.isTruthy = true ∧ m.install = .ok ())) := by
  cases h with
  | unlisted h => simp [h]
  | present h hlisted => simp [h, hlisted]
  | refused h hlisted hm => simp [h, hlisted, hm]
  | failed h hlisted hm hi => simp [h, hlisted, hi]
  | installed h _ hm hi => simp [h, hm, hi]

/-- What an attempt that installs something has found. -/
theorem Attempted.installs {ready : Bool} {r : Readiness} {version : String}
    (h : Attempted o m ready r) (hv : .install version ∈ r.calls) :
    version = o.solcVersion ∧ o.installMissing.isTruthy = true
      ∧ r.calls = [.listInstalled, .install version]
      ∧ (∃ listed, m.installed = .ok listed ∧ version ∉ listed)
      ∧ ready = false ∧ (m.install = .ok () → r.ready = true) := by
  cases h with
  | failed h hlisted hm hi =>
    obtain rfl : version = o.solcVersion := by simpa using hv
    exact ⟨rfl, hm, rfl, ⟨_, h, hlisted⟩, rfl, fun hok => by rw [hi] at hok; cases hok⟩
  | installed h hlisted hm hi =>
    obtain rfl : version = o.solcVersion := by simpa using hv
    exact ⟨rfl, hm, rfl, ⟨_, h, hlisted⟩, rfl, fun _ => rfl⟩
  | known => simp at hv
  | unlisted => simp at hv
  | present => simp at hv
  | refused => simp at hv

/-- After an installation that worked nothing is installed any more. -/
theorem not_installs_later {i j : Nat} {r s : Readiness} {u v : String} (hm : ms[i]? = some m)
    (hr : (attempts o false ms)[i]? = some r) (hu : .install u ∈ r.calls)
    (hok : m.install = .ok ()) (hs : (attempts o false ms)[j]? = some s)
    (hv : .install v ∈ s.calls) : ¬ i < j := by
  intro hij
  obtain ⟨n, hn, -, hattempt, -⟩ := attempt_at hr
  obtain rfl : n = m := Option.some.inj (hn.symm.trans hm)
  obtain ⟨-, -, -, -, -, hready⟩ := hattempt.installs hu
  obtain ⟨k, -, -, hlater, -⟩ := attempt_at hs
  obtain ⟨-, -, -, -, hunknown, -⟩ := hlater.installs hv
  rw [known_after hij hr (hready hok)] at hunknown
  cases hunknown

/-- An attempt that fails has found nothing known. -/
private theorem Attempted.of_error {ready : Bool} {r : Readiness} {failure : Failure}
    (h : Attempted o m ready r) (hr : r.result.outcome = .error failure) :
    ready = false ∧ r.ready = false := by
  cases h with
  | known => cases hr
  | present => cases hr
  | installed => cases hr
  | unlisted => exact ⟨rfl, rfl⟩
  | refused => exact ⟨rfl, rfl⟩
  | failed => exact ⟨rfl, rfl⟩

/-- A failure that the manager meets is what an attempt fails with. -/
private theorem Attempted.outcome_of_failure {ready : Bool} {r : Readiness} {failure : Failure}
    (h : Attempted o m ready r) (hf : .listInstalled ∈ r.calls ∧ m.installed = .error failure
      ∨ .install o.solcVersion ∈ r.calls ∧ m.install = .error failure) :
    r.result.outcome = .error (installationFailure o.solcVersion failure) := by
  cases h with
  | known => simp at hf
  | unlisted h =>
    obtain rfl : _ = failure := by simpa [h] using hf
    rfl
  | present h => simp [h] at hf
  | refused h => simp [h] at hf
  | failed h _ _ hi =>
    obtain rfl : _ = failure := by simpa [h, hi] using hf
    rfl
  | installed h _ _ hi => simp [h, hi] at hf

/-- Whatever the manager does, the compiler is made sure of once. -/
theorem attempts_oneShot (o : CompilerOptions) (ms : List Manager) :
    OneShot o ms (attempts o false ms) where
  length_eq := length_attempts false ms
  ready_iff i r hr := by
    obtain ⟨m, -, hready, -, -⟩ := attempt_at hr
    constructor
    · intro h
      obtain ⟨j, hj, hs⟩ := exists_success (hready.symm.trans h)
      exact ⟨j, Nat.le_of_lt_succ hj, hs⟩
    · rintro ⟨j, hj, s, hs, hok⟩
      obtain ⟨n, -, -, -, hiff⟩ := attempt_at hs
      exact hready.trans (known_after (Nat.lt_succ_of_le hj) hs (hiff.mpr hok))
  tries i m r hm hr hbefore := by
    obtain ⟨n, hn, -, hattempt, -⟩ := attempt_at hr
    obtain rfl : n = m := Option.some.inj (hn.symm.trans hm)
    have hunknown : readyAfter o false (ms.take i) = false := by
      rw [← Bool.not_eq_true]
      intro hknown
      obtain ⟨j, hj, s, hs, hok⟩ := exists_success hknown
      obtain ⟨-, -, -, -, hiff⟩ := attempt_at hs
      have hready := hbefore j hj s hs
      rw [hiff.mpr hok] at hready
      cases hready
    rw [hunknown] at hattempt
    exact hattempt.tries
  quiet i j r s hij hr hs h := by
    obtain ⟨m, -, -, hattempt, -⟩ := attempt_at hs
    rw [known_after hij hr h] at hattempt
    cases hattempt
    exact ⟨rfl, rfl⟩
  installs_missing i m r version hm hr hv := by
    obtain ⟨n, hn, -, hattempt, -⟩ := attempt_at hr
    obtain rfl : n = m := Option.some.inj (hn.symm.trans hm)
    obtain ⟨hversion, hwanted, hcalls, hlisted, -, -⟩ := hattempt.installs hv
    exact ⟨hversion, hwanted, hcalls, hlisted⟩
  installs_once i j m n r s u v hm hr hu hmok hn hs hv hnok := by
    have hle := not_installs_later hm hr hu hmok hs hv
    have hge := not_installs_later hn hs hv hnok hr hu
    omega
  failed_unchanged i r failure hr hfailed := by
    obtain ⟨m, hm, hready, hattempt, -⟩ := attempt_at hr
    obtain ⟨hbefore, hafter⟩ := hattempt.of_error hfailed
    refine ⟨hafter, fun j hj s hs => ?_, ?_⟩
    · rw [← Bool.not_eq_true]
      intro hs'
      rw [known_after hj hs hs'] at hbefore
      cases hbefore
    · rw [drop_attempts, ← hready, hafter]
  reports i m r f hm hr hf := by
    obtain ⟨n, hn, -, hattempt, -⟩ := attempt_at hr
    obtain rfl : n = m := Option.some.inj (hn.symm.trans hm)
    rw [← installationFailure_foreign]
    exact hattempt.outcome_of_failure hf

end ReactiveContract.Toolchain
