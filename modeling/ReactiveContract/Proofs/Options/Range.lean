import Mathlib.Data.List.Basic
import Mathlib.Data.List.TakeWhile
import ReactiveContract.Options.Environment
import ReactiveContract.Proofs.Outcome
import ReactiveContract.Proofs.Quantity
/-! Options that are loaded from the environment lie in their ranges, four gaps in the checks
apart. -/
namespace ReactiveContract
open Outcome Text

/-- The faults that are about the value of a setting, not about its name or kind. -/
def OptionFault.ConcernsValue : OptionFault → Prop
  | .unknownName _ | .wrongType _ | .urlNotText => False
  | _ => True

/-- The host of an authority, with neither user, port nor brackets. -/
def Network.Origin.hostName (origin : Origin) : List Char :=
  let place := afterUserInfo origin.authority
  match place.dropWhile (· != '[') with
  | [] => place.takeWhile (· != ':')
  | _ :: rest => rest.takeWhile (· != ']')

/-- A run of decimal digits of any script. -/
def IsNumeral (cs : List Char) : Prop := cs ≠ [] ∧ ∀ c ∈ cs, (decimalDigit? c).isSome = true

/-- Three numerals with points between them, and nothing else. -/
def IsVersion (cs : List Char) : Prop :=
  ∃ major minor patch, IsNumeral major ∧ IsNumeral minor ∧ IsNumeral patch
    ∧ cs = ['.'].intercalate [major, minor, patch]

/-- A binary number with a property of its value. -/
def Quantity.HasValue (P : ℚ → Prop) (q : Quantity) : Prop :=
  ∃ x r, q = .binary x ∧ x.value? = some r ∧ P r

def Quantity.IsWhole (P : Int → Prop) (q : Quantity) : Prop := ∃ n, q = .whole n ∧ P n

namespace Options

/-- What holds of all options that can be loaded. -/
structure Admitted (o : Options) : Prop where
  version : IsVersion (withoutFinalLineFeed o.compiler.solcVersion.toList)
  runs : o.compiler.optimizeRuns.IsWhole fun n => 1 ≤ n ∧ n ≤ 1000000
  compileTimeout : o.compiler.timeout = .binary .nan
    ∨ o.compiler.timeout.HasValue fun r => 0 < r ∧ r ≤ 600
  explorerTimeout : o.explorer.timeout = .binary .nan
    ∨ o.explorer.timeout = .binary (.infinite false) ∨ o.explorer.timeout.HasValue fun r => 0 < r
  gasLimit : o.generator.callbackGasLimit.IsWhole fun n => 0 < n ∧ n < 2 ^ 64
  origin : ∃ origin, Network.Origin.ofUrl o.explorer.apiUrl = .ok origin
    ∧ (origin.scheme = "http" ∨ origin.scheme = "https") ∧ origin.authority ≠ []

/-- All options lie in their ranges. -/
structure InRange (o : Options) : Prop where
  version : IsVersion o.compiler.solcVersion.toList
  runs : o.compiler.optimizeRuns.IsWhole fun n => 1 ≤ n ∧ n ≤ 1000000
  compileTimeout : o.compiler.timeout.HasValue fun r => 0 < r ∧ r ≤ 600
  explorerTimeout : o.explorer.timeout = .binary (.infinite false)
    ∨ o.explorer.timeout.HasValue fun r => 0 < r
  gasLimit : o.generator.callbackGasLimit.IsWhole fun n => 0 < n ∧ n < 2 ^ 64
  origin : ∃ origin, Network.Origin.ofUrl o.explorer.apiUrl = .ok origin
    ∧ (origin.scheme = "http" ∨ origin.scheme = "https") ∧ origin.hostName ≠ []

end Options

private theorem Text.splitAtEach_eq_splitOn (separator : Char) (cs : List Char) :
    splitAtEach separator cs = cs.splitOn separator := by
  induction cs with
  | nil => rfl
  | cons c rest ih =>
    rw [splitAtEach, List.splitOn_cons_eq_if_modifyHead, ih]
    by_cases h : c = separator
    · rw [if_pos h, if_pos (beq_iff_eq.mpr h)]
    · rw [if_neg h, if_neg (h ∘ beq_iff_eq.mp)]
      cases hparts : rest.splitOn separator with
      | nil => exact absurd hparts (List.splitOn_ne_nil separator rest)
      | cons part parts => rfl

section Versions
variable {cs : List Char}

theorem IsNumeral.not_mem (h : IsNumeral cs) {c : Char} (hc : decimalDigit? c = none) :
    c ∉ cs := by
  intro hmem
  have hdigit := h.2 c hmem
  rw [hc] at hdigit
  cases hdigit

theorem isVersion_iff {version : String} :
    isVersion version = true ↔ IsVersion (withoutFinalLineFeed version.toList) := by
  have hnumeral (cs : List Char) :
      (!cs.isEmpty && cs.all fun c => (decimalDigit? c).isSome) = true ↔ IsNumeral cs := by
    simp [IsNumeral]
  unfold isVersion
  generalize withoutFinalLineFeed version.toList = cs
  rw [Text.splitAtEach_eq_splitOn]
  dsimp only
  constructor
  · intro h
    split at h
    case h_1 major minor patch hparts =>
      simp only [Bool.and_eq_true, hnumeral] at h
      refine ⟨major, minor, patch, h.1.1, h.1.2, h.2, ?_⟩
      rw [← hparts, List.intercalate_splitOn]
    case h_2 => cases h
  · rintro ⟨major, minor, patch, hmajor, hminor, hpatch, rfl⟩
    have hpoint : decimalDigit? '.' = none := by decide
    have hparts : ∀ part ∈ [major, minor, patch], '.' ∉ part := by
      simp [hmajor.not_mem hpoint, hminor.not_mem hpoint, hpatch.not_mem hpoint]
    rw [List.splitOn_intercalate '.' hparts (List.cons_ne_nil _ _)]
    simp only [Bool.and_eq_true, hnumeral]
    exact ⟨⟨hmajor, hminor⟩, hpatch⟩

/-- A version ends with a digit. -/
theorem IsVersion.getLast?_ne (h : IsVersion cs) : cs.getLast? ≠ some '\n' := by
  obtain ⟨major, minor, patch, -, -, hpatch, rfl⟩ := h
  intro hlast
  have hjoin : ['.'].intercalate [major, minor, patch]
      = (major ++ '.' :: minor ++ ['.']) ++ patch := by
    simp [List.intercalate]
  rw [hjoin, List.getLast?_append_of_ne_nil _ hpatch.1] at hlast
  exact hpatch.not_mem (by decide) (List.mem_of_getLast? hlast)

theorem isVersion_toList_iff {version : String}
    (h : IsVersion (withoutFinalLineFeed version.toList)) :
    IsVersion version.toList ↔ version.toList.getLast? ≠ some '\n' := by
  constructor
  · exact IsVersion.getLast?_ne
  · intro hlast
    rwa [withoutFinalLineFeed, if_neg hlast] at h

end Versions

namespace Quantity
variable {x : Binary64}

/-- What is left of the binary numbers that are not at most zero. -/
theorem of_not_isAtMost_zero (h : (binary x).isAtMost 0 = false) :
    x = .nan ∨ x = .infinite false ∨ (binary x).HasValue fun r => 0 < r := by
  cases x with
  | nan => exact .inl rfl
  | infinite negative =>
    cases negative with
    | false => exact .inr (.inl rfl)
    | true => cases h
  | finite negative m e =>
    refine .inr (.inr ⟨_, _, rfl, rfl, ?_⟩)
    rw [← Bool.not_eq_true, isAtMost_iff_of_value? rfl] at h
    simpa using h

theorem not_hasValue_nan (P : ℚ → Prop) : ¬ (binary .nan).HasValue P := by
  rintro ⟨x, r, hx, hr, -⟩
  cases hx
  cases hr

end Quantity

namespace Network

private theorem mem_of_mem_afterUserInfo {authority : List Char} {c : Char}
    (h : c ∈ afterUserInfo authority) : c ∈ authority :=
  List.mem_reverse.mp (List.takeWhile_sublist _ |>.mem (List.mem_reverse.mp h))

private theorem bracketed_of_checkAuthority {authority : List Char}
    (h : checkAuthority authority = .ok ()) (hbracket : '[' ∈ authority) :
    ∃ host, hostInBrackets authority = .ok host ∧ checkBracketedHost host = .ok () := by
  unfold checkAuthority at h
  rw [if_pos (by simp [hbracket])] at h
  split at h
  · obtain ⟨host, hhost, h⟩ := bind_eq_ok.mp h
    obtain ⟨⟨⟩, haddress, -⟩ := bind_eq_ok.mp h
    exact ⟨host, hhost, haddress⟩
  · cases h

/-- Brackets enclose the whole host, and there is an address in them. -/
private theorem hostInBrackets_cons {authority host rest : List Char} {c : Char}
    (h : hostInBrackets authority = .ok host)
    (hrest : (afterUserInfo authority).dropWhile (· != '[') = c :: rest) :
    (afterUserInfo authority).head? = some '[' ∧ host = rest.takeWhile (· != ']') := by
  unfold hostInBrackets at h
  dsimp only at h
  rw [hrest] at h
  dsimp only at h
  split at h
  case isTrue => cases h
  case isFalse hplace =>
    rw [Bool.or_eq_true, not_or] at hplace
    exact ⟨by simpa using hplace.1, (Except.ok.inj h).symm⟩

private theorem Origin.checkAuthority_of_ofUrl {url : String} {origin : Origin}
    (h : Origin.ofUrl url = .ok origin) : checkAuthority origin.authority = .ok () := by
  obtain ⟨⟨⟩, hchecked, horigin⟩ := bind_eq_ok.mp h
  rw [← pure_eq_ok.mp horigin]
  exact hchecked

/-- A host is missing exactly if nothing or a colon comes first in the place. -/
theorem Origin.hostName_ne_nil_iff {url : String} {origin : Origin}
    (h : Origin.ofUrl url = .ok origin) :
    origin.hostName ≠ [] ↔ ∃ c rest, afterUserInfo origin.authority = c :: rest ∧ c ≠ ':' := by
  have hchecked := checkAuthority_of_ofUrl h
  unfold hostName
  dsimp only
  split
  case h_1 hnone =>
    cases afterUserInfo origin.authority with
    | nil => simp
    | cons c rest => by_cases hc : c = ':' <;> simp [hc]
  case h_2 c rest hrest =>
    have hbracket : '[' ∈ afterUserInfo origin.authority := by
      by_contra hnot
      have hall : ∀ d ∈ afterUserInfo origin.authority, (d != '[') = true :=
        fun d hd => bne_iff_ne.mpr fun h => hnot (h ▸ hd)
      rw [List.dropWhile_eq_nil_iff.mpr hall] at hrest
      cases hrest
    obtain ⟨host, hhost, haddress⟩ :=
      bracketed_of_checkAuthority hchecked (mem_of_mem_afterUserInfo hbracket)
    obtain ⟨hhead, rfl⟩ := hostInBrackets_cons hhost hrest
    refine iff_of_true (fun hnil => ?_) ?_
    · rw [hnil] at haddress
      cases haddress
    · obtain ⟨rest, hplace⟩ := List.head?_eq_some_iff.mp hhead
      exact ⟨'[', rest, hplace, by decide⟩

end Network

namespace Environment
variable {env : Environment} {name default : String} {q : Quantity}

theorem exists_of_seconds (h : env.seconds name default = .ok q) : ∃ x, q = .binary x := by
  obtain ⟨x, -, rfl⟩ := map_eq_ok.mp h
  exact ⟨x, rfl⟩

theorem exists_of_integer (h : env.integer name default = .ok q) : ∃ n, q = .whole n := by
  obtain ⟨n, -, rfl⟩ := map_eq_ok.mp h
  exact ⟨n, rfl⟩

theorem number_failsWith {α : Type} (env : Environment) (name default : String)
    (read? : String → Option α) :
    FailsWith OptionFault.ConcernsValue (env.number name default read?) := by
  unfold number
  dsimp only
  split
  · exact failsWith_ok _
  · exact failsWith_error.mpr trivial

theorem seconds_failsWith (env : Environment) (name default : String) :
    FailsWith OptionFault.ConcernsValue (env.seconds name default) :=
  (env.number_failsWith name default readBinary64?).map Quantity.binary

theorem integer_failsWith (env : Environment) (name default : String) :
    FailsWith OptionFault.ConcernsValue (env.integer name default) :=
  (env.number_failsWith name default readInteger?).map Quantity.whole

theorem boolean_failsWith (env : Environment) (name : String) (default : Bool) :
    FailsWith OptionFault.ConcernsValue (env.boolean name default) := by
  unfold boolean
  split
  · exact failsWith_ok _
  · dsimp only
    split
    · exact failsWith_ok _
    · split
      · exact failsWith_ok _
      · exact failsWith_error.mpr trivial

end Environment

theorem CompilerOptions.check_failsWith (o : CompilerOptions) :
    FailsWith OptionFault.ConcernsValue o.check := by
  unfold check
  split_ifs <;> first | exact failsWith_ok _ | exact failsWith_error.mpr trivial

theorem ExplorerOptions.check_failsWith (o : ExplorerOptions) :
    FailsWith OptionFault.ConcernsValue o.check := by
  unfold check
  split
  · exact failsWith_error.mpr trivial
  · split_ifs <;> first | exact failsWith_ok _ | exact failsWith_error.mpr trivial

theorem GeneratorOptions.check_failsWith (o : GeneratorOptions) :
    FailsWith OptionFault.ConcernsValue o.check := by
  unfold check
  split_ifs <;> first | exact failsWith_ok _ | exact failsWith_error.mpr trivial

private theorem Options.ofEnvironment_failsWith (env : Environment) :
    FailsWith OptionFault.ConcernsValue (ofEnvironment env) := by
  have hcompiler : FailsWith OptionFault.ConcernsValue (CompilerOptions.ofEnvironment env) := by
    refine (env.boolean_failsWith _ _).bind fun optimize => ?_
    refine (env.integer_failsWith _ _).bind fun runs => ?_
    refine (env.seconds_failsWith _ _).bind fun timeout => ?_
    refine (env.boolean_failsWith _ _).bind fun installMissing => ?_
    exact CompilerOptions.check_failsWith _
  have hexplorer : FailsWith OptionFault.ConcernsValue (ExplorerOptions.ofEnvironment env) :=
    (env.seconds_failsWith _ _).bind fun _ => ExplorerOptions.check_failsWith _
  have hgenerator : FailsWith OptionFault.ConcernsValue (GeneratorOptions.ofEnvironment env) :=
    (env.integer_failsWith _ _).bind fun _ => GeneratorOptions.check_failsWith _
  exact hcompiler.bind fun _ => hexplorer.bind fun _ => hgenerator.bind fun _ => failsWith_ok _

section Loading
variable {env : Environment}

private theorem CompilerOptions.of_check {o p : CompilerOptions} (h : o.check = .ok p) :
    p = o ∧ isVersion o.solcVersion = true
      ∧ (o.optimizeRuns.isAtLeast 1 = true ∧ o.optimizeRuns.isAtMost mostOptimizeRuns = true)
      ∧ o.timeout.isAtMost 0 = false ∧ o.timeout.isAbove longestCompile = false := by
  unfold check at h
  split_ifs at h with hversion hruns hpositive hlongest
  refine ⟨(Except.ok.inj h).symm, ?_, ?_, ?_, ?_⟩
  · simpa using hversion
  · simpa using hruns
  · simpa using hpositive
  · simpa using hlongest

theorem CompilerOptions.of_ofEnvironment {o : CompilerOptions} (h : ofEnvironment env = .ok o) :
    IsVersion (withoutFinalLineFeed o.solcVersion.toList)
      ∧ (o.optimizeRuns.IsWhole fun n => 1 ≤ n ∧ n ≤ 1000000)
      ∧ (o.timeout = .binary .nan ∨ o.timeout.HasValue fun r => 0 < r ∧ r ≤ 600) := by
  obtain ⟨optimize, -, h⟩ := bind_eq_ok.mp h
  obtain ⟨runs, hruns, h⟩ := bind_eq_ok.mp h
  obtain ⟨timeout, htimeout, h⟩ := bind_eq_ok.mp h
  obtain ⟨installMissing, -, h⟩ := bind_eq_ok.mp h
  obtain ⟨n, rfl⟩ := Environment.exists_of_integer hruns
  obtain ⟨x, rfl⟩ := Environment.exists_of_seconds htimeout
  obtain ⟨rfl, hversion, ⟨hleast, hmost⟩, hpositive, hlongest⟩ := of_check h
  refine ⟨isVersion_iff.mp hversion, ⟨n, rfl, ?_, ?_⟩, ?_⟩
  · exact Quantity.isAtLeast_whole_iff.mp hleast
  · exact Quantity.isAtMost_whole_iff.mp hmost
  · rcases Quantity.of_not_isAtMost_zero hpositive with rfl | rfl | hvalue
    · exact .inl rfl
    · cases hlongest
    · obtain ⟨y, r, hy, hr, hpos⟩ := hvalue
      obtain rfl : x = y := Quantity.binary.inj hy
      rw [← Bool.not_eq_true, Quantity.isAbove_iff_of_value? hr, not_lt] at hlongest
      exact .inr ⟨x, r, rfl, hr, hpos, by simpa [longestCompile] using hlongest⟩

theorem ExplorerOptions.of_ofEnvironment {o : ExplorerOptions} (h : ofEnvironment env = .ok o) :
    (o.timeout = .binary .nan
        ∨ o.timeout = .binary (.infinite false) ∨ o.timeout.HasValue fun r => 0 < r)
      ∧ ∃ origin, Network.Origin.ofUrl o.apiUrl = .ok origin
        ∧ (origin.scheme = "http" ∨ origin.scheme = "https") ∧ origin.authority ≠ [] := by
  obtain ⟨timeout, htimeout, h⟩ := bind_eq_ok.mp h
  obtain ⟨x, rfl⟩ := Environment.exists_of_seconds htimeout
  unfold check at h
  split at h
  case h_1 => cases h
  case h_2 origin horigin =>
    split_ifs at h with hurl hpositive
    obtain rfl := Except.ok.inj h
    rw [not_or, not_and_or, not_not, not_not] at hurl
    refine ⟨?_, origin, horigin, hurl⟩
    rcases Quantity.of_not_isAtMost_zero (Bool.not_eq_true _ ▸ hpositive) with rfl | rfl | hvalue
    · exact .inl rfl
    · exact .inr (.inl rfl)
    · exact .inr (.inr hvalue)

theorem GeneratorOptions.of_ofEnvironment {o : GeneratorOptions}
    (h : ofEnvironment env = .ok o) :
    o.callbackGasLimit.IsWhole fun n => 0 < n ∧ n < 2 ^ 64 := by
  obtain ⟨limit, hlimit, h⟩ := bind_eq_ok.mp h
  obtain ⟨n, rfl⟩ := Environment.exists_of_integer hlimit
  unfold check at h
  split_ifs at h with hbounds
  obtain rfl := Except.ok.inj h
  rw [Bool.and_eq_true] at hbounds
  refine ⟨n, rfl, Quantity.isAbove_whole_iff.mp hbounds.1, ?_⟩
  exact Quantity.isBelow_whole_iff.mp hbounds.2

private theorem Options.admitted_of_ofEnvironment {o : Options} (h : ofEnvironment env = .ok o) :
    o.Admitted := by
  obtain ⟨compiler, hcompiler, h⟩ := bind_eq_ok.mp h
  obtain ⟨explorer, hexplorer, h⟩ := bind_eq_ok.mp h
  obtain ⟨generator, hgenerator, h⟩ := bind_eq_ok.mp h
  obtain rfl := pure_eq_ok.mp h
  obtain ⟨hversion, hruns, hcompile⟩ := CompilerOptions.of_ofEnvironment hcompiler
  obtain ⟨hexplore, horigin⟩ := ExplorerOptions.of_ofEnvironment hexplorer
  have hgas := GeneratorOptions.of_ofEnvironment hgenerator
  exact ⟨hversion, hruns, hcompile, hexplore, hgas, horigin⟩

/-- The gaps in the checks. -/
theorem Options.Admitted.inRange_iff {o : Options} (h : o.Admitted) :
    o.InRange ↔ o.compiler.solcVersion.toList.getLast? ≠ some '\n'
      ∧ o.compiler.timeout ≠ .binary .nan ∧ o.explorer.timeout ≠ .binary .nan
      ∧ ∃ origin c rest, Network.Origin.ofUrl o.explorer.apiUrl = .ok origin
        ∧ Network.afterUserInfo origin.authority = c :: rest ∧ c ≠ ':' := by
  obtain ⟨origin, horigin, hscheme, -⟩ := h.origin
  constructor
  · intro hr
    refine ⟨hr.version.getLast?_ne, fun hnan => ?_, fun hnan => ?_, ?_⟩
    · exact Quantity.not_hasValue_nan _ (hnan ▸ hr.compileTimeout)
    · rcases hr.explorerTimeout with hinfinite | hvalue
      · cases hnan.symm.trans hinfinite
      · exact Quantity.not_hasValue_nan _ (hnan ▸ hvalue)
    · obtain ⟨origin, horigin, -, hhost⟩ := hr.origin
      obtain ⟨c, rest, hplace, hc⟩ := (Network.Origin.hostName_ne_nil_iff horigin).mp hhost
      exact ⟨origin, c, rest, horigin, hplace, hc⟩
  · rintro ⟨hversion, hcompile, hexplorer, other, c, rest, hother, hplace, hc⟩
    obtain rfl : origin = other := Except.ok.inj (horigin.symm.trans hother)
    exact {
      version := (isVersion_toList_iff h.version).mpr hversion
      runs := h.runs
      compileTimeout := h.compileTimeout.resolve_left hcompile
      explorerTimeout := h.explorerTimeout.resolve_left hexplorer
      gasLimit := h.gasLimit
      origin := ⟨origin, horigin, hscheme,
        (Network.Origin.hostName_ne_nil_iff horigin).mpr ⟨c, rest, hplace, hc⟩⟩ }

/-- Whatever the environment is, either a value is refused or options are loaded. These lie in their
ranges unless a line feed follows the version, a time to wait is not a number, or the URL has an
authority without a host; even then they lie in them in all other respects. -/
theorem Options.ofEnvironment_inRange_iff (env : Environment) :
    (∃ fault, ofEnvironment env = .error fault ∧ fault.ConcernsValue)
      ∨ ∃ o, ofEnvironment env = .ok o ∧ o.Admitted
        ∧ (o.InRange ↔ o.compiler.solcVersion.toList.getLast? ≠ some '\n'
          ∧ o.compiler.timeout ≠ .binary .nan ∧ o.explorer.timeout ≠ .binary .nan
          ∧ ∃ origin c rest, Network.Origin.ofUrl o.explorer.apiUrl = .ok origin
            ∧ Network.afterUserInfo origin.authority = c :: rest ∧ c ≠ ':') := by
  cases h : ofEnvironment env with
  | error fault => exact .inl ⟨fault, rfl, ofEnvironment_failsWith env fault h⟩
  | ok o =>
    have hadmitted := admitted_of_ofEnvironment h
    exact .inr ⟨o, rfl, hadmitted, hadmitted.inRange_iff⟩

example : (Options.ofEnvironment fun _ => none).map (·.compiler.solcVersion) = .ok "0.8.23" := by
  decide +kernel

/-- A time to wait for the compiler that is not a number is loaded, although it is not in range. -/
theorem Options.nanTimeout_loaded :
    ∃ o, ofEnvironment (fun name => if name = "RSCGEN_COMPILE_TIMEOUT" then some "nan" else none)
        = .ok o
      ∧ o.compiler.timeout = .binary .nan ∧ ¬ o.InRange := by
  have htimeout : (ofEnvironment fun name =>
      if name = "RSCGEN_COMPILE_TIMEOUT" then some "nan" else none).map (·.compiler.timeout)
        = .ok (.binary .nan) := by
    decide +kernel
  obtain ⟨o, ho, hnan⟩ := map_eq_ok.mp htimeout
  refine ⟨o, ho, hnan, fun hr => ?_⟩
  exact Quantity.not_hasValue_nan _ (hnan ▸ hr.compileTimeout)

end Loading

end ReactiveContract
