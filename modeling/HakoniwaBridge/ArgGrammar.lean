import HakoniwaBridge.WebBridgeArgs
import Mathlib.Data.List.TakeWhile
import Mathlib.Data.List.Induction

/-!
# The grammar of the web bridge's command line

`parse_uint64_arg` asks `from_chars` for its error code and not where it stopped, so a numeral
followed by anything else is taken.

* `Denotes` — a value is, as a whole, a decimal numeral of a 64-bit number.
* `InGrammar` — a sequence of options is in the documented grammar.
* `applyAll_ondemandMuxConfigPath`, … — the options that a sequence leaves behind, field by field:
  the last option that sets a field decides.
* `Leads` — a value begins with the digits of a 64-bit number, and so much is behind them.
* `parseArgs_eq_ok` — what `parse_args` accepts.
* `acceptsGrammar_iff` — **it accepts exactly the grammar, and yields the number that the last
  numeral denotes, exactly when the command line is not one in which every step value begins with
  such digits and one of them goes on behind them**.
-/

namespace HakoniwaBridge

variable {fs : FileSystem}

/-- A value is, as a whole, a decimal numeral, and denotes this number. -/
def Denotes (value : String) (n : UInt64) : Prop :=
  value ≠ "" ∧ (∀ c ∈ value.toList, c.isDigit = true) ∧ numberOf value.toList = n.toNat

namespace WebBridgeOption

/-- The mux path that an option sets. -/
def muxPath? : WebBridgeOption → Option String
  | configRoot root => some (makeConfigRootedPath root "monitor/mux_endpoint.json")
  | ondemandMuxConfig path => some path
  | _ => none

/-- The step value of an option. -/
def stepValue? : WebBridgeOption → Option String
  | deltaTimeStepUsec value => some value
  | _ => none

/-- Two options that start the same arguments are the same. -/
theorem render_append_inj {o o' : WebBridgeOption} {rest rest' : List String}
    (h : o.render ++ rest = o'.render ++ rest') : o = o' ∧ rest = rest' := by
  cases o <;> cases o' <;> simp [render, name, value?] at h <;> simp [h]

/-- A command line is read in one way. -/
theorem flatMap_render_injective :
    Function.Injective fun os : List WebBridgeOption => os.flatMap (·.render) := by
  intro os
  induction os with
  | nil =>
    intro os' h
    cases os' with
    | nil => rfl
    | cons o' os' => simp [render] at h
  | cons o os ih =>
    intro os' h
    cases os' with
    | nil => simp [render] at h
    | cons o' os' =>
      obtain ⟨rfl, hrest⟩ := render_append_inj h
      rw [ih hrest]

end WebBridgeOption

open WebBridgeOption

/-- The mux path after a sequence of options: the last one that sets it decides. -/
def finalMuxPath (fs : FileSystem) (os : List WebBridgeOption) : String :=
  (os.reverse.findSome? (·.muxPath?)).getD (initialOptions fs).ondemandMuxConfigPath

/-- A sequence of options is in the documented grammar. -/
structure InGrammar (fs : FileSystem) (os : List WebBridgeOption) : Prop where
  numerals : ∀ value, deltaTimeStepUsec value ∈ os → ∃ n, Denotes value n
  mux : ¬ (enableOndemand ∈ os ∧ finalMuxPath fs os = "")

/-- The step that a sequence of options asks for. -/
def AsksStep (os : List WebBridgeOption) (n : UInt64) : Prop :=
  match os.reverse.findSome? (·.stepValue?) with
  | none => n = 20000
  | some value => Denotes value n

/-- `parse_args` accepts exactly the documented grammar and yields the step that was asked for. -/
structure AcceptsGrammar (fs : FileSystem) (argv : List String) : Prop where
  accepts_iff : (∃ options, parseArgs fs argv = .ok options) ↔
    ∃ os : List WebBridgeOption, argv.drop 1 = os.flatMap (·.render) ∧ InGrammar fs os
  step : ∀ options, parseArgs fs argv = .ok options →
    ∃ os : List WebBridgeOption, argv.drop 1 = os.flatMap (·.render) ∧
      AsksStep os options.deltaTimeStepUsec

/-! ## The fields -/

section fields

variable (os : List WebBridgeOption) (options : WebBridgeDaemonOptions)

theorem applyAll_concat (o : WebBridgeOption) :
    applyAll fs (os ++ [o]) options = o.apply fs (applyAll fs os options) := by
  simp [applyAll]

theorem applyAll_ondemandMuxConfigPath :
    (applyAll fs os options).ondemandMuxConfigPath =
      (os.reverse.findSome? (·.muxPath?)).getD options.ondemandMuxConfigPath := by
  induction os using List.reverseRecOn with
  | nil => rfl
  | append_singleton os o ih =>
    rw [applyAll_concat, List.reverse_append, List.reverse_singleton, List.singleton_append,
      List.findSome?_cons]
    cases o with
    | configRoot root => rfl
    | ondemandMuxConfig path => rfl
    | _ => exact ih

theorem applyAll_enableOndemand :
    (applyAll fs os options).enableOndemand = true ↔
      options.enableOndemand = true ∨ enableOndemand ∈ os := by
  induction os using List.reverseRecOn with
  | nil => simp [applyAll]
  | append_singleton os o ih =>
    rw [applyAll_concat, List.mem_append, ← or_assoc, ← ih, List.mem_singleton]
    cases o <;> simp [WebBridgeOption.apply, applyConfigRoot]

/-- The step, where every step value is taken. -/
theorem applyAll_deltaTimeStepUsec (herror : ∀ o ∈ os, o.error? = none) :
    (os.reverse.findSome? (·.stepValue?)).elim
      ((applyAll fs os options).deltaTimeStepUsec = options.deltaTimeStepUsec)
      fun value => parseUint64Arg value = some (applyAll fs os options).deltaTimeStepUsec := by
  induction os using List.reverseRecOn with
  | nil => rfl
  | append_singleton os o ih =>
    rw [List.forall_mem_append, List.forall_mem_singleton] at herror
    have hos := ih herror.1
    rw [applyAll_concat, List.reverse_append, List.reverse_singleton, List.singleton_append,
      List.findSome?_cons]
    cases o with
    | deltaTimeStepUsec value =>
      have htaken : parseUint64Arg value ≠ none := by
        intro hnone
        simp [error?, hnone] at herror
      obtain ⟨n, hn⟩ := Option.ne_none_iff_exists'.1 htaken
      simp [stepValue?, WebBridgeOption.apply, hn]
    | _ => exact hos

end fields

/-! ## Numerals -/

/-- A value that is taken and is digits only is a numeral of the number taken. -/
theorem denotes_of_parseUint64Arg {value : String} {n : UInt64}
    (hparse : parseUint64Arg value = some n) (hdigits : ∀ c ∈ value.toList, c.isDigit = true) :
    Denotes value n := by
  have hall : value.toList.takeWhile Char.isDigit = value.toList :=
    List.takeWhile_eq_self_iff.2 hdigits
  unfold parseUint64Arg fromChars at hparse
  rw [hall] at hparse
  dsimp only at hparse
  split at hparse
  · cases hparse
  · next hne =>
    split at hparse
    · next hlt =>
      refine ⟨fun hempty => hne (by simp [hempty]), hdigits, ?_⟩
      obtain rfl : UInt64.ofNat (numberOf value.toList) = n := by simpa using hparse
      exact (Nat.mod_eq_of_lt hlt).symm
    · cases hparse

/-- A value begins with digits, at least one and no more than these, of a number below `2 ^ 64`, and
goes on with `rest`. -/
structure Leads (value : String) (digits rest : List Char) : Prop where
  parts : value.toList = digits ++ rest
  some_digit : digits ≠ []
  isDigit : ∀ c ∈ digits, c.isDigit = true
  last_digit : ∀ c ∈ rest.head?, c.isDigit = false
  fits : numberOf digits < 2 ^ 64

/-- The digits are all that `from_chars` reads. -/
theorem Leads.takeWhile {value : String} {digits rest : List Char} (h : Leads value digits rest) :
    value.toList.takeWhile Char.isDigit = digits := by
  have hrest : rest.takeWhile Char.isDigit = [] := by
    cases rest with
    | nil => rfl
    | cons c rest => rw [List.takeWhile_cons, h.last_digit c rfl, if_neg Bool.false_ne_true]
  rw [h.parts, List.takeWhile_append_of_pos h.isDigit, hrest, List.append_nil]

/-- A value is taken iff it begins so. -/
theorem exists_leads_iff {value : String} :
    (∃ digits rest, Leads value digits rest) ↔ parseUint64Arg value ≠ none := by
  unfold parseUint64Arg fromChars
  constructor
  · rintro ⟨digits, rest, h⟩
    dsimp only
    rw [h.takeWhile, if_neg h.some_digit, if_pos h.fits]
    exact Option.some_ne_none _
  · intro htaken
    dsimp only at htaken
    split_ifs at htaken with hnil hfits
    · exact absurd rfl htaken
    · refine ⟨_, _, List.takeWhile_append_dropWhile.symm, hnil, ?_, ?_, hfits⟩
      · exact fun c hc => List.mem_takeWhile_imp hc
      · intro c hc
        have hhead := List.head?_dropWhile_not Char.isDigit value.toList
        rw [Option.mem_def.1 hc] at hhead
        simpa using hhead
    · exact absurd rfl htaken

/-- A numeral is taken. -/
theorem parseUint64Arg_of_denotes {value : String} {n : UInt64} (h : Denotes value n) :
    parseUint64Arg value = some n := by
  obtain ⟨hne, hdigits, hnumber⟩ := h
  have hall : value.toList.takeWhile Char.isDigit = value.toList :=
    List.takeWhile_eq_self_iff.2 hdigits
  have hnil : value.toList ≠ [] := fun hnil => hne (String.toList_inj.1 (by simpa using hnil))
  unfold parseUint64Arg fromChars
  rw [hall, if_neg hnil, hnumber, if_pos n.toNat_lt]
  simp

/-- No error is found in a sequence of options iff every step value is taken. -/
theorem error_eq_none_iff (os : List WebBridgeOption) :
    (∀ o ∈ os, o.error? = none) ↔
      ∀ value, deltaTimeStepUsec value ∈ os → parseUint64Arg value ≠ none := by
  constructor
  · intro h value hmem hnone
    simpa [error?, hnone] using h _ hmem
  · intro h o hmem
    cases o with
    | deltaTimeStepUsec value => exact if_neg (h value hmem)
    | _ => rfl

/-! ## What is accepted -/

/-- **What `parse_args` accepts**: a sequence of options whose step values are taken, and that does
not combine `--enable-ondemand` with an empty final mux path. -/
theorem parseArgs_eq_ok {argv : List String} {options : WebBridgeDaemonOptions} :
    parseArgs fs argv = .ok options ↔
      ∃ os : List WebBridgeOption, argv.drop 1 = os.flatMap (·.render) ∧
        (∀ o ∈ os, o.error? = none) ∧ ¬ (enableOndemand ∈ os ∧ finalMuxPath fs os = "") ∧
        applyAll fs os (initialOptions fs) = options := by
  have hcheck : ∀ os, checkOptions (applyAll fs os (initialOptions fs)) = .ok options ↔
      ¬ (enableOndemand ∈ os ∧ finalMuxPath fs os = "") ∧
        applyAll fs os (initialOptions fs) = options := by
    intro os
    have hmux : (applyAll fs os (initialOptions fs)).ondemandMuxConfigPath = finalMuxPath fs os :=
      applyAll_ondemandMuxConfigPath os _
    have henable : (applyAll fs os (initialOptions fs)).enableOndemand = true ↔
        enableOndemand ∈ os := by
      rw [applyAll_enableOndemand]
      exact or_iff_right Bool.false_ne_true
    unfold checkOptions
    split
    · next hempty => simp [← henable, ← hmux, hempty]
    · next hempty =>
      rw [henable, hmux] at hempty
      simp [hempty]
  constructor
  · intro hok
    obtain ⟨os, hargs⟩ := exists_render_of_parseArgsFrom hok
    refine ⟨os, hargs, ?_⟩
    rw [parseArgs, hargs, parseArgsFrom_flatMap_render] at hok
    split at hok
    · cases hok
    · next herror => exact ⟨List.findSome?_eq_none_iff.1 herror, (hcheck os).1 hok⟩
  · rintro ⟨os, hargs, herror, hrest⟩
    rw [parseArgs, hargs, parseArgsFrom_flatMap_render, List.findSome?_eq_none_iff.2 herror]
    exact (hcheck os).2 hrest

/-- A command line of documented options, without `--enable-ondemand` on an empty path, in which
every step value begins with the digits of a 64-bit number, and something is behind these digits in
one of them. -/
structure GoesOn (fs : FileSystem) (os : List WebBridgeOption) : Prop where
  leads : ∀ value, deltaTimeStepUsec value ∈ os → ∃ digits rest, Leads value digits rest
  mux : ¬ (enableOndemand ∈ os ∧ finalMuxPath fs os = "")
  behind : ∃ value, deltaTimeStepUsec value ∈ os ∧
    ∃ digits rest, Leads value digits rest ∧ rest ≠ []

/-- **The grammar.** `parse_args` accepts exactly the documented grammar, and yields the number
that the last step value denotes, if and only if the arguments are not those of a command line in
which a step value goes on behind its digits. -/
theorem acceptsGrammar_iff (fs : FileSystem) (argv : List String) :
    AcceptsGrammar fs argv ↔
      ¬ ∃ os : List WebBridgeOption, argv.drop 1 = os.flatMap (·.render) ∧ GoesOn fs os := by
  constructor
  · rintro ⟨haccepts, -⟩ ⟨os, hargs, hleads, hmux, value, hmem, digits, rest, hlead, hrest⟩
    have htaken : ∀ value, deltaTimeStepUsec value ∈ os → parseUint64Arg value ≠ none :=
      fun value hmem => exists_leads_iff.1 (hleads value hmem)
    have hok := parseArgs_eq_ok.2 ⟨os, hargs, (error_eq_none_iff os).2 htaken, hmux, rfl⟩
    obtain ⟨os', hargs', hgrammar⟩ := haccepts.1 ⟨_, hok⟩
    obtain rfl := flatMap_render_injective (hargs.symm.trans hargs')
    obtain ⟨n, -, hdigits, -⟩ := hgrammar.numerals value hmem
    -- the value is no numeral, since the character behind its digits is none
    obtain ⟨c, rest', rfl⟩ := List.exists_cons_of_ne_nil hrest
    have hdigit := hdigits c (by rw [hlead.parts]; simp)
    rw [hlead.last_digit c rfl] at hdigit
    exact Bool.false_ne_true hdigit
  · intro hnot
    have hdigits : ∀ os : List WebBridgeOption, argv.drop 1 = os.flatMap (·.render) →
        (∀ value, deltaTimeStepUsec value ∈ os → parseUint64Arg value ≠ none) →
        ¬ (enableOndemand ∈ os ∧ finalMuxPath fs os = "") →
        ∀ value, deltaTimeStepUsec value ∈ os → ∀ c ∈ value.toList, c.isDigit = true := by
      intro os hargs htaken hmux value hmem c hc
      obtain ⟨digits, rest, hlead⟩ := exists_leads_iff.2 (htaken value hmem)
      cases rest with
      | nil =>
        rw [hlead.parts, List.append_nil] at hc
        exact hlead.isDigit c hc
      | cons c' rest =>
        refine absurd ⟨os, hargs, fun value hmem => exists_leads_iff.2 (htaken value hmem), hmux,
          value, hmem, digits, _, hlead, List.cons_ne_nil c' rest⟩ hnot
    have hread : ∀ options, parseArgs fs argv = .ok options →
        ∃ os : List WebBridgeOption, argv.drop 1 = os.flatMap (·.render) ∧ InGrammar fs os ∧
          AsksStep os options.deltaTimeStepUsec := by
      intro options hok
      obtain ⟨os, hargs, herror, hmux, rfl⟩ := parseArgs_eq_ok.1 hok
      have htaken := (error_eq_none_iff os).1 herror
      have hdenotes : ∀ value n, deltaTimeStepUsec value ∈ os → parseUint64Arg value = some n →
          Denotes value n := fun value n hmem hparse =>
        denotes_of_parseUint64Arg hparse (hdigits os hargs htaken hmux value hmem)
      refine ⟨os, hargs, ⟨fun value hmem => ?_, hmux⟩, ?_⟩
      · obtain ⟨n, hn⟩ := Option.ne_none_iff_exists'.1 (htaken value hmem)
        exact ⟨n, hdenotes value n hmem hn⟩
      · have hstep := @applyAll_deltaTimeStepUsec fs os (initialOptions fs) herror
        unfold AsksStep
        cases hlast : os.reverse.findSome? (·.stepValue?) with
        | none =>
          rw [hlast] at hstep
          exact hstep
        | some value =>
          obtain ⟨o, hmem, ho⟩ := List.exists_of_findSome?_eq_some hlast
          obtain rfl : o = deltaTimeStepUsec value := by
            cases o <;> simp_all [stepValue?]
          rw [hlast] at hstep
          exact hdenotes value _ (List.mem_reverse.1 hmem) hstep
    refine ⟨⟨?_, ?_⟩, fun options hok => ?_⟩
    · rintro ⟨options, hok⟩
      obtain ⟨os, hargs, hgrammar, -⟩ := hread options hok
      exact ⟨os, hargs, hgrammar⟩
    · rintro ⟨os, hargs, hgrammar⟩
      refine ⟨_, parseArgs_eq_ok.2 ⟨os, hargs, (error_eq_none_iff os).2 fun value hmem => ?_,
        hgrammar.mux, rfl⟩⟩
      obtain ⟨n, hn⟩ := hgrammar.numerals value hmem
      rw [parseUint64Arg_of_denotes hn]
      exact Option.some_ne_none n
    · obtain ⟨os, hargs, -, hstep⟩ := hread options hok
      exact ⟨os, hargs, hstep⟩

/-- A file system without any file. -/
def FileSystem.bare : FileSystem where
  currentPath := "/"
  «exists» _ := false
  isDirectory _ := false
  regularFiles _ := []

/-- The step `20ms` is accepted, as 20 microseconds. -/
theorem prefix_accepted :
    (∃ options, parseArgs .bare ["web_bridge", "--delta-time-step-usec", "20ms"] = .ok options ∧
      options.deltaTimeStepUsec = 20) ∧
    ¬ AcceptsGrammar .bare ["web_bridge", "--delta-time-step-usec", "20ms"] := by
  have hok : parseArgs .bare ["web_bridge", "--delta-time-step-usec", "20ms"] =
      .ok { initialOptions .bare with deltaTimeStepUsec := 20 } := rfl
  refine ⟨⟨_, hok, rfl⟩, fun hgrammar => ?_⟩
  obtain ⟨os, hargs, hin⟩ := hgrammar.accepts_iff.1 ⟨_, hok⟩
  obtain rfl := @flatMap_render_injective [deltaTimeStepUsec "20ms"] os hargs
  obtain ⟨n, -, hdigits, -⟩ := hin.numerals "20ms" List.mem_cons_self
  exact absurd (hdigits 'm' (by decide)) (by decide)

end HakoniwaBridge
