import ImpLang.Options
import ImpLang.Proofs.NumeralForm
import Mathlib.Data.List.Basic

/-!
# Reading the options of a run

An argument is admissible by its own form, whatever stands before it (`RunOptions.Admissible`), and
one that is not is refused for a reason of its own (`RunOptions.Refused`). What a list asks for is
settled by what occurs in it (`RunOptions.AsksFor`): the final store is shown if any argument asks
for it, and of several limits the last one holds.

Options form a monoid under `RunOptions.override`. An argument acts on the options before it by what
it asks for alone, so to read a list after another is to override what the first one asks for.
-/

namespace ImpLang.RunOptions

/-- `SetsLimit argument n`: the argument asks for no more than `n` rounds of a loop. -/
def SetsLimit (argument : String) (n : Nat) : Prop :=
  ∃ text, argument = limitFlag ++ text ∧ Numeral.Counts text.toList n ∧ n ≤ Numeral.unsignedMax

/-- The arguments that are options. -/
def Admissible (argument : String) : Prop :=
  argument = dumpFlag ∨ ∃ n, SetsLimit argument n

/-- `Refused argument refusal`: why the argument is no option. -/
inductive Refused (argument : String) : Refusal → Prop
  | unknown (notDump : argument ≠ dumpFlag) (notLimit : ∀ text, argument ≠ limitFlag ++ text) :
      Refused argument (.unknown argument)
  | invalidLimit {text : String} {defect : Numeral.Defect} (start : argument = limitFlag ++ text)
      (beyond : ∀ n, Numeral.Counts text.toList n → Numeral.unsignedMax < n)
      (defective : Numeral.unsigned text = .error defect) :
      Refused argument (.invalidLimit text defect)

/-- `LastLimit arguments limit`: the limit that the last of the arguments with one asks for. -/
def LastLimit (arguments : List String) : Option UInt64 → Prop
  | none => ∀ argument ∈ arguments, ∀ n, ¬SetsLimit argument n
  | some most => ∃ before argument after, arguments = before ++ argument :: after ∧
      SetsLimit argument most.toNat ∧ ∀ later ∈ after, ∀ n, ¬SetsLimit later n

/-- What a list of options asks for. -/
structure AsksFor (arguments : List String) (options : RunOptions) : Prop where
  admissible : ∀ argument ∈ arguments, Admissible argument
  dumps : options.dumpState = true ↔ dumpFlag ∈ arguments
  limit : LastLimit arguments options.maxIterations

/-- `FirstRefused arguments refusal`: why the first of the arguments that is no option is none. -/
def FirstRefused (arguments : List String) (refusal : Refusal) : Prop :=
  ∃ before argument after, arguments = before ++ argument :: after ∧
    (∀ earlier ∈ before, Admissible earlier) ∧ Refused argument refusal

/-- These options, but for the settings that later ones make. -/
def override (options later : RunOptions) : RunOptions where
  dumpState := options.dumpState || later.dumpState
  maxIterations := later.maxIterations.or options.maxIterations

/-! ## One argument

Every argument is the flag for the final store, begins like a limit, or does neither.
-/

variable {options : RunOptions} {argument text : String} {refusal : Refusal} {n : Nat}

theorem dumpFlag_ne_limit (text : String) : dumpFlag ≠ limitFlag ++ text := by
  intro same
  have chars := congrArg String.toList same
  simp [dumpFlag, limitFlag] at chars

theorem SetsLimit.ne_dumpFlag (sets : SetsLimit argument n) : argument ≠ dumpFlag := by
  obtain ⟨text, rfl, -⟩ := sets
  exact (dumpFlag_ne_limit text).symm

theorem add_dumpFlag (options : RunOptions) :
    options.add dumpFlag = .ok { options with dumpState := true } := by
  simp [add]

theorem limit_isPrefixOf? (text : String) :
    limitFlag.toList.isPrefixOf? (limitFlag ++ text).toList = some text.toList := by
  rw [List.isPrefixOf?_eq_some_iff_append_eq, String.toList_append]

theorem add_limit {most : UInt64} (options : RunOptions) (read : Numeral.unsigned text = .ok most) :
    options.add (limitFlag ++ text) = .ok { options with maxIterations := some most } := by
  rw [add, if_neg (dumpFlag_ne_limit text).symm, limit_isPrefixOf?]
  simp only [String.ofList_toList, read]

theorem add_invalidLimit {defect : Numeral.Defect} (options : RunOptions)
    (read : Numeral.unsigned text = .error defect) :
    options.add (limitFlag ++ text) = .error (.invalidLimit text defect) := by
  rw [add, if_neg (dumpFlag_ne_limit text).symm, limit_isPrefixOf?]
  simp only [String.ofList_toList, read]

theorem add_unknown (options : RunOptions) (notDump : argument ≠ dumpFlag)
    (notLimit : ∀ text, argument ≠ limitFlag ++ text) :
    options.add argument = .error (.unknown argument) := by
  have rest : limitFlag.toList.isPrefixOf? argument.toList = none := by
    rw [Option.eq_none_iff_forall_ne_some]
    intro rest found
    rw [List.isPrefixOf?_eq_some_iff_append_eq] at found
    apply notLimit (String.ofList rest)
    rw [← String.toList_inj, String.toList_append, String.toList_ofList, found]
  rw [add, if_neg notDump, rest]

/-- An argument that begins like a limit sets the number that is read from the rest of it. -/
theorem setsLimit_toNat_iff {most : UInt64} :
    SetsLimit (limitFlag ++ text) most.toNat ↔ Numeral.unsigned text = .ok most := by
  rw [Numeral.unsigned_eq_ok_iff]
  constructor
  · intro sets
    obtain ⟨other, same, counts, _⟩ := sets
    rw [String.append_right_inj] at same
    rwa [same]
  · intro counts
    have bound := most.toNat_lt
    exact ⟨text, rfl, counts, by unfold Numeral.unsignedMax; omega⟩

theorem SetsLimit.exists_toNat (sets : SetsLimit argument n) : ∃ most : UInt64, most.toNat = n := by
  obtain ⟨_, -, -, within⟩ := sets
  unfold Numeral.unsignedMax at within
  exact ⟨UInt64.ofNat n, by rw [UInt64.toNat_ofNat']; omega⟩

theorem SetsLimit.add_eq {most : UInt64} (sets : SetsLimit argument most.toNat)
    (options : RunOptions) :
    options.add argument = .ok { options with maxIterations := some most } := by
  obtain ⟨text, rfl, -⟩ := id sets
  exact add_limit options (setsLimit_toNat_iff.mp sets)

/-- What one more argument does to the options. -/
theorem add_cases (options : RunOptions) (argument : String) :
    (argument = dumpFlag ∧ options.add argument = .ok { options with dumpState := true }) ∨
    (∃ most : UInt64, SetsLimit argument most.toNat ∧
      options.add argument = .ok { options with maxIterations := some most }) ∨
    (∃ refusal, Refused argument refusal ∧ options.add argument = .error refusal) := by
  -- No limit begins like the flag, so it does not matter that the flag is looked for first.
  by_cases isDump : argument = dumpFlag
  · exact Or.inl ⟨isDump, isDump ▸ add_dumpFlag options⟩
  by_cases isLimit : ∃ text, argument = limitFlag ++ text
  · obtain ⟨text, rfl⟩ := isLimit
    cases read : Numeral.unsigned text with
    | ok most =>
      exact Or.inr (Or.inl ⟨most, setsLimit_toNat_iff.mpr read, add_limit options read⟩)
    | error defect =>
      have beyond : ∀ n, Numeral.Counts text.toList n → Numeral.unsignedMax < n := by
        intro n counts
        by_contra within
        have sets : SetsLimit (limitFlag ++ text) n := ⟨text, rfl, counts, by omega⟩
        obtain ⟨most, rfl⟩ := sets.exists_toNat
        rw [setsLimit_toNat_iff.mp sets] at read
        cases read
      exact Or.inr (Or.inr ⟨_, .invalidLimit rfl beyond read, add_invalidLimit options read⟩)
  · have notLimit : ∀ text, argument ≠ limitFlag ++ text := not_exists.mp isLimit
    exact Or.inr (Or.inr ⟨_, .unknown isDump notLimit, add_unknown options isDump notLimit⟩)

theorem add_of_admissible (options : RunOptions) (admissible : Admissible argument) :
    ∃ next, options.add argument = .ok next := by
  obtain rfl | ⟨n, sets⟩ := admissible
  · exact ⟨_, add_dumpFlag options⟩
  · obtain ⟨most, rfl⟩ := sets.exists_toNat
    exact ⟨_, sets.add_eq options⟩

theorem add_eq_error_iff (options : RunOptions) :
    options.add argument = .error refusal ↔ Refused argument refusal := by
  constructor
  · intro added
    obtain ⟨-, other⟩ | ⟨_, -, other⟩ | ⟨_, refused, other⟩ := add_cases options argument
    · cases added.symm.trans other
    · cases added.symm.trans other
    · cases added.symm.trans other
      exact refused
  · intro refused
    cases refused with
    | unknown notDump notLimit => exact add_unknown options notDump notLimit
    | invalidLimit start beyond defective => rw [start, add_invalidLimit options defective]

theorem admissible_of_add {next : RunOptions} (added : options.add argument = .ok next) :
    Admissible argument := by
  obtain ⟨isDump, -⟩ | ⟨most, sets, -⟩ | ⟨_, -, other⟩ := add_cases options argument
  · exact Or.inl isDump
  · exact Or.inr ⟨most.toNat, sets⟩
  · cases added.symm.trans other

theorem Refused.not_admissible (refused : Refused argument refusal) : ¬Admissible argument := by
  intro admissible
  obtain ⟨next, added⟩ := add_of_admissible {} admissible
  cases added.symm.trans ((add_eq_error_iff {}).mpr refused)

/-- A refusal quotes the argument, or what stands in it for the limit. -/
theorem Refused.message_eq (refused : Refused argument refusal) :
    refusal.message = "unknown option '" ++ argument ++ "'" ∨
    ∃ text defect, argument = "--max-iterations=" ++ text ∧
      refusal.message =
        "invalid --max-iterations value '" ++ text ++ "': " ++ Numeral.Defect.message defect := by
  cases refused with
  | unknown => exact Or.inl rfl
  | invalidLimit start => exact Or.inr ⟨_, _, start, rfl⟩

/-! ## A list of arguments -/

variable {arguments : List String}

theorem LastLimit.keep {limit : Option UInt64} (last : LastLimit arguments limit)
    (sets : ∀ n, ¬SetsLimit argument n) : LastLimit (arguments ++ [argument]) limit := by
  cases limit with
  | none =>
    unfold LastLimit at last ⊢
    exact List.forall_mem_append.mpr ⟨last, List.forall_mem_singleton.mpr sets⟩
  | some most =>
    obtain ⟨before, setter, after, rfl, setsMost, none⟩ := last
    exact ⟨before, setter, after ++ [argument], by simp, setsMost,
      List.forall_mem_append.mpr ⟨none, List.forall_mem_singleton.mpr sets⟩⟩

theorem LastLimit.replace {most : UInt64} (sets : SetsLimit argument most.toNat) :
    LastLimit (arguments ++ [argument]) (some most) :=
  ⟨arguments, argument, [], rfl, sets, by simp⟩

theorem asksFor_nil : AsksFor [] {} := by
  constructor
  · simp
  · simp
  · simp [LastLimit]

/-- One more argument changes what the list asks for as it changes the options. -/
theorem AsksFor.add {next : RunOptions} (asks : AsksFor arguments options)
    (added : options.add argument = .ok next) : AsksFor (arguments ++ [argument]) next := by
  have admissible : ∀ listed ∈ arguments ++ [argument], Admissible listed :=
    List.forall_mem_append.mpr
      ⟨asks.admissible, List.forall_mem_singleton.mpr (admissible_of_add added)⟩
  obtain ⟨isDump, other⟩ | ⟨most, sets, other⟩ | ⟨_, -, other⟩ := add_cases options argument
  · cases added.symm.trans other
    constructor
    · exact admissible
    · simp [isDump]
    · apply asks.limit.keep
      intro n sets
      exact sets.ne_dumpFlag isDump
  · cases added.symm.trans other
    constructor
    · exact admissible
    · simpa [sets.ne_dumpFlag.symm] using asks.dumps
    · exact LastLimit.replace sets
  · cases added.symm.trans other

/-- Arguments read after others change what the whole list asks for, one by one. -/
theorem AsksFor.foldlM {rest : List String} {result : RunOptions} (asks : AsksFor arguments options)
    (taken : rest.foldlM RunOptions.add options = .ok result) :
    AsksFor (arguments ++ rest) result := by
  induction rest generalizing arguments options with
  | nil =>
    cases taken
    rwa [List.append_nil]
  | cons argument rest ih =>
    rw [List.foldlM_cons] at taken
    cases added : options.add argument with
    | ok next =>
      rw [added] at taken
      rw [List.append_cons]
      exact ih (asks.add added) taken
    | error refusal =>
      rw [added] at taken
      cases taken

theorem asksFor_of_parse (parsed : parse arguments = .ok options) : AsksFor arguments options :=
  asksFor_nil.foldlM parsed

theorem foldlM_add_of_admissible (options : RunOptions)
    (admissible : ∀ argument ∈ arguments, Admissible argument) :
    ∃ result, arguments.foldlM add options = .ok result := by
  induction arguments generalizing options with
  | nil => exact ⟨options, rfl⟩
  | cons argument rest ih =>
    rw [List.forall_mem_cons] at admissible
    obtain ⟨next, added⟩ := add_of_admissible options admissible.1
    rw [List.foldlM_cons, added]
    exact ih next admissible.2

theorem foldlM_add_eq_error_iff (options : RunOptions) :
    arguments.foldlM add options = .error refusal ↔ FirstRefused arguments refusal := by
  constructor
  · intro failed
    induction arguments generalizing options with
    | nil => cases failed
    | cons argument rest ih =>
      rw [List.foldlM_cons] at failed
      cases added : options.add argument with
      | ok next =>
        rw [added] at failed
        obtain ⟨before, refused, after, rfl, earlier, reason⟩ := ih next failed
        have admissible := admissible_of_add added
        exact ⟨argument :: before, refused, after, rfl,
          List.forall_mem_cons.mpr ⟨admissible, earlier⟩, reason⟩
      | error other =>
        rw [added] at failed
        cases failed
        exact ⟨[], argument, rest, rfl, by simp, (add_eq_error_iff options).mp added⟩
  · intro first
    obtain ⟨before, argument, after, rfl, earlier, refused⟩ := first
    -- What comes before is taken; the refusal does not depend on the options this leads to.
    obtain ⟨next, taken⟩ := foldlM_add_of_admissible options earlier
    have stopped := (add_eq_error_iff next).mpr refused
    rw [List.foldlM_append, taken]
    show (argument :: after).foldlM RunOptions.add next = _
    rw [List.foldlM_cons, stopped]
    rfl

theorem exists_parse_iff :
    (∃ options, parse arguments = .ok options) ↔ ∀ argument ∈ arguments, Admissible argument := by
  constructor
  · intro ⟨options, parsed⟩
    exact (asksFor_of_parse parsed).admissible
  · exact foldlM_add_of_admissible {}

/-! ## One list after another -/

theorem override_empty (options : RunOptions) : options.override {} = options := by
  simp [override]

theorem override_assoc (options later last : RunOptions) :
    (options.override later).override last = options.override (later.override last) := by
  simp [override, Bool.or_assoc, Option.or_assoc]

/-- An argument acts on the options before it by what it asks for on its own. -/
theorem add_eq_map_override (options : RunOptions) (argument : String) :
    options.add argument = (add {} argument).map options.override := by
  obtain ⟨rfl, added⟩ | ⟨most, sets, added⟩ | ⟨refusal, refused, added⟩ := add_cases {} argument
  · rw [added, add_dumpFlag]
    simp [Except.map, override]
  · rw [added, sets.add_eq]
    simp [Except.map, override]
  · rw [added, (add_eq_error_iff options).mpr refused]
    rfl

theorem foldlM_add (options : RunOptions) (arguments : List String) :
    arguments.foldlM add options = (parse arguments).map options.override := by
  unfold parse
  induction arguments generalizing options with
  | nil => exact congrArg Except.ok options.override_empty.symm
  | cons argument rest ih =>
    rw [List.foldlM_cons, List.foldlM_cons, add_eq_map_override]
    cases add {} argument with
    | error refusal => rfl
    | ok first =>
      show rest.foldlM add (options.override first) = (rest.foldlM add first).map options.override
      rw [ih (options.override first), ih first]
      cases rest.foldlM add {} with
      | error refusal => rfl
      | ok later => exact congrArg Except.ok (override_assoc options first later)

theorem parse_append (arguments more : List String) :
    parse (arguments ++ more) =
      parse arguments >>= fun options => (parse more).map options.override := by
  unfold parse
  rw [List.foldlM_append]
  congr
  funext options
  exact foldlM_add options more

/-- A list of arguments is read exactly if each of them is an option. The options are then those
that the list asks for, and otherwise the refusal is that of the first argument that is no option.
Of two lists one after the other the settings of the second take precedence. -/
theorem parse_takes_last_settings (arguments : List String) :
    ((∃ options, parse arguments = .ok options) ↔
      ∀ argument ∈ arguments, Admissible argument) ∧
    (∀ options, parse arguments = .ok options →
      (options.dumpState = true ↔ dumpFlag ∈ arguments) ∧
      LastLimit arguments options.maxIterations) ∧
    (∀ refusal, parse arguments = .error refusal ↔ FirstRefused arguments refusal) ∧
    (∀ argument refusal, Refused argument refusal → ¬Admissible argument ∧
      (refusal.message = "unknown option '" ++ argument ++ "'" ∨
        ∃ text defect, argument = "--max-iterations=" ++ text ∧
          refusal.message =
            "invalid --max-iterations value '" ++ text ++ "': " ++ Numeral.Defect.message defect)) ∧
    ∀ more : List String,
      ((∃ options, parse (arguments ++ more) = .ok options) ↔
        (∃ first, parse arguments = .ok first) ∧ ∃ later, parse more = .ok later) ∧
      ∀ first later, parse arguments = .ok first → parse more = .ok later →
        parse (arguments ++ more) = .ok (first.override later) := by
  constructor
  · exact exists_parse_iff
  constructor
  · intro options parsed
    have asks := asksFor_of_parse parsed
    exact ⟨asks.dumps, asks.limit⟩
  constructor
  · intro refusal
    exact foldlM_add_eq_error_iff {}
  constructor
  · intro argument refusal refused
    exact ⟨refused.not_admissible, refused.message_eq⟩
  intro more
  constructor
  · rw [exists_parse_iff, exists_parse_iff, exists_parse_iff]
    exact List.forall_mem_append
  · intro first later parsed parsedMore
    rw [parse_append, parsed, parsedMore]
    rfl

example : parse ["--max-iterations=3", "--dump-state", "--max-iterations=+07"] =
    .ok { dumpState := true, maxIterations := some 7 } := by
  decide +kernel

end ImpLang.RunOptions
