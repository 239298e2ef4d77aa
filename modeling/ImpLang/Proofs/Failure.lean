import ImpLang.Proofs.Lifting

/-!
# Where failures come from

A failure comes from values, from the limit on rounds or from the end of the input. Evaluation knows
only the first of these: an operator fails of its operands, a variable for want of a value. So if a
run reports an excess of rounds, it is over the limit that was set, and if it reports the end of its
input, there is no line left (`exec_justified`).
-/

namespace ImpLang

/-- The faults that values are behind, or the lack of one. -/
def Fault.OfValues : Fault → Prop
  | .unbound _ | .mismatch .. | .divisionByZero _ | .overflow _ => True
  | .inputClosed _ | .budgetExceeded _ => False

/-! ## Operators -/

theorem ArithOp.apply_eq_error {op : ArithOp} {a b : Int64} {fault : Fault}
    (failed : op.apply a b = .error fault) :
    ((op = .div ∨ op = .mod) ∧ fault = .divisionByZero (.arith op)) ∨ fault = .overflow op := by
  unfold ArithOp.apply at failed
  split at failed
  next zero =>
    cases failed
    refine Or.inl ⟨?_, rfl⟩
    cases op <;> simp [ArithOp.divides] at zero ⊢
  next =>
    split at failed
    · cases failed
    · cases failed
      exact Or.inr rfl

/-- An operator fails of a divisor, of the size of its result, or of an operand that is not of the
kind it takes. -/
theorem BinaryOp.apply_eq_error {op : BinaryOp} {left right : Value} {fault : Fault}
    (failed : op.apply left right = .error fault) :
    (∃ arith, op = .arith arith ∧
      (((arith = .div ∨ arith = .mod) ∧ fault = .divisionByZero (.arith arith)) ∨
        fault = .overflow arith)) ∨
    ∃ got, got ≠ op.operandKind ∧ fault = .mismatch (.operator op) op.operandKind got := by
  unfold BinaryOp.apply at failed
  split at failed
  next arith a b =>
    cases result : arith.apply a b with
    | error cause =>
      rw [result] at failed
      cases failed
      exact Or.inl ⟨arith, rfl, ArithOp.apply_eq_error result⟩
    | ok value =>
      rw [result] at failed
      cases failed
  next => cases failed
  next => cases failed
  next notArith notCompare notAnd =>
    cases failed
    refine Or.inr ⟨_, ?_, rfl⟩
    -- Were both operands of the kind, one of the other cases would apply.
    split
    next leftKind =>
      intro rightKind
      cases op with
      | arith op =>
        cases left <;> cases right <;> simp [Value.kind, BinaryOp.operandKind] at leftKind rightKind
        exact notArith _ _ _ rfl rfl rfl
      | compare op =>
        cases left <;> cases right <;> simp [Value.kind, BinaryOp.operandKind] at leftKind rightKind
        exact notCompare _ _ _ rfl rfl rfl
      | and =>
        cases left <;> cases right <;> simp [Value.kind, BinaryOp.operandKind] at leftKind rightKind
        exact notAnd _ _ rfl rfl rfl
    next leftKind => exact leftKind

theorem Value.expectInt_eq_error {site : Site} {value : Value} {fault : Fault}
    (failed : value.expectInt site = .error fault) : fault = .mismatch site .int .bool := by
  cases value <;> cases failed
  rfl

theorem Value.expectBool_eq_error {site : Site} {value : Value} {fault : Fault}
    (failed : value.expectBool site = .error fault) : fault = .mismatch site .bool .int := by
  cases value <;> cases failed
  rfl

/-! ## Results -/

/-- A result that does not fail, or of values only. -/
def Valued {α : Type} (result : Except Fault α) : Prop :=
  ∀ fault, result = .error fault → fault.OfValues

theorem Valued.ok {α : Type} (value : α) : Valued (.ok value : Except Fault α) :=
  fun _ failed => nomatch failed

theorem Valued.bind {α β : Type} {first : Except Fault α} {next : α → Except Fault β}
    (begins : Valued first) (rest : ∀ value, Valued (next value)) : Valued (first >>= next) := by
  intro fault failed
  rcases bind_eq_error.mp failed with early | ⟨value, _, late⟩
  · exact begins fault early
  · exact rest value fault late

theorem Store.lookup_valued (store : Store) (name : Name) : Valued (store.lookup name) := by
  intro fault failed
  rw [(Store.lookup_eq_error_iff.mp failed).2]
  trivial

theorem ArithOp.apply_valued (op : ArithOp) (a b : Int64) : Valued (op.apply a b) := by
  intro fault failed
  rcases apply_eq_error failed with ⟨_, rfl⟩ | rfl <;> trivial

theorem BinaryOp.apply_valued (op : BinaryOp) (left right : Value) :
    Valued (op.apply left right) := by
  intro fault failed
  rcases apply_eq_error failed with ⟨_, _, ⟨_, rfl⟩ | rfl⟩ | ⟨_, _, rfl⟩ <;> trivial

theorem Value.expectInt_valued (site : Site) (value : Value) : Valued (value.expectInt site) := by
  intro fault failed
  rw [expectInt_eq_error failed]
  trivial

theorem Value.expectBool_valued (site : Site) (value : Value) :
    Valued (value.expectBool site) := by
  intro fault failed
  rw [expectBool_eq_error failed]
  trivial

namespace Expr

theorem eval_valued (store : Store) (e : Expr) : Valued (e.eval store) := by
  induction e with
  | lit value => exact .ok value
  | var name =>
    cases found : store.lookup name with
    | ok n =>
      rw [eval_var_of_ok found]
      exact .ok _
    | error cause =>
      rw [eval_var_of_error found]
      intro fault failed
      cases failed
      exact store.lookup_valued name cause found
  | binary op left right leftValued rightValued =>
    refine .bind leftValued fun a => ?_
    refine .bind rightValued fun b => ?_
    exact op.apply_valued a b
  | not operand operandValued =>
    refine .bind operandValued fun a => ?_
    exact .bind (a.expectBool_valued .negation) fun b => .ok _

theorem evalInt_valued (e : Expr) (store : Store) (site : Site) : Valued (e.evalInt store site) :=
  .bind (e.eval_valued store) fun value => value.expectInt_valued site

theorem evalBool_valued (e : Expr) (store : Store) (site : Site) :
    Valued (e.evalBool store site) :=
  .bind (e.eval_valued store) fun value => value.expectBool_valued site

end Expr

/-! ## Controls of loops -/

/-- A control whose questions fail of values only. -/
structure LoopControl.FailsOfValues (control : LoopControl) : Prop where
  enters : ∀ store, Valued (control.enter store)
  leaves : ∀ store, Valued (control.leave store)

namespace LoopControl.FailsOfValues

theorem whileDo (cond : Expr) : (LoopControl.whileDo cond).FailsOfValues where
  enters store := cond.evalBool_valued store _
  leaves _ := .ok _

theorem repeatUntil (cond : Expr) : (LoopControl.repeatUntil cond).FailsOfValues where
  enters _ := .ok _
  leaves store := .bind (cond.evalBool_valued store _) fun _ => .ok _

theorem doWhile (cond : Expr) : (LoopControl.doWhile cond).FailsOfValues where
  enters _ := .ok _
  leaves store := .bind (cond.evalBool_valued store _) fun _ => .ok _

theorem forTo (counter : Name) (high : Expr) : (LoopControl.forTo counter high).FailsOfValues where
  enters store := by
    refine .bind (store.lookup_valued counter) fun current => ?_
    exact .bind (high.evalInt_valued store _) fun bound => .ok _
  leaves store := by
    refine .bind (store.lookup_valued counter) fun current => ?_
    exact .bind (ArithOp.add.apply_valued current 1) fun next => .ok _

end LoopControl.FailsOfValues

/-! ## Runs -/

/-- What a fault says of the limit, and of the console on which the run stops, is so. -/
def Fault.Justified (limit : Option UInt64) (console : Console) : Fault → Prop
  | .budgetExceeded most => limit = some most
  | .inputClosed _ => console.source.next? = none
  | _ => True

theorem Fault.OfValues.justified {fault : Fault} (ofValues : fault.OfValues)
    (limit : Option UInt64) (console : Console) : fault.Justified limit console := by
  cases fault <;> trivial

/-- A failure is a justified one. -/
def Outcome.Justified (limit : Option UInt64) : Outcome Fault → Prop :=
  All (fun _ _ => True) (fun fault console => fault.Justified limit console)

theorem Outcome.Justified.attempt {α : Type} {limit : Option UInt64} {result : Except Fault α}
    {console : Console} {next : α → Outcome Fault} (valued : Valued result)
    (rest : ∀ value, (next value).Justified limit) :
    (Outcome.attempt result console next).Justified limit :=
  All.attempt (fun fault failed => (valued fault failed).justified limit console)
    fun value _ => rest value

theorem LoopControl.iterate_justified {control : LoopControl} {limit : Option UInt64}
    {body : Store → Console → Outcome Fault} (valued : control.FailsOfValues)
    (bodyJustified : ∀ store console, (body store console).Justified limit) (fuel : Nat)
    (rounds : UInt64) (store : Store) (console : Console) :
    (control.iterate limit body fuel rounds store console).Justified limit := by
  refine iterate_all (fun _ _ => True) ?enterFails ?stops ?countFails ?goesOn fuel rounds trivial
  case enterFails => exact fun _ failed => (valued.enters _ _ failed).justified limit _
  case stops => exact fun _ _ _ => trivial
  case countFails =>
    intro store console rounds fault _ _ refused
    obtain ⟨most, same, _, rfl⟩ := beginRound_eq_error_iff.mp refused
    exact same
  case goesOn =>
    intro store console _ _
    refine (bodyJustified store console).mono ?_ fun _ _ justified => justified
    intro after between _
    refine ⟨?_, fun _ _ => trivial, fun _ _ _ => trivial⟩
    exact fun fault failed => (valued.leaves after fault failed).justified limit between

namespace Stmt

/-- Lines are read until there is none. -/
theorem exec_readNum_justified (settings : Settings) (fuel : Nat) (target : Name) (store : Store)
    (console : Console) :
    ((Stmt.readNum target).exec settings fuel store console).Justified settings.maxIterations := by
  induction bound : console.source.size using Nat.strongRecOn generalizing console with
  | ind size ih =>
    rw [exec_readNum]
    cases taken : console.source.next? with
    | none => exact .failed taken
    | some found =>
      obtain ⟨line, rest⟩ := found
      have smaller := Source.size_of_next? taken
      cases number : Numeral.signed (Text.trim line) with
      | ok n => simpa only [number] using .done trivial
      | error defect =>
        simp only [number]
        exact ih rest.size (by omega) _ rfl

/-- A run that reports an excess of rounds had that limit, and one that reports the end of its input
has read all of it. -/
theorem exec_justified (settings : Settings) (fuel : Nat) (s : Stmt) (store : Store)
    (console : Console) :
    (s.exec settings fuel store console).Justified settings.maxIterations := by
  induction s generalizing store console with
  | skip => exact .done trivial
  | assign target value =>
    exact .attempt (value.evalInt_valued store _) fun n => .done trivial
  | seq first rest firstJustified restJustified =>
    refine (firstJustified store console).andThen fun middle between _ => ?_
    exact restJustified middle between
  | ifThenElse cond yes no yesJustified noJustified =>
    refine .attempt (cond.evalBool_valued store _) fun holds => ?_
    cases holds with
    | false => exact noJustified store console
    | true => exact yesJustified store console
  | ifThen cond body bodyJustified =>
    refine .attempt (cond.evalBool_valued store _) fun holds => ?_
    cases holds with
    | false => exact .done trivial
    | true => exact bodyJustified store console
  | whileDo cond body bodyJustified =>
    exact LoopControl.iterate_justified (.whileDo cond) bodyJustified fuel 0 store console
  | repeatUntil body cond bodyJustified =>
    exact LoopControl.iterate_justified (.repeatUntil cond) bodyJustified fuel 0 store console
  | doWhile body cond bodyJustified =>
    exact LoopControl.iterate_justified (.doWhile cond) bodyJustified fuel 0 store console
  | forTo counter low high body bodyJustified =>
    refine .attempt (low.evalInt_valued store _) fun start => ?_
    exact LoopControl.iterate_justified (.forTo counter high) bodyJustified fuel 0 _ console
  | readNum target => exact exec_readNum_justified settings fuel target store console
  | writeNum value =>
    exact .attempt (value.evalInt_valued store _) fun n => .done trivial
  | writeStr text => exact .done trivial

end Stmt

end ImpLang
