import ImpLang.Proofs.Failure
import ImpLang.Proofs.Parts
import ImpLang.Proofs.Safety
import ImpLang.Proofs.WriteHistory

/-!
# Failures are explained by the program

Whatever a program fails of stands in it. `Stmt.Explains` lists what a report can say and what of
the statement is behind it: the variable that has no value, the operator or statement that got a
value of the wrong kind and the kind it asks for, the operation that has no result, the name that no
number could be read into, the loop that exceeded its limit. That every failure is among these is
proved from the inside out: operators, expressions, controls of loops, statements. Counters of loops
are looked up, too, but they are bound by then, and so are declared names.
-/

namespace ImpLang

/-- A diagnostic of a run of the statement, under this limit and with these names declared, says
what is so. -/
inductive Stmt.Explains (body : Stmt) (declared : Finset Name) (limit : Option UInt64) :
    Diagnostic → Prop
  | unbound {name : Name} (used : body.Mentions (.var name)) (undeclared : name ∉ declared) :
      Explains body declared limit (.unboundName name.text)
  | operator {op : BinaryOp} {left right : Expr} {got : Kind}
      (used : body.Mentions (.binary op left right)) (wrong : got ≠ op.operandKind) :
      Explains body declared limit
        (.typeMismatch ("operator `" ++ op.symbol ++ "`") op.operandKind.label got.label)
  | negation {operand : Expr} (used : body.Mentions (.not operand)) :
      Explains body declared limit
        (.typeMismatch ("operator `" ++ negationSymbol ++ "`") "bool" "int")
  | assignment {target : Name} {value : Expr} (used : .assign target value ∈ body.parts) :
      Explains body declared limit
        (.typeMismatch ("assignment to `" ++ target.text ++ "`") "int" "bool")
  | statement {part : Stmt} {kind got : Kind} (used : part ∈ body.parts)
      (demanded : part.form.demand? = some kind) (wrong : got ≠ kind) :
      Explains body declared limit (.typeMismatch part.describe kind.label got.label)
  | divisionByZero {op : ArithOp} {left right : Expr}
      (used : body.Mentions (.binary (.arith op) left right)) (divides : op = .div ∨ op = .mod) :
      Explains body declared limit (.divisionByZero (.arith op))
  | overflow {op : ArithOp} {left right : Expr}
      (used : body.Mentions (.binary (.arith op) left right)) :
      Explains body declared limit (.integerOverflow op.operation)
  /-- A counter is increased by one after each round. -/
  | counter {part : Stmt} (used : part ∈ body.parts) (counts : part.form = .forTo) :
      Explains body declared limit (.integerOverflow "addition")
  | inputClosed {target : Name} (used : .readNum target ∈ body.parts) :
      Explains body declared limit (.inputClosed target.text)
  | budget {most : UInt64} {part : Stmt} (configured : limit = some most)
      (used : part ∈ body.parts) (loop : part.form.isLoop = true) :
      Explains body declared limit (.iterationBudgetExceeded most)

/-! ## Expressions -/

section

variable {body : Stmt} {declared kept : Finset Name} {limit : Option UInt64} {store : Store}
  {fault : Fault}

namespace Expr

variable {e : Expr}

theorem eval_explained (covers : store.Covers declared)
    (inside : ∀ part ∈ e.parts, body.Mentions part) (failed : e.eval store = .error fault) :
    body.Explains declared limit fault.diagnostic := by
  induction e with
  | lit value => cases failed
  | var name =>
    cases found : store.lookup name with
    | ok n =>
      rw [eval_var_of_ok found] at failed
      cases failed
    | error cause =>
      rw [eval_var_of_error found] at failed
      cases failed
      obtain ⟨absent, rfl⟩ := Store.lookup_eq_error_iff.mp found
      exact .unbound (inside _ (by simp [parts])) fun member => absent (covers name member)
  | binary op left right leftExplained rightExplained =>
    have whole : body.Mentions (.binary op left right) := inside _ (by simp [parts])
    rcases eval_binary_error failed with early | late | ⟨a, b, _, _, applied⟩
    · exact leftExplained (fun part member => inside part (by simp [parts, member])) early
    · exact rightExplained (fun part member => inside part (by simp [parts, member])) late
    · rcases BinaryOp.apply_eq_error applied with ⟨arith, rfl, cause⟩ | ⟨got, wrong, rfl⟩
      · rcases cause with ⟨divides, rfl⟩ | rfl
        · exact .divisionByZero whole divides
        · exact .overflow whole
      · exact .operator whole wrong
  | not operand operandExplained =>
    rcases bind_eq_error.mp failed with early | ⟨a, _, negated⟩
    · exact operandExplained (fun part member => inside part (by simp [parts, member])) early
    · rcases bind_eq_error.mp negated with refused | ⟨_, _, made⟩
      · rw [Value.expectBool_eq_error refused]
        exact .negation (inside (.not operand) (by simp [parts]))
      · cases made

/-- An expression that has to be an integer is explained if the wrong kind is. -/
theorem evalInt_explained {site : Site} (covers : store.Covers declared)
    (inside : ∀ part ∈ e.parts, body.Mentions part)
    (wrong : body.Explains declared limit (Fault.mismatch site .int .bool).diagnostic)
    (failed : e.evalInt store site = .error fault) :
    body.Explains declared limit fault.diagnostic := by
  rcases bind_eq_error.mp failed with early | ⟨value, _, refused⟩
  · exact eval_explained covers inside early
  · rw [Value.expectInt_eq_error refused]
    exact wrong

theorem evalBool_explained {site : Site} (covers : store.Covers declared)
    (inside : ∀ part ∈ e.parts, body.Mentions part)
    (wrong : body.Explains declared limit (Fault.mismatch site .bool .int).diagnostic)
    (failed : e.evalBool store site = .error fault) :
    body.Explains declared limit fault.diagnostic := by
  rcases bind_eq_error.mp failed with early | ⟨value, _, refused⟩
  · exact eval_explained covers inside early
  · rw [Value.expectBool_eq_error refused]
    exact wrong

end Expr

/-! ## Statements -/

/-- The end of a part of the statement: these names are bound, or the failure is explained. -/
def Outcome.ExplainedBy (body : Stmt) (declared kept : Finset Name) (limit : Option UInt64) :
    Outcome Fault → Prop :=
  All (fun store _ => store.Covers kept)
    (fun fault _ => body.Explains declared limit fault.diagnostic)

/-- A loop is explained if its control is wherever the names are bound, and keeps them bound. -/
theorem LoopControl.iterate_explained {control : LoopControl}
    {run : Store → Console → Outcome Fault}
    (enterFails : ∀ {store fault}, store.Covers kept → control.enter store = .error fault →
      body.Explains declared limit fault.diagnostic)
    (loop : ∃ part ∈ body.parts, part.form.isLoop = true)
    (runExplained : ∀ store console, store.Covers kept →
      (run store console).ExplainedBy body declared kept limit)
    (leaveFails : ∀ {store fault}, store.Covers kept → control.leave store = .error fault →
      body.Explains declared limit fault.diagnostic)
    (leaves : ∀ {store next again}, store.Covers kept → control.leave store = .ok (next, again) →
      next.Covers kept)
    (fuel : Nat) (rounds : UInt64) {store : Store} (console : Console)
    (covers : store.Covers kept) :
    (control.iterate limit run fuel rounds store console).ExplainedBy body declared kept limit := by
  refine iterate_all (fun store _ => store.Covers kept) ?_ ?_ ?_ ?_ fuel rounds covers
  · exact fun covers failed => enterFails covers failed
  · exact fun _ covers _ => covers
  · intro store console rounds fault _ _ refused
    obtain ⟨most, configured, _, rfl⟩ := beginRound_eq_error_iff.mp refused
    obtain ⟨part, used, isLoop⟩ := loop
    exact .budget configured used isLoop
  · intro store console covers _
    refine (runExplained store console covers).mono ?_ fun _ _ explained => explained
    intro after between covered
    refine ⟨fun fault failed => leaveFails covered failed, ?_, ?_⟩
    · exact fun next left => leaves covered left
    · exact fun next _ left => leaves covered left

namespace Stmt

variable {s : Stmt}

/-- The expressions of a part of the statement stand in the statement. -/
theorem mentions_of_mem_exprs {e : Expr} (used : s ∈ body.parts) (member : e ∈ s.exprs) :
    ∀ part ∈ e.parts, body.Mentions part :=
  fun _ inner => ⟨s, used, e, member, inner⟩

/-- A condition of a part of the statement. -/
theorem condition_explained {cond : Expr} (used : s ∈ body.parts) (own : cond ∈ s.exprs)
    (demanded : s.form.demand? = some .bool) (covers : store.Covers declared)
    (failed : cond.evalBool store (.statement s.form) = .error fault) :
    body.Explains declared limit fault.diagnostic := by
  refine cond.evalBool_explained covers (mentions_of_mem_exprs used own) ?_ failed
  exact .statement used demanded (show Kind.int ≠ .bool from nofun)

/-- A bound or a number to be written of a part of the statement. -/
theorem number_explained {value : Expr} (used : s ∈ body.parts) (own : value ∈ s.exprs)
    (demanded : s.form.demand? = some .int) (covers : store.Covers declared)
    (failed : value.evalInt store (.statement s.form) = .error fault) :
    body.Explains declared limit fault.diagnostic := by
  refine value.evalInt_explained covers (mentions_of_mem_exprs used own) ?_ failed
  exact .statement used demanded (show Kind.bool ≠ .int from nofun)

/-- Every part of a statement has its failures explained by the whole. More names than the declared
ones are kept bound, namely the counters of the loops around the part. -/
theorem exec_explained (settings : Settings) (fuel : Nat) (inside : s.parts ⊆ body.parts)
    (more : declared ⊆ kept) (covers : store.Covers kept) (console : Console) :
    (s.exec settings fuel store console).ExplainedBy body declared kept
      settings.maxIterations := by
  induction s generalizing kept store console with
  | skip => exact .done covers
  | assign target value =>
    have used := inside (mem_parts_self _)
    refine .attempt (fun fault failed => ?_) fun n _ => ?_
    · have own := mentions_of_mem_exprs used (List.mem_singleton_self value)
      exact value.evalInt_explained (covers.mono more) own (.assignment used) failed
    · exact .done ((covers.bind target n).mono (Finset.subset_insert _ _))
  | seq first rest firstExplained restExplained =>
    have both : first.parts ⊆ body.parts ∧ rest.parts ⊆ body.parts := by
      simp only [parts, List.cons_subset, List.append_subset] at inside
      exact inside.2
    refine (firstExplained both.1 more covers console).andThen fun middle between covered => ?_
    exact restExplained both.2 more covered between
  | ifThenElse cond yes no yesExplained noExplained =>
    have used := inside (mem_parts_self _)
    have both : yes.parts ⊆ body.parts ∧ no.parts ⊆ body.parts := by
      simp only [parts, List.cons_subset, List.append_subset] at inside
      exact inside.2
    refine .attempt (fun fault failed => ?_) fun holds _ => ?_
    · exact condition_explained used (by simp [exprs]) rfl (covers.mono more) failed
    cases holds with
    | false => exact noExplained both.2 more covers console
    | true => exact yesExplained both.1 more covers console
  | ifThen cond inner innerExplained =>
    have used := inside (mem_parts_self _)
    refine .attempt (fun fault failed => ?_) fun holds _ => ?_
    · exact condition_explained used (by simp [exprs]) rfl (covers.mono more) failed
    cases holds with
    | false => exact .done covers
    | true => exact innerExplained (List.cons_subset.mp inside).2 more covers console
  | whileDo cond inner innerExplained =>
    have used := inside (mem_parts_self _)
    refine LoopControl.iterate_explained ?_ ⟨_, used, rfl⟩ ?_ ?_ ?_ fuel 0 console covers
    · intro store fault covers failed
      exact condition_explained used (by simp [exprs]) rfl (covers.mono more) failed
    · exact fun store console covers =>
        innerExplained (List.cons_subset.mp inside).2 more covers console
    · intro store fault covers failed
      cases failed
    · intro store next again covers left
      cases left
      exact covers
  | repeatUntil inner cond innerExplained =>
    have used := inside (mem_parts_self _)
    refine LoopControl.iterate_explained ?_ ⟨_, used, rfl⟩ ?_ ?_ ?_ fuel 0 console covers
    · intro store fault covers failed
      cases failed
    · exact fun store console covers =>
        innerExplained (List.cons_subset.mp inside).2 more covers console
    · intro store fault covers failed
      have untested := LoopControl.leave_repeatUntil_error.mp failed
      exact condition_explained used (by simp [exprs]) rfl (covers.mono more) untested
    · intro store next again covers left
      rw [(LoopControl.leave_repeatUntil_ok.mp left).1]
      exact covers
  | doWhile inner cond innerExplained =>
    have used := inside (mem_parts_self _)
    refine LoopControl.iterate_explained ?_ ⟨_, used, rfl⟩ ?_ ?_ ?_ fuel 0 console covers
    · intro store fault covers failed
      cases failed
    · exact fun store console covers =>
        innerExplained (List.cons_subset.mp inside).2 more covers console
    · intro store fault covers failed
      have untested := LoopControl.leave_doWhile_error.mp failed
      exact condition_explained used (by simp [exprs]) rfl (covers.mono more) untested
    · intro store next again covers left
      rw [(LoopControl.leave_doWhile_ok.mp left).1]
      exact covers
  | forTo counter low high inner innerExplained =>
    have used := inside (mem_parts_self _)
    have further : declared ⊆ insert counter kept := more.trans (Finset.subset_insert _ _)
    have counted {store : Store} {fault : Fault} (covered : store.Covers (insert counter kept)) :
        store.lookup counter ≠ .error fault := by
      intro failed
      exact (Store.lookup_eq_error_iff.mp failed).1 (covered counter (Finset.mem_insert_self _ _))
    refine .attempt (fun fault failed => ?_) fun start _ => ?_
    · exact number_explained used (by simp [exprs]) rfl (covers.mono more) failed
    have loop : ((LoopControl.forTo counter high).iterate settings.maxIterations
        (fun store console => inner.exec settings fuel store console) fuel 0
        (store.bind counter start) console).ExplainedBy body declared (insert counter kept)
        settings.maxIterations := by
      refine LoopControl.iterate_explained ?_ ⟨_, used, rfl⟩ ?_ ?_ ?_ fuel 0 console
        (covers.bind counter start)
      · intro store fault covered failed
        rcases LoopControl.enter_forTo_error.mp failed with lost | ⟨_, _, failed⟩
        · exact absurd lost (counted covered)
        · exact number_explained used (by simp [exprs]) rfl (covered.mono further) failed
      · exact fun store console covered =>
          innerExplained (List.cons_subset.mp inside).2 further covered console
      · intro store fault covered failed
        rcases LoopControl.leave_forTo_error.mp failed with lost | ⟨_, _, failed⟩
        · exact absurd lost (counted covered)
        · rcases ArithOp.apply_eq_error failed with ⟨divides, _⟩ | rfl
          · simp at divides
          · exact .counter used rfl
      · intro store next again covered left
        obtain ⟨_, increased, _, _, rfl, _⟩ := LoopControl.leave_forTo_ok.mp left
        exact (covered.bind counter increased).mono (Finset.subset_insert _ _)
    exact loop.mono (fun _ _ covered => covered.mono (Finset.subset_insert _ _))
      fun _ _ explained => explained
  | readNum target =>
    rw [exec]
    split
    · exact .done ((covers.bind target _).mono (Finset.subset_insert _ _))
    · exact .failed (.inputClosed (inside (mem_parts_self _)))
  | writeNum value =>
    have used := inside (mem_parts_self _)
    refine .attempt (fun fault failed => ?_) fun n _ => .done covers
    exact number_explained used (by simp [exprs]) rfl (covers.mono more) failed
  | writeStr text => exact .done covers

/-- The two kinds are reported as expected and got, one for the other. -/
theorem Explains.kinds {context expected got : String}
    (explains : body.Explains declared limit (.typeMismatch context expected got)) :
    (expected = "int" ∧ got = "bool") ∨ (expected = "bool" ∧ got = "int") := by
  have labels {kind other : Kind} (wrong : other ≠ kind) :
      (kind.label = "int" ∧ other.label = "bool") ∨
        (kind.label = "bool" ∧ other.label = "int") := by
    cases kind <;> cases other <;> simp [Kind.label] at wrong ⊢
  cases explains with
  | operator _ wrong => exact labels wrong
  | negation => exact Or.inr ⟨rfl, rfl⟩
  | assignment => exact Or.inl ⟨rfl, rfl⟩
  | statement _ _ wrong => exact labels wrong

end Stmt

end

theorem Store.initial_covers (declared : List Name) :
    (initial declared).Covers declared.toFinset := by
  intro name member
  rw [Store.names_initial]
  simpa using member

/-- The report on a failure has the wording of its diagnostic as its message and one note, which
names the program; and what it says is explained by the body of the program. -/
theorem Program.failure_explained {settings : Settings} {program : Program}
    {console after : Console} {report : Report}
    (fails : program.EndsIn settings console (.failed report after)) :
    report.message = report.diagnostic.message ∧
    report.notes = ["in program '" ++ program.name ++ "'"] ∧
    program.body.Explains program.vars.toFinset settings.maxIterations report.diagnostic ∧
    ∀ context expected got, report.diagnostic = .typeMismatch context expected got →
      (expected = "int" ∧ got = "bool") ∨ (expected = "bool" ∧ got = "int") := by
  obtain ⟨fault, between, ⟨_, fuel, reached⟩, rfl, _⟩ := fails.failed
  have explained := Stmt.exec_explained settings fuel (List.Subset.refl program.body.parts)
    (Finset.Subset.refl program.vars.toFinset) (Store.initial_covers program.vars)
    (console.record (.started program.name program.vars.length))
  rw [reached] at explained
  cases explained with
  | failed explains =>
    refine ⟨rfl, rfl, explains, fun context expected got same => ?_⟩
    have mismatch : fault.diagnostic = .typeMismatch context expected got := same
    rw [mismatch] at explains
    exact explains.kinds

/-- The second round of a loop divides by zero, with a name that is bound but not declared. -/
theorem Program.failure_explained_division : ∃ (program : Program) (report : Report),
    program = ⟨"ratio", [⟨"n"⟩], .forTo ⟨"i"⟩ (.int 1) (.int 3)
      (.assign ⟨"n"⟩ (.div (.named "n") (.sub (.named "i") (.int 2))))⟩ ∧
    (∃ after, program.EndsIn {} { source := .script [], sink := .buffer }
      (.failed report after)) ∧
    report.message = "division by zero in operator `/`" ∧
    report.notes = ["in program 'ratio'"] ∧
    program.body.Explains {⟨"n"⟩} none report.diagnostic := by
  obtain ⟨program, known⟩ : ∃ program : Program,
      program = ⟨"ratio", [⟨"n"⟩], .forTo ⟨"i"⟩ (.int 1) (.int 3)
        (.assign ⟨"n"⟩ (.div (.named "n") (.sub (.named "i") (.int 2))))⟩ := ⟨_, rfl⟩
  have fails : program.EndsIn {} { source := .script [], sink := .buffer }
      (.failed { diagnostic := .divisionByZero (.arith .div), notes := ["in program 'ratio'"] }
        { source := .script [], sink := .buffer,
          events := #[.started "ratio" 1, .assigned ⟨"n"⟩ 0,
            .failed (.divisionByZero (.arith .div))] }) := by
    refine ⟨nofun, 2, ?_⟩
    rw [known]
    decide +kernel
  obtain ⟨message, _, explains, _⟩ := failure_explained fails
  have declared : program.vars.toFinset = {⟨"n"⟩} := by
    rw [known]
    rfl
  rw [declared] at explains
  refine ⟨program, _, known, ⟨_, fails⟩, ?_, rfl, explains⟩
  rw [message]
  decide

end ImpLang
