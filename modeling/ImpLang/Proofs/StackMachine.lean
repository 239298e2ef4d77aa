import ImpLang.Loop
import ImpLang.Proofs.Parts

/-!
# Evaluation on a stack

The parts of an expression, listed so that each comes after its operands, are a program for a
machine that keeps values on a stack and stops at the first fault. It comes to the value of the
expression, or to its fault (`run_postorder`). So no part is left out, and the fault is that of the
first part in the list which fails by itself (`findSome?_stepFault?`).
-/

namespace ImpLang

/-- What the machine does for one part of an expression. -/
inductive Instr where
  | push (value : Value)
  | load (name : Name)
  | apply (op : BinaryOp)
  | negate
  deriving DecidableEq, Repr

/-- Why the machine stops. -/
inductive Halt where
  | fault (fault : Fault)
  /-- An operand is missing. -/
  | underflow
  deriving DecidableEq, Repr

namespace Instr

/-- Puts a result on the stack; a fault stops the machine. -/
def deliver (stack : List Value) : Except Fault Value → Except Halt (List Value)
  | .ok value => .ok (value :: stack)
  | .error fault => .error (.fault fault)

/-- One step of the machine. An operator takes its operands off the stack, the right one first. -/
def step (store : Store) : Instr → List Value → Except Halt (List Value)
  | .push value, stack => .ok (value :: stack)
  | .load name, stack => deliver stack ((store.lookup name).map .int)
  | .apply op, right :: left :: stack => deliver stack (op.apply left right)
  | .negate, operand :: stack => deliver stack operand.negate
  | .apply _, _ | .negate, _ => .error .underflow

/-- Steps in turn, up to the first that stops the machine. -/
def run (store : Store) (program : List Instr) (stack : List Value) : Except Halt (List Value) :=
  program.foldlM (fun stack instr => instr.step store stack) stack

theorem run_singleton (store : Store) (instr : Instr) (stack : List Value) :
    run store [instr] stack = instr.step store stack := by
  rw [run, List.foldlM_cons]
  cases instr.step store stack <;> rfl

theorem run_append (store : Store) (program rest : List Instr) (stack : List Value) :
    run store (program ++ rest) stack = run store program stack >>= run store rest :=
  List.foldlM_append

end Instr

namespace Expr

/-- An expression and the expressions in it, each after its operands. -/
def postorder : Expr → List Expr
  | .lit value => [.lit value]
  | .var name => [.var name]
  | .binary op left right => left.postorder ++ right.postorder ++ [.binary op left right]
  | .not operand => operand.postorder ++ [.not operand]

/-- The operands of an expression, from left to right. -/
def operands : Expr → List Expr
  | .lit _ | .var _ => []
  | .binary _ left right => [left, right]
  | .not operand => [operand]

/-- What is left to do once the operands have values. -/
def instr : Expr → Instr
  | .lit value => .push value
  | .var name => .load name
  | .binary op _ _ => .apply op
  | .not _ => .negate

/-- The fault of an expression's own step: its operands have values, and its instruction stops the
machine on a stack that holds these. -/
def stepFault? (store : Store) (e : Expr) : Option Fault :=
  match e.operands.mapM (eval store) with
  | .error _ => none
  | .ok values =>
    match e.instr.step store values.reverse with
    | .error (.fault fault) => some fault
    | _ => none

theorem mem_postorder {e part : Expr} : part ∈ e.postorder ↔ part ∈ e.parts := by
  induction e with
  | lit | var => rfl
  | binary op left right leftMem rightMem =>
    simp only [postorder, parts, List.mem_append, List.mem_cons, leftMem, rightMem,
      List.not_mem_nil, or_false]
    exact or_comm
  | not operand operandMem =>
    simp only [postorder, parts, List.mem_append, List.mem_cons, operandMem, List.not_mem_nil,
      or_false]
    exact or_comm

variable {store : Store} {e left right operand : Expr} {op : BinaryOp}

/-- The list leaves the value on whatever is on the stack already. -/
theorem run_postorder (store : Store) (e : Expr) (stack : List Value) :
    Instr.run store (e.postorder.map instr) stack = Instr.deliver stack (e.eval store) := by
  induction e generalizing stack with
  | lit value => exact Instr.run_singleton store _ stack
  | var name => exact Instr.run_singleton store _ stack
  | binary op left right leftRun rightRun =>
    simp only [postorder, List.map_append, List.map_cons, List.map_nil, Instr.run_append, leftRun]
    cases first : left.eval store with
    | error fault => rw [eval_binary_of_left first]; rfl
    | ok a =>
      show Instr.run store (right.postorder.map instr) (a :: stack) >>= _ = _
      rw [rightRun]
      cases second : right.eval store with
      | error fault => rw [eval_binary_of_right first second]; rfl
      | ok b =>
        rw [eval_binary_of_ok first second]
        exact Instr.run_singleton store _ (b :: a :: stack)
  | not operand operandRun =>
    simp only [postorder, List.map_append, List.map_cons, List.map_nil, Instr.run_append,
      operandRun]
    cases found : operand.eval store with
    | error fault => rw [eval_not_of_error found]; rfl
    | ok a =>
      rw [eval_not_of_ok found]
      exact Instr.run_singleton store _ (a :: stack)

/-! ## The first fault -/

/-- The fault of a result, if it is one. -/
def faultOf {α : Type} : Except Fault α → Option Fault
  | .ok _ => none
  | .error fault => some fault

theorem stepFault?_var (store : Store) (name : Name) :
    (Expr.var name).stepFault? store = faultOf (store.lookup name) := by
  simp only [stepFault?, operands, List.mapM_nil, pure, Except.pure, instr, List.reverse_nil,
    Instr.step]
  cases store.lookup name <;> rfl

theorem stepFault?_binary_of_ok {a b : Value} (first : left.eval store = .ok a)
    (second : right.eval store = .ok b) :
    (Expr.binary op left right).stepFault? store = faultOf (op.apply a b) := by
  simp only [stepFault?, operands, List.mapM_cons, List.mapM_nil, first, second, bind, Except.bind,
    pure, Except.pure, instr, List.reverse_cons, List.reverse_nil, List.nil_append,
    List.singleton_append, Instr.step]
  cases op.apply a b <;> rfl

theorem stepFault?_not_of_ok {a : Value} (found : operand.eval store = .ok a) :
    (Expr.not operand).stepFault? store = faultOf a.negate := by
  simp only [stepFault?, operands, List.mapM_cons, List.mapM_nil, found, bind, Except.bind,
    pure, Except.pure, instr, List.reverse_cons, List.reverse_nil, List.nil_append, Instr.step]
  cases a.negate <;> rfl

/-- The steps come in the order of the list, so the first fault is the one that stops them. -/
theorem findSome?_stepFault? (store : Store) (e : Expr) :
    e.postorder.findSome? (stepFault? store) = faultOf (e.eval store) := by
  induction e with
  | lit value => rfl
  | var name =>
    rw [postorder, List.findSome?_singleton, stepFault?_var]
    cases found : store.lookup name with
    | error fault => rw [eval_var_of_error found]; rfl
    | ok n => rw [eval_var_of_ok found]; rfl
  | binary op left right leftFirst rightFirst =>
    rw [postorder, List.findSome?_append, List.findSome?_append, leftFirst, rightFirst,
      List.findSome?_singleton]
    cases first : left.eval store with
    | error fault => rw [eval_binary_of_left first]; rfl
    | ok a =>
      cases second : right.eval store with
      | error fault => rw [eval_binary_of_right first second]; rfl
      | ok b =>
        rw [eval_binary_of_ok first second, stepFault?_binary_of_ok first second]
        rfl
  | not operand operandFirst =>
    rw [postorder, List.findSome?_append, operandFirst, List.findSome?_singleton]
    cases found : operand.eval store with
    | error fault => rw [eval_not_of_error found]; rfl
    | ok a =>
      rw [eval_not_of_ok found, stepFault?_not_of_ok found]
      rfl

/-- An operation that fails by itself has operands with values. -/
theorem apply_of_stepFault? {fault : Fault}
    (failed : (Expr.binary op left right).stepFault? store = some fault) :
    ∃ a b, left.eval store = .ok a ∧ right.eval store = .ok b ∧ op.apply a b = .error fault := by
  cases first : left.eval store with
  | error cause => simp [stepFault?, operands, first, bind, Except.bind] at failed
  | ok a =>
    cases second : right.eval store with
    | error cause => simp [stepFault?, operands, first, second, bind, Except.bind] at failed
    | ok b =>
      rw [stepFault?_binary_of_ok first second] at failed
      cases applied : op.apply a b with
      | ok value => simp [faultOf, applied] at failed
      | error cause =>
        simp only [faultOf, applied, Option.some.injEq] at failed
        exact ⟨a, b, rfl, rfl, failed ▸ applied⟩

theorem negate_of_stepFault? {fault : Fault}
    (failed : (Expr.not operand).stepFault? store = some fault) :
    ∃ a, operand.eval store = .ok a ∧ a.negate = .error fault := by
  cases found : operand.eval store with
  | error cause => simp [stepFault?, operands, found, bind, Except.bind] at failed
  | ok a =>
    rw [stepFault?_not_of_ok found] at failed
    cases negated : a.negate with
    | ok value => simp [faultOf, negated] at failed
    | error cause =>
      simp only [faultOf, negated, Option.some.injEq] at failed
      exact ⟨a, rfl, failed ▸ negated⟩

theorem mem_parts_self (e : Expr) : e ∈ e.parts := by
  cases e <;> simp [parts]

theorem exists_stepFault?_of_error {fault : Fault} (failed : e.eval store = .error fault) :
    ∃ part ∈ e.parts, part.stepFault? store = some fault := by
  have first := findSome?_stepFault? store e
  rw [failed] at first
  obtain ⟨part, inside, own⟩ := List.exists_of_findSome?_eq_some first
  exact ⟨part, mem_postorder.mp inside, own⟩

/-- Every part of an expression that has a value has one. -/
theorem eval_part_of_ok {value : Value} (found : e.eval store = .ok value) {part : Expr}
    (inside : part ∈ e.parts) : ∃ value, part.eval store = .ok value := by
  induction e generalizing value with
  | lit | var =>
    cases List.mem_singleton.mp inside
    exact ⟨value, found⟩
  | binary op left right leftPart rightPart =>
    obtain ⟨a, first, rest⟩ := bind_eq_ok.mp found
    obtain ⟨b, second, _⟩ := bind_eq_ok.mp rest
    rw [parts, List.mem_cons, List.mem_append] at inside
    rcases inside with rfl | inLeft | inRight
    · exact ⟨value, found⟩
    · exact leftPart first inLeft
    · exact rightPart second inRight
  | not operand operandPart =>
    obtain ⟨a, negated, _⟩ := bind_eq_ok.mp found
    rw [parts, List.mem_cons] at inside
    rcases inside with rfl | inOperand
    · exact ⟨value, found⟩
    · exact operandPart negated inOperand

/-- Evaluation is what a machine does that runs through the parts of an expression, each after its
operands. It has a value if and only if all of its parts have, also those on the right of an `and`
whose left side is false; and it fails if and only if a part fails by itself, with the fault of the
first such part in the list. -/
theorem eval_eq_run_postorder (store : Store) (e : Expr) :
    (Instr.run store (e.postorder.map instr) [] =
      match e.eval store with
      | .ok value => .ok [value]
      | .error fault => .error (.fault fault)) ∧
    ((∃ value, e.eval store = .ok value) ↔
      ∀ part ∈ e.parts, ∃ value, part.eval store = .ok value) ∧
    ∀ fault, e.eval store = .error fault ↔
      ∃ before part after, e.postorder = before ++ part :: after ∧
        part.stepFault? store = some fault ∧
        ∀ earlier ∈ before, earlier.stepFault? store = none := by
  refine ⟨?_, ?_, fun fault => ?_⟩
  · rw [run_postorder]
    cases e.eval store <;> rfl
  · constructor
    · rintro ⟨value, found⟩ part inside
      exact eval_part_of_ok found inside
    · exact fun all => all e e.mem_parts_self
  · rw [← List.findSome?_eq_some_iff, findSome?_stepFault?]
    cases e.eval store <;> simp [faultOf]

example : (Expr.and (.bool false) (.eq (.div (.int 1) (.int 0)) (.int 0))).eval .empty =
    .error (.divisionByZero (.arith .div)) :=
  rfl

end Expr

end ImpLang
