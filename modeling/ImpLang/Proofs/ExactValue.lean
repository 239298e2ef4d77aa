import ImpLang.Proofs.StackMachine

/-!
# Exact values

Over the integers without bounds an expression denotes a value by the rules of arithmetic alone
(`Expr.Denotes`), where a division leaves a remainder with the sign of the dividend. Evaluation in
64 bits finds that value wherever every number on the way fits, and finds no other.
-/

namespace ImpLang

/-! ## Arithmetic -/

/-- A quotient cut off toward zero, and the remainder: it is smaller than the divisor and has the
sign of the dividend, unless it is zero. -/
structure Truncates (a b quotient remainder : Int) : Prop where
  whole : b * quotient + remainder = a
  small : remainder.natAbs < b.natAbs
  sign : 0 ≤ a * remainder

theorem truncates_iff {a b q r : Int} :
    Truncates a b q r ↔ b ≠ 0 ∧ q = a.tdiv b ∧ r = a.tmod b := by
  constructor
  · rintro ⟨whole, small, sign⟩
    have nonzero : b ≠ 0 := by omega
    have upward (high : 0 ≤ a) (positive : 0 ≤ r) : a.tdiv b = q ∧ a.tmod b = r :=
      (Int.tdiv_tmod_unique high nonzero).mpr ⟨by omega, positive, by omega⟩
    have downward (low : a ≤ 0) (negative : r ≤ 0) : a.tdiv b = q ∧ a.tmod b = r :=
      (Int.tdiv_tmod_unique' low nonzero).mpr ⟨by omega, by omega, negative⟩
    have found : a.tdiv b = q ∧ a.tmod b = r := by
      rcases Int.lt_trichotomy a 0 with negative | zero | positive
      · have below : r ≤ 0 := by
          refine Int.not_lt.mp fun above => ?_
          have opposite := Int.mul_neg_of_neg_of_pos negative above
          omega
        exact downward (by omega) below
      · rcases Int.le_total 0 r with above | below
        · exact upward (by omega) above
        · exact downward (by omega) below
      · have above : 0 ≤ r := by
          refine Int.not_lt.mp fun below => ?_
          have opposite := Int.mul_neg_of_pos_of_neg positive below
          omega
        exact upward (by omega) above
    exact ⟨nonzero, found.1.symm, found.2.symm⟩
  · rintro ⟨nonzero, rfl, rfl⟩
    refine ⟨Int.mul_tdiv_add_tmod a b, ?_, ?_⟩
    · rw [Int.natAbs_tmod]
      exact Nat.mod_lt _ (by omega)
    · rcases Int.le_total 0 a with high | low
      · exact Int.mul_nonneg high (Int.tmod_nonneg b high)
      · have below := ((Int.tdiv_tmod_unique' low nonzero).mp ⟨rfl, rfl⟩).2.2
        exact Int.mul_nonneg_of_nonpos_of_nonpos low below

/-- What an operator makes of two integers, if anything. -/
inductive ArithOp.Gives : ArithOp → Int → Int → Int → Prop
  | add (a b : Int) : Gives .add a b (a + b)
  | sub (a b : Int) : Gives .sub a b (a - b)
  | mul (a b : Int) : Gives .mul a b (a * b)
  | div {a b q r : Int} (cut : Truncates a b q r) : Gives .div a b q
  | mod {a b q r : Int} (cut : Truncates a b q r) : Gives .mod a b r

theorem fits_toInt (n : Int64) : Fits n.toInt := by
  have low := n.le_toInt
  have high := n.toInt_lt
  exact ⟨by omega, by omega⟩

theorem toInt_ofInt_of_fits {n : Int} (fits : Fits n) : (Int64.ofInt n).toInt = n := by
  obtain ⟨low, high⟩ := fits
  exact Int64.toInt_ofInt_of_le (by omega) (by omega)

/-- Of the quotients of numbers that fit, only one does not. -/
theorem fits_tdiv_iff {a b : Int} (fits : Fits a) (nonzero : b ≠ 0) :
    Fits (a.tdiv b) ↔ ¬ (a = -9223372036854775808 ∧ b = -1) := by
  obtain ⟨low, high⟩ := fits
  constructor
  · rintro ⟨_, within⟩ ⟨rfl, rfl⟩
    exact absurd within (by decide)
  · intro usual
    have size : (a.tdiv b).natAbs = a.natAbs / b.natAbs := Int.natAbs_tdiv a b
    by_cases unit : b.natAbs = 1
    · rcases (by omega : b = 1 ∨ b = -1) with rfl | rfl
      · rw [Int.tdiv_one]
        exact ⟨low, high⟩
      · rw [Int.tdiv_neg, Int.tdiv_one]
        exact ⟨by omega, by omega⟩
    · have half : a.natAbs / b.natAbs ≤ a.natAbs / 2 := Nat.div_le_div_left (by omega) (by decide)
      exact ⟨by omega, by omega⟩

theorem fits_tmod {a b : Int} (fits : Fits b) (nonzero : b ≠ 0) : Fits (a.tmod b) := by
  obtain ⟨low, high⟩ := fits
  have size := Int.natAbs_tmod a b
  have small : a.natAbs % b.natAbs < b.natAbs := Nat.mod_lt _ (by omega)
  exact ⟨by omega, by omega⟩

namespace ArithOp

variable {op : ArithOp} {a b n : Int64}

theorem gives_iff {x y z : Int} :
    op.Gives x y z ↔ (op.divides = true → y ≠ 0) ∧ z = op.exact x y := by
  constructor
  · intro gives
    cases gives with
    | add | sub | mul => exact ⟨nofun, rfl⟩
    | div cut =>
      obtain ⟨nonzero, quotient, _⟩ := truncates_iff.mp cut
      exact ⟨fun _ => nonzero, quotient⟩
    | mod cut =>
      obtain ⟨nonzero, _, remainder⟩ := truncates_iff.mp cut
      exact ⟨fun _ => nonzero, remainder⟩
  · rintro ⟨defined, rfl⟩
    cases op with
    | add => exact .add x y
    | sub => exact .sub x y
    | mul => exact .mul x y
    | div => exact .div (truncates_iff.mpr ⟨defined rfl, rfl, rfl⟩)
    | mod => exact .mod (truncates_iff.mpr ⟨defined rfl, rfl, rfl⟩)

/-- The least integer over minus one is the one remainder that is refused although it would fit. -/
def Refuses (op : ArithOp) (x y : Int) : Prop :=
  op = .mod ∧ x = -9223372036854775808 ∧ y = -1

theorem fits_gauge_iff {x y : Int} (left : Fits x) (right : Fits y)
    (defined : op.divides = true → y ≠ 0) :
    Fits (op.gauge x y) ↔ Fits (op.exact x y) ∧ ¬ op.Refuses x y := by
  cases op with
  | add | sub | mul | div => simp [gauge, Refuses]
  | mod =>
    have remainder : Fits (exact .mod x y) := fits_tmod right (defined rfl)
    simp only [gauge, Refuses, remainder, true_and]
    exact fits_tdiv_iff left (defined rfl)

/-- An operator has the exact result, whenever 64 bits can hold it and it is not refused. -/
theorem apply_eq_ok_iff :
    op.apply a b = .ok n ↔
      op.Gives a.toInt b.toInt n.toInt ∧ ¬ op.Refuses a.toInt b.toInt := by
  have zero : b = 0 ↔ b.toInt = 0 := Int64.toInt_inj.symm
  rw [gives_iff, ArithOp.apply]
  by_cases undefined : op.divides = true ∧ b = 0
  · rw [if_pos undefined]
    simp [undefined.1, zero.mp undefined.2]
  · have defined : op.divides = true → b.toInt ≠ 0 := fun divides isZero =>
      undefined ⟨divides, zero.mpr isZero⟩
    rw [if_neg undefined]
    by_cases fits : Fits (op.gauge a.toInt b.toInt)
    · obtain ⟨held, answered⟩ := (fits_gauge_iff (fits_toInt a) (fits_toInt b) defined).mp fits
      rw [if_pos fits, Except.ok.injEq, ← Int64.toInt_inj, toInt_ofInt_of_fits held]
      exact ⟨fun same => ⟨⟨defined, same.symm⟩, answered⟩, fun given => given.1.2.symm⟩
    · rw [if_neg fits]
      refine ⟨nofun, fun given => absurd ?_ fits⟩
      obtain ⟨⟨_, same⟩, answered⟩ := given
      refine (fits_gauge_iff (fits_toInt a) (fits_toInt b) defined).mpr ⟨?_, answered⟩
      rw [← same]
      exact fits_toInt n

theorem apply_eq_overflow {named : ArithOp} (failed : op.apply a b = .error (.overflow named)) :
    named = op ∧ ((∃ z, op.Gives a.toInt b.toInt z ∧ ¬ Fits z) ∨
      op.Refuses a.toInt b.toInt) := by
  unfold ArithOp.apply at failed
  split at failed
  · cases failed
  next undefined =>
    have defined : op.divides = true → b.toInt ≠ 0 := fun divides isZero =>
      undefined ⟨divides, Int64.toInt_inj.mp isZero⟩
    split at failed
    · cases failed
    next large =>
      cases failed
      refine ⟨rfl, ?_⟩
      by_cases refused : op.Refuses a.toInt b.toInt
      · exact Or.inr refused
      · refine Or.inl ⟨_, gives_iff.mpr ⟨defined, rfl⟩, fun fits => large ?_⟩
        exact (fits_gauge_iff (fits_toInt a) (fits_toInt b) defined).mpr ⟨fits, refused⟩

theorem apply_eq_divisionByZero {named : BinaryOp}
    (failed : op.apply a b = .error (.divisionByZero named)) :
    named = .arith op ∧ op.divides = true ∧ b = 0 := by
  unfold ArithOp.apply at failed
  split at failed
  next undefined =>
    cases failed
    exact ⟨rfl, undefined⟩
  · split at failed <;> cases failed

/-- The step of a counter is exact. -/
theorem add_one_eq_ok_iff : ArithOp.add.apply a 1 = .ok n ↔ n.toInt = a.toInt + 1 := by
  have one : (1 : Int64).toInt = 1 := rfl
  simp [apply_eq_ok_iff, gives_iff, divides, exact, Refuses, one]

/-- What 64 bits ask of the exact operands of an operator: it has a result for them, which fits and
is not refused. -/
structure Admits (op : ArithOp) (x y : Int) : Prop where
  divisor : op.divides = true → y ≠ 0
  answered : ¬ op.Refuses x y
  result : ∀ z, op.Gives x y z → Fits z

theorem admits_of_ok (applied : op.apply a b = .ok n) : op.Admits a.toInt b.toInt := by
  obtain ⟨gives, answered⟩ := apply_eq_ok_iff.mp applied
  obtain ⟨defined, same⟩ := gives_iff.mp gives
  refine ⟨defined, answered, fun z given => ?_⟩
  rw [(gives_iff.mp given).2, ← same]
  exact fits_toInt n

end ArithOp

/-! ## Expressions -/

/-- A value over the integers without bounds. -/
inductive ExactValue where
  | int (n : Int)
  | bool (b : Bool)
  deriving DecidableEq, Repr

/-- The exact value that a value is. -/
def Value.exact : Value → ExactValue
  | .int n => .int n.toInt
  | .bool b => .bool b

theorem Value.exact_injective {value other : Value} (same : value.exact = other.exact) :
    value = other := by
  cases value <;> cases other <;> simp_all [Value.exact, Int64.toInt_inj]

/-- Whether a comparison holds of two integers without bounds. -/
def CompareOp.holdsExactly : CompareOp → Int → Int → Bool
  | .lt, a, b => decide (a < b)
  | .le, a, b => decide (a ≤ b)
  | .gt, a, b => decide (b < a)
  | .ge, a, b => decide (b ≤ a)
  | .eq, a, b => decide (a = b)

theorem CompareOp.holds_eq_exactly (op : CompareOp) (a b : Int64) :
    op.holds a b = op.holdsExactly a.toInt b.toInt := by
  cases op <;>
    simp [holds, holdsExactly, Int64.lt_iff_toInt_lt, Int64.le_iff_toInt_le, Int64.toInt_inj]

/-- `e.Denotes store value`: evaluated over the integers without bounds, the expression has this
value. -/
inductive Expr.Denotes (store : Store) : Expr → ExactValue → Prop
  | int (n : Int64) : Denotes store (.lit (.int n)) (.int n.toInt)
  | bool (b : Bool) : Denotes store (.lit (.bool b)) (.bool b)
  | var {name n} (bound : store.get? name = some n) : Denotes store (.var name) (.int n.toInt)
  | arith {op left right x y z} (first : Denotes store left (.int x))
      (second : Denotes store right (.int y)) (gives : op.Gives x y z) :
      Denotes store (.binary (.arith op) left right) (.int z)
  | compare {op left right x y} (first : Denotes store left (.int x))
      (second : Denotes store right (.int y)) :
      Denotes store (.binary (.compare op) left right) (.bool (op.holdsExactly x y))
  | and {left right p q} (first : Denotes store left (.bool p))
      (second : Denotes store right (.bool q)) :
      Denotes store (.binary .and left right) (.bool (p && q))
  | not {operand p} (found : Denotes store operand (.bool p)) :
      Denotes store (.not operand) (.bool (!p))

namespace Expr

/-- The exact operands of an expression, if it is an operation of arithmetic, are such as 64 bits
ask for. -/
def Representable (store : Store) : Expr → Prop
  | .binary (.arith op) left right =>
    ∀ x y, left.Denotes store (.int x) → right.Denotes store (.int y) → op.Admits x y
  | _ => True

variable {store : Store} {e left right : Expr} {value : Value} {fault : Fault}

theorem Denotes.unique {exact other : ExactValue} (denotes : e.Denotes store exact)
    (denotes' : e.Denotes store other) : exact = other := by
  induction denotes generalizing other with
  | int | bool =>
    cases denotes'
    rfl
  | var bound =>
    cases denotes' with
    | var bound' =>
      rw [bound] at bound'
      cases bound'
      rfl
  | arith _ _ gives leftUnique rightUnique =>
    cases denotes' with
    | arith first second gives' =>
      cases leftUnique first
      cases rightUnique second
      rw [(ArithOp.gives_iff.mp gives).2, (ArithOp.gives_iff.mp gives').2]
  | compare _ _ leftUnique rightUnique | and _ _ leftUnique rightUnique =>
    cases denotes'
    rename_i first second
    cases leftUnique first
    cases rightUnique second
    rfl
  | not _ operandUnique =>
    cases denotes' with
    | not found =>
      cases operandUnique found
      rfl

/-- An operation of arithmetic has a value only of integers. -/
theorem arith_of_ok {op : ArithOp}
    (found : (Expr.binary (.arith op) left right).eval store = .ok value) :
    ∃ a b n, left.eval store = .ok (.int a) ∧ right.eval store = .ok (.int b) ∧
      op.apply a b = .ok n ∧ value = .int n := by
  obtain ⟨first, leftFound, rest⟩ := bind_eq_ok.mp found
  obtain ⟨second, rightFound, applied⟩ := bind_eq_ok.mp rest
  cases first <;> cases second <;> simp only [BinaryOp.apply, reduceCtorEq] at applied
  rename_i a b
  cases result : op.apply a b with
  | error cause => simp [result, Except.map] at applied
  | ok n =>
    simp only [result, Except.map, Except.ok.injEq] at applied
    exact ⟨a, b, n, leftFound, rightFound, result, applied.symm⟩

/-- What evaluation finds is the exact value. -/
theorem denotes_of_ok (found : e.eval store = .ok value) : e.Denotes store value.exact := by
  induction e generalizing value with
  | lit literal =>
    cases found
    cases literal with
    | int n => exact .int n
    | bool b => exact .bool b
  | var name =>
    cases known : store.lookup name with
    | error cause =>
      rw [eval_var_of_error known] at found
      cases found
    | ok n =>
      rw [eval_var_of_ok known] at found
      cases found
      exact .var (Store.lookup_eq_ok_iff.mp known)
  | binary op left right leftDenotes rightDenotes =>
    cases op with
    | arith op =>
      obtain ⟨a, b, n, first, second, applied, rfl⟩ := arith_of_ok found
      exact .arith (leftDenotes first) (rightDenotes second)
        (ArithOp.apply_eq_ok_iff.mp applied).1
    | compare op =>
      obtain ⟨first, leftFound, rest⟩ := bind_eq_ok.mp found
      obtain ⟨second, rightFound, applied⟩ := bind_eq_ok.mp rest
      cases first <;> cases second <;> cases applied
      rw [Value.exact, CompareOp.holds_eq_exactly]
      exact .compare (leftDenotes leftFound) (rightDenotes rightFound)
    | and =>
      obtain ⟨first, leftFound, rest⟩ := bind_eq_ok.mp found
      obtain ⟨second, rightFound, applied⟩ := bind_eq_ok.mp rest
      cases first <;> cases second <;> cases applied
      exact .and (leftDenotes leftFound) (rightDenotes rightFound)
  | not operand operandDenotes =>
    obtain ⟨first, operandFound, negated⟩ := bind_eq_ok.mp found
    cases first <;> cases negated
    exact .not (operandDenotes operandFound)

/-- Where there is a value, the exact operands of the operation are those it was computed from. -/
theorem representable_of_ok (found : e.eval store = .ok value) : e.Representable store := by
  match e with
  | .binary (.arith op) left right =>
    intro x y leftExact rightExact
    obtain ⟨a, b, n, first, second, applied, _⟩ := arith_of_ok found
    cases (denotes_of_ok first).unique leftExact
    cases (denotes_of_ok second).unique rightExact
    exact ArithOp.admits_of_ok applied
  | .lit _ | .var _ | .not _ | .binary (.compare _) _ _ | .binary .and _ _ => trivial

/-- Where all parts are representable, evaluation finds the exact value. -/
theorem Denotes.eval_eq {exact : ExactValue} (denotes : e.Denotes store exact)
    (representable : ∀ part ∈ e.parts, part.Representable store) :
    ∃ value, e.eval store = .ok value ∧ value.exact = exact := by
  induction denotes with
  | int n => exact ⟨.int n, rfl, rfl⟩
  | bool b => exact ⟨.bool b, rfl, rfl⟩
  | @var name n bound =>
    exact ⟨.int n, eval_var_of_ok (Store.lookup_eq_ok_iff.mpr bound), rfl⟩
  | @arith op left right x y z first second gives leftEval rightEval =>
    simp only [parts, List.forall_mem_cons, List.forall_mem_append] at representable
    obtain ⟨self, inLeft, inRight⟩ := representable
    obtain ⟨_ | _, leftFound, same⟩ := leftEval inLeft <;> cases same
    obtain ⟨_ | _, rightFound, same⟩ := rightEval inRight <;> cases same
    rename_i a b
    have admits : op.Admits a.toInt b.toInt := self _ _ first second
    have held := toInt_ofInt_of_fits (admits.result z gives)
    have applied : op.apply a b = .ok (Int64.ofInt z) :=
      ArithOp.apply_eq_ok_iff.mpr ⟨held.symm ▸ gives, admits.answered⟩
    refine ⟨.int (Int64.ofInt z), ?_, congrArg ExactValue.int held⟩
    rw [eval_binary_of_ok leftFound rightFound, BinaryOp.apply, applied]
    rfl
  | @compare op left right x y first second leftEval rightEval =>
    simp only [parts, List.forall_mem_cons, List.forall_mem_append] at representable
    obtain ⟨_, inLeft, inRight⟩ := representable
    obtain ⟨_ | _, leftFound, same⟩ := leftEval inLeft <;> cases same
    obtain ⟨_ | _, rightFound, same⟩ := rightEval inRight <;> cases same
    rw [eval_binary_of_ok leftFound rightFound, ← CompareOp.holds_eq_exactly]
    exact ⟨_, rfl, rfl⟩
  | and first second leftEval rightEval =>
    simp only [parts, List.forall_mem_cons, List.forall_mem_append] at representable
    obtain ⟨_, inLeft, inRight⟩ := representable
    obtain ⟨_ | _, leftFound, same⟩ := leftEval inLeft <;> cases same
    obtain ⟨_ | _, rightFound, same⟩ := rightEval inRight <;> cases same
    rw [eval_binary_of_ok leftFound rightFound]
    exact ⟨_, rfl, rfl⟩
  | not found operandEval =>
    simp only [parts, List.forall_mem_cons] at representable
    obtain ⟨_ | _, operandFound, same⟩ := operandEval representable.2 <;> cases same
    rw [eval_not_of_ok operandFound]
    exact ⟨_, rfl, rfl⟩

end Expr

/-! ## Faults of numbers -/

/-- The faults that come from the numbers an operator is applied to. -/
def Fault.OfNumbers : Fault → Prop
  | .overflow _ | .divisionByZero _ => True
  | _ => False

theorem BinaryOp.arith_of_error {op : BinaryOp} {left right : Value} {fault : Fault}
    (failed : op.apply left right = .error fault) (ofNumbers : fault.OfNumbers) :
    ∃ arith a b, op = .arith arith ∧ left = .int a ∧ right = .int b ∧
      arith.apply a b = .error fault := by
  unfold BinaryOp.apply at failed
  split at failed
  next arith a b =>
    refine ⟨arith, a, b, rfl, rfl, rfl, ?_⟩
    cases result : arith.apply a b with
    | error cause => simpa [result, Except.map] using failed
    | ok n => simp [result, Except.map] at failed
  next => cases failed
  next => cases failed
  next =>
    cases failed
    exact ofNumbers.elim

namespace Expr

variable {store : Store} {e : Expr} {fault : Fault}

/-- A fault of numbers is that of an operation whose operands are integers. -/
theorem exists_operation_of_error (failed : e.eval store = .error fault)
    (ofNumbers : fault.OfNumbers) :
    ∃ op left right a b, .binary (.arith op) left right ∈ e.parts ∧
      left.eval store = .ok (.int a) ∧ right.eval store = .ok (.int b) ∧
      op.apply a b = .error fault := by
  obtain ⟨part, inside, own⟩ := exists_stepFault?_of_error failed
  cases part with
  | lit value => cases own
  | var name =>
    rw [stepFault?_var] at own
    cases known : store.lookup name with
    | ok n => simp [known, faultOf] at own
    | error cause =>
      simp only [known, faultOf, Option.some.injEq] at own
      rw [← own, (Store.lookup_eq_error_iff.mp known).2] at ofNumbers
      exact ofNumbers.elim
  | binary op left right =>
    obtain ⟨first, second, leftFound, rightFound, applied⟩ := apply_of_stepFault? own
    obtain ⟨arith, a, b, rfl, rfl, rfl, result⟩ := BinaryOp.arith_of_error applied ofNumbers
    exact ⟨arith, left, right, a, b, inside, leftFound, rightFound, result⟩
  | not operand =>
    obtain ⟨first, _, negated⟩ := negate_of_stepFault? own
    cases first <;> cases negated
    exact ofNumbers.elim

/-- Evaluation finds a value if and only if it is the exact value and every operation on the way has
an exact result that 64 bits hold, with no divisor zero and no remainder of the least integer by
minus one. An overflow names the operation of a part whose operands have values and whose exact
result does not fit, or of such a remainder; a division by zero names the operator of a part whose
divisor is zero. An integer that is found is never another than the exact one. -/
theorem eval_refines_exact (store : Store) (e : Expr) :
    (∀ value, e.eval store = .ok value ↔
      e.Denotes store value.exact ∧ ∀ part ∈ e.parts, part.Representable store) ∧
    (∀ fault operation, e.eval store = .error fault →
      fault.diagnostic = .integerOverflow operation →
      ∃ op left right a b, .binary (.arith op) left right ∈ e.parts ∧ op.operation = operation ∧
        left.eval store = .ok (.int a) ∧ right.eval store = .ok (.int b) ∧
        ((∃ z, op.Gives a.toInt b.toInt z ∧ ¬ Fits z) ∨ op.Refuses a.toInt b.toInt)) ∧
    (∀ fault op, e.eval store = .error fault → fault.diagnostic = .divisionByZero op →
      ∃ left right a, .binary op left right ∈ e.parts ∧
        (op = .arith .div ∨ op = .arith .mod) ∧
        left.eval store = .ok (.int a) ∧ right.eval store = .ok (.int 0)) ∧
    ∀ n exact, e.eval store = .ok (.int n) → e.Denotes store exact → exact = .int n.toInt := by
  refine ⟨fun value => ⟨fun found => ?_, fun ⟨denotes, representable⟩ => ?_⟩, ?_, ?_, ?_⟩
  · refine ⟨denotes_of_ok found, fun part inside => ?_⟩
    obtain ⟨partValue, partFound⟩ := eval_part_of_ok found inside
    exact representable_of_ok partFound
  · obtain ⟨found, evaluated, same⟩ := denotes.eval_eq representable
    rw [evaluated, Value.exact_injective same]
  · intro fault operation failed reported
    cases fault <;> cases reported
    obtain ⟨op, left, right, a, b, inside, leftFound, rightFound, applied⟩ :=
      exists_operation_of_error failed trivial
    obtain ⟨rfl, cause⟩ := ArithOp.apply_eq_overflow applied
    exact ⟨_, left, right, a, b, inside, rfl, leftFound, rightFound, cause⟩
  · intro fault op failed reported
    cases fault <;> cases reported
    obtain ⟨arith, left, right, a, b, inside, leftFound, rightFound, applied⟩ :=
      exists_operation_of_error failed trivial
    obtain ⟨rfl, divides, rfl⟩ := ArithOp.apply_eq_divisionByZero applied
    refine ⟨left, right, a, inside, ?_, leftFound, rightFound⟩
    cases arith <;> simp [ArithOp.divides] at divides ⊢
  · intro n exact found denotes
    exact denotes.unique (denotes_of_ok found)

example : (Expr.mod (.int (-9223372036854775808)) (.int (-1))).eval .empty =
    .error (.overflow .mod) :=
  rfl

end Expr

end ImpLang
