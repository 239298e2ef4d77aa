import ImpLang.Proofs.CourseRules
import ImpLang.Proofs.ExactValue
import ImpLang.Proofs.Frame
import ImpLang.Proofs.Observation

/-!
# Ranges of counting loops

A counting loop whose body leaves the counter and the bound alone begins its bodies with the numbers
of its range, one after the other. One round takes the counter one further (`Counting.next`), and so
any number of rounds within the range does that many times (`Standing.run`). What is left are the
ends: the range is used up, a limit is, or the counter is at the greatest integer.
-/

namespace ImpLang

/-! ## Counting rounds -/

namespace LoopControl

/-- The count of rounds is this number, unless no limit can be exceeded. -/
def Counted (limit : Option UInt64) (rounds : UInt64) (number : Nat) : Prop :=
  ∀ most, limit = some most → most < 18446744073709551615 → rounds.toNat = number

/-- So many rounds are within the limit, unless none can be exceeded. -/
def Allowed (limit : Option UInt64) (number : Nat) : Prop :=
  ∀ most, limit = some most → most < 18446744073709551615 → number ≤ most.toNat

variable {limit : Option UInt64} {rounds : UInt64} {number : Nat}

theorem Counted.zero (limit : Option UInt64) : Counted limit 0 0 :=
  fun _ _ _ => rfl

theorem Allowed.mono {fewer : Nat} (allowed : Allowed limit number) (le : fewer ≤ number) :
    Allowed limit fewer :=
  fun most limited below => Nat.le_trans le (allowed most limited below)

theorem Counted.begin (counted : Counted limit rounds number)
    (allowed : Allowed limit (number + 1)) :
    ∃ more, beginRound limit rounds = .ok more ∧ Counted limit more (number + 1) := by
  cases limit with
  | none => exact ⟨_, rfl, nofun⟩
  | some most =>
    by_cases below : most < 18446744073709551615
    · have same := counted most rfl below
      have room := allowed most rfl below
      cases begun : beginRound (some most) rounds with
      | error fault =>
        have full := (toNat_of_refused (by omega) begun).1
        omega
      | ok more =>
        refine ⟨more, rfl, fun _ _ _ => ?_⟩
        rw [(toNat_of_beginRound below begun).1, same]
    · -- No count exceeds the greatest limit, so there is nothing to know about it.
      have greatest : most = 18446744073709551615 := by
        have least := UInt64.le_iff_toNat_le.mp (UInt64.not_lt.mp below)
        have size := most.toNat_lt
        apply UInt64.toNat_inj.mp
        have value : (18446744073709551615 : UInt64).toNat = 18446744073709551615 := rfl
        omega
      rw [greatest, beginRound_greatest]
      refine ⟨_, rfl, ?_⟩
      rintro _ ⟨⟩ impossible
      exact absurd impossible (by decide)

theorem Counted.refuse {most : UInt64} (below : most < 18446744073709551615)
    (counted : Counted (some most) rounds most.toNat) :
    beginRound (some most) rounds = .error (.budgetExceeded most) := by
  have same := counted most rfl below
  cases begun : beginRound (some most) rounds with
  | error fault => rw [(toNat_of_refused (by omega) begun).2]
  | ok more =>
    have counts := toNat_of_beginRound below begun
    omega

end LoopControl

/-! ## Rounds of a counting loop -/

/-- The counter of a loop is not in its bound, and its body writes neither the counter nor a
variable of the bound. -/
structure Undisturbed (counter : Name) (high : Expr) (body : Stmt) : Prop where
  unmentioned : counter ∉ high.vars
  kept : counter ∉ body.targets
  fixed : Disjoint body.targets high.vars

/-- The counter and the bound of a loop have these values. -/
structure Counting (counter : Name) (high : Expr) (bound current : Int64) (store : Store) :
    Prop where
  counter : store.get? counter = some current
  bound : high.eval store = .ok (.int bound)

namespace Counting

variable {counter : Name} {high : Expr} {body : Stmt} {bound current : Int64} {store : Store}

theorem set (unmentioned : counter ∉ high.vars) (bounded : high.eval store = .ok (.int bound))
    (current : Int64) : Counting counter high bound current (store.bind counter current) := by
  refine ⟨by simp, ?_⟩
  have agree : (store.bind counter current).AgreeOn ↑high.vars store := by
    intro name member
    have different : name ≠ counter := fun same => unmentioned (same ▸ member)
    rw [Store.get?_bind, if_neg different]
  rw [Expr.eval_agreeOn agree subset_rfl, bounded]

theorem enter (counting : Counting counter high bound current store) :
    (LoopControl.forTo counter high).enter store = .ok (decide (current ≤ bound)) :=
  LoopControl.enter_forTo_ok.mpr ⟨current, bound, Store.lookup_eq_ok_iff.mpr counting.counter,
    Expr.evalInt_eq_ok_iff.mpr counting.bound, rfl⟩

theorem after (counting : Counting counter high bound current store)
    (undisturbed : Undisturbed counter high body) {final : Store}
    (framed : store.FramedBy body.targets final) : Counting counter high bound current final := by
  refine ⟨?_, ?_⟩
  · rw [framed.others counter undisturbed.kept, counting.counter]
  · have agree : final.AgreeOn ↑high.vars store := fun name member =>
      framed.others name (Finset.disjoint_right.mp undisturbed.fixed member)
    rw [Expr.eval_agreeOn agree subset_rfl, counting.bound]

/-- The step of the counter, as long as there is a greater integer. -/
theorem next (counting : Counting counter high bound current store)
    (unmentioned : counter ∉ high.vars) (room : current.toInt < 9223372036854775807) :
    ∃ increased : Int64, increased.toInt = current.toInt + 1 ∧
      (LoopControl.forTo counter high).leave store = .ok (store.bind counter increased, true) ∧
      Counting counter high bound increased (store.bind counter increased) := by
  have low := (fits_toInt current).1
  have same : (Int64.ofInt (current.toInt + 1)).toInt = current.toInt + 1 :=
    toInt_ofInt_of_fits ⟨by omega, by omega⟩
  refine ⟨_, same, ?_, .set unmentioned counting.bound _⟩
  exact LoopControl.leave_forTo_ok.mpr ⟨current, _, Store.lookup_eq_ok_iff.mpr counting.counter,
    ArithOp.add_one_eq_ok_iff.mpr same, rfl, rfl⟩

theorem overflows (counting : Counting counter high bound current store)
    (greatest : current.toInt = 9223372036854775807) :
    (LoopControl.forTo counter high).leave store = .error (.overflow .add) := by
  have same : current = 9223372036854775807 := Int64.toInt_inj.mp greatest
  refine LoopControl.leave_forTo_error.mpr (Or.inr ⟨current,
    Store.lookup_eq_ok_iff.mpr counting.counter, ?_⟩)
  rw [same]
  rfl

end Counting

/-! ## Runs of rounds -/

/-- Bodies began with the numbers from the first one on, in turn. -/
def Visits (counter : Name) (begun : List (Store × Console)) (first : Int) (number : Nat) : Prop :=
  begun.map (fun start => (start.1.get? counter).map Int64.toInt) =
    (List.range number).map fun k : Nat => some (first + k)

theorem Visits.nil (counter : Name) (first : Int) : Visits counter [] first 0 := rfl

theorem Visits.snoc {counter : Name} {begun : List (Store × Console)} {first : Int} {number : Nat}
    (visits : Visits counter begun first number) {store : Store} {current : Int64}
    (counted : store.get? counter = some current) (same : current.toInt = first + number)
    (console : Console) : Visits counter (begun ++ [(store, console)]) first (number + 1) := by
  rw [Visits] at visits ⊢
  rw [List.map_append, List.range_succ, List.map_append, visits]
  simp [counted, same]

/-- A counting loop stands before a round, with so many rounds behind it: the counter is as far from
where it began, and all bodies from here on are done. -/
structure Standing (settings : Settings) (counter : Name) (high : Expr) (body : Stmt)
    (low bound : Int64) (number : Nat) (rounds : UInt64) (store : Store) (console : Console) :
    Prop where
  counting : ∃ current : Int64, current.toInt = low.toInt + number ∧
    Counting counter high bound current store
  counted : LoopControl.Counted settings.maxIterations rounds number
  succeeds : ∀ here now,
    (LoopControl.forTo counter high).Begins settings body rounds store console here now →
    ∃ after between, body.EndsIn settings here now (.done after between)

namespace Standing

variable {settings : Settings} {counter : Name} {high : Expr} {body : Stmt} {low bound : Int64}
  {number : Nat} {rounds : UInt64} {store : Store} {console : Console}

theorem enters
    (standing : Standing settings counter high body low bound number rounds store console)
    (within : low.toInt + number ≤ bound.toInt) :
    (LoopControl.forTo counter high).enter store = .ok true := by
  obtain ⟨current, same, counting⟩ := standing.counting
  rw [counting.enter, decide_eq_true (Int64.le_iff_toInt_le.mpr (by omega))]

/-- Within the range and the limit the next body begins and is done, and does not disturb. -/
theorem begins
    (standing : Standing settings counter high body low bound number rounds store console)
    (undisturbed : Undisturbed counter high body) (within : low.toInt + number ≤ bound.toInt)
    (allowed : LoopControl.Allowed settings.maxIterations (number + 1)) :
    ∃ more after between, LoopControl.beginRound settings.maxIterations rounds = .ok more ∧
      LoopControl.Counted settings.maxIterations more (number + 1) ∧
      body.EndsIn settings store console (.done after between) ∧
      ∃ current : Int64, current.toInt = low.toInt + number ∧
        Counting counter high bound current after := by
  obtain ⟨current, same, counting⟩ := standing.counting
  obtain ⟨more, begun, counted⟩ := standing.counted.begin allowed
  obtain ⟨after, between, ran⟩ :=
    standing.succeeds store console (.first (standing.enters within) begun)
  exact ⟨more, after, between, begun, counted, ran, current, same,
    counting.after undisturbed ran.framed⟩

/-- One round takes the counter one further. -/
theorem step (standing : Standing settings counter high body low bound number rounds store console)
    (undisturbed : Undisturbed counter high body) (within : low.toInt + number ≤ bound.toInt)
    (room : low.toInt + number < 9223372036854775807)
    (allowed : LoopControl.Allowed settings.maxIterations (number + 1)) :
    ∃ more next between,
      Standing settings counter high body low bound (number + 1) more next between ∧
      ∀ course, (LoopControl.forTo counter high).Takes settings body more next between course →
        (LoopControl.forTo counter high).Takes settings body rounds store console
          (course.after store console) := by
  have entered := standing.enters within
  obtain ⟨more, after, between, begun, counted, ran, current, same, counting⟩ :=
    standing.begins undisturbed within allowed
  obtain ⟨increased, further, left, counting⟩ :=
    counting.next undisturbed.unmentioned (by omega)
  refine ⟨more, _, between, ⟨⟨increased, by omega, counting⟩, counted, ?_⟩, ?_⟩
  · exact fun here now later => standing.succeeds here now (.later entered begun ran left later)
  · exact fun course goesOn => .again entered begun ran left goesOn

/-- Any number of rounds takes the counter as far, and whatever the loop does after them, it has
had their bodies before. -/
theorem run (start : Standing settings counter high body low bound 0 rounds store console)
    (undisturbed : Undisturbed counter high body) (number : Nat)
    (within : low.toInt + number ≤ bound.toInt + 1)
    (room : low.toInt + number ≤ 9223372036854775807)
    (allowed : LoopControl.Allowed settings.maxIterations number) :
    ∃ begun more next between, Visits counter begun low.toInt number ∧
      Standing settings counter high body low bound number more next between ∧
      ∀ course, (LoopControl.forTo counter high).Takes settings body more next between course →
        (LoopControl.forTo counter high).Takes settings body rounds store console
          { course with begun := begun ++ course.begun } := by
  -- The last of the rounds is split off: up to it the loop has only been extended at its end.
  induction number with
  | zero => exact ⟨[], rounds, store, console, .nil _ _, start, fun _ takes => takes⟩
  | succ number ih =>
    obtain ⟨begun, more, next, between, visits, standing, follows⟩ :=
      ih (by omega) (by omega) (allowed.mono (Nat.le_succ number))
    obtain ⟨current, same, counting⟩ := standing.counting
    obtain ⟨more', next', between', standing', follows'⟩ :=
      standing.step undisturbed (by omega) (by omega) allowed
    refine ⟨begun ++ [(next, between)], more', next', between',
      visits.snoc counting.counter same between, standing', fun course takes => ?_⟩
    rw [List.append_assoc]
    exact follows _ (follows' course takes)

/-! There are three ends. Beyond the range the loop stops, within it a limit refuses the next round,
and at the greatest integer the step of the counter fails after the last body. -/

theorem stops (standing : Standing settings counter high body low bound number rounds store console)
    (beyond : bound.toInt < low.toInt + number) :
    ∃ after, (LoopControl.forTo counter high).Takes settings body rounds store console
      (.still (.done store after)) := by
  obtain ⟨current, same, counting⟩ := standing.counting
  refine ⟨_, .stop ?_⟩
  rw [counting.enter, decide_eq_false (fun le => ?_)]
  have inside := Int64.le_iff_toInt_le.mp le
  omega

theorem through (start : Standing settings counter high body low bound 0 rounds store console)
    (undisturbed : Undisturbed counter high body) {size : Nat}
    (isSize : low.toInt + size = bound.toInt + 1) (room : bound.toInt < 9223372036854775807)
    (allowed : LoopControl.Allowed settings.maxIterations size) :
    ∃ course final after, (LoopControl.forTo counter high).Takes settings body rounds store console
        course ∧
      Visits counter course.begun low.toInt size ∧ course.outcome = .done final after ∧
      ∃ past : Int64, final.get? counter = some past ∧ past.toInt = bound.toInt + 1 := by
  obtain ⟨begun, more, next, between, visits, standing, follows⟩ :=
    start.run undisturbed size (by omega) (by omega) allowed
  obtain ⟨past, same, counting⟩ := standing.counting
  obtain ⟨after, takes⟩ := standing.stops (by omega)
  refine ⟨_, next, after, follows _ takes, ?_, rfl, past, counting.counter, by omega⟩
  simpa [Course.still] using visits

theorem cut (start : Standing settings counter high body low bound 0 rounds store console)
    (undisturbed : Undisturbed counter high body) {most : UInt64}
    (limited : settings.maxIterations = some most) (below : most < 18446744073709551615)
    (within : low.toInt + most.toNat ≤ bound.toInt) :
    ∃ course after, (LoopControl.forTo counter high).Takes settings body rounds store console
        course ∧
      Visits counter course.begun low.toInt most.toNat ∧
      course.outcome = .failed (.budgetExceeded most) after := by
  have top := (fits_toInt bound).2
  have allowed : LoopControl.Allowed settings.maxIterations most.toNat := by
    intro most' limited' _
    rw [limited] at limited'
    cases limited'
    exact Nat.le_refl _
  obtain ⟨begun, more, next, between, visits, standing, follows⟩ :=
    start.run undisturbed most.toNat (by omega) (by omega) allowed
  have refused : LoopControl.beginRound settings.maxIterations more =
      .error (.budgetExceeded most) := by
    rw [limited]
    exact LoopControl.Counted.refuse below (limited ▸ standing.counted)
  refine ⟨_, between, follows _ (.refused (standing.enters within) refused), ?_, rfl⟩
  simpa using visits

theorem overflows (start : Standing settings counter high body low bound 0 rounds store console)
    (undisturbed : Undisturbed counter high body) {size : Nat}
    (isSize : low.toInt + size = bound.toInt + 1) (isPositive : 0 < size)
    (greatest : bound.toInt = 9223372036854775807)
    (allowed : LoopControl.Allowed settings.maxIterations size) :
    ∃ course after, (LoopControl.forTo counter high).Takes settings body rounds store console
        course ∧
      Visits counter course.begun low.toInt size ∧
      course.outcome = .failed (.overflow .add) after := by
  -- The last body begins like the others, but there is no step of the counter after it.
  obtain ⟨number, rfl⟩ : ∃ number, size = number + 1 := ⟨size - 1, by omega⟩
  obtain ⟨begun, more, next, between, visits, standing, follows⟩ :=
    start.run undisturbed number (by omega) (by omega) (allowed.mono (Nat.le_succ number))
  obtain ⟨current, same, counting⟩ := standing.counting
  have entered := standing.enters (by omega)
  obtain ⟨_, _, last, began, _, ran, current', same', counting'⟩ :=
    standing.begins undisturbed (by omega) allowed
  have failed := counting'.overflows (by omega)
  refine ⟨_, last, follows _ (.leaveFails entered began ran failed), ?_, rfl⟩
  exact visits.snoc counting.counter same between

end Standing

namespace Stmt

/-- A loop ends in this outcome, after so many bodies, which began with the numbers from the first
one on. -/
def CountsThrough (settings : Settings) (s : Stmt) (store : Store) (console : Console)
    (counter : Name) (first : Int) (number : Nat) (outcome : Outcome Fault) : Prop :=
  s.EndsIn settings store console outcome ∧
  ∃ course, s.Takes settings store console course ∧ course.outcome = outcome ∧
    Visits counter course.begun first number

theorem Opens.countsThrough {settings : Settings} {s body : Stmt} {store first : Store}
    {control : LoopControl} (opens : s.Opens store control body first) {console : Console}
    {course : Course} (takes : control.Takes settings body 0 first console course) {counter : Name}
    {least : Int} {number : Nat} (visits : Visits counter course.begun least number) :
    s.CountsThrough settings store console counter least number course.outcome :=
  have taken := opens.takes_iff.mpr takes
  ⟨taken.ends, course, taken, rfl, visits⟩

/-- A counting loop goes through its range. Let its bounds have values, let its body write neither
the counter nor a variable of the upper bound, in which the counter is not, and let all bodies that
it begins be done. With an empty range there is no body, and the counter is left at the lower bound.
With a limit below the size of the range there are as many bodies as the limit, and the count
refuses the next. In all other cases there is one body for each number of the range, and the
counter is left one above the upper bound or, if that is the greatest integer, overflows. -/
theorem forTo_counts_through_range (settings : Settings) (counter : Name) (low high : Expr)
    (body : Stmt) (store : Store) (console : Console) (l h : Int64)
    (started : low.eval store = .ok (.int l)) (bounded : high.eval store = .ok (.int h))
    (undisturbed : Undisturbed counter high body)
    (succeeds : ∀ here now,
      (Stmt.forTo counter low high body).Begins settings store console here now →
      ∃ after between, body.EndsIn settings here now (.done after between)) :
    (h < l → ∃ final after,
      (Stmt.forTo counter low high body).CountsThrough settings store console counter l.toInt 0
        (.done final after) ∧
      final.get? counter = some l) ∧
    (∀ most, l ≤ h → settings.maxIterations = some most → most < 18446744073709551615 →
      most.toNat < h.toInt - l.toInt + 1 → ∃ after,
        (Stmt.forTo counter low high body).CountsThrough settings store console counter l.toInt
          most.toNat (.failed (.budgetExceeded most) after)) ∧
    ∀ size : Nat, l ≤ h → size = h.toInt - l.toInt + 1 →
      (∀ most, settings.maxIterations = some most → most < 18446744073709551615 →
        size ≤ most.toNat) →
      (h < 9223372036854775807 → ∃ final after past,
        (Stmt.forTo counter low high body).CountsThrough settings store console counter l.toInt
          size (.done final after) ∧
        final.get? counter = some past ∧ past.toInt = h.toInt + 1) ∧
      (h = 9223372036854775807 → ∃ after,
        (Stmt.forTo counter low high body).CountsThrough settings store console counter l.toInt
          size (.failed (.overflow .add) after)) := by
  have opens : (Stmt.forTo counter low high body).Opens store (.forTo counter high) body
      (store.bind counter l) := .forTo (Expr.evalInt_eq_ok_iff.mpr started)
  have start : Standing settings counter high body l h 0 0 (store.bind counter l) console :=
    { counting := ⟨l, by simp, .set undisturbed.unmentioned bounded l⟩
      counted := .zero _
      succeeds := fun here now begins => succeeds here now (opens.begins_iff.mpr begins) }
  refine ⟨?_, ?_, ?_⟩
  · intro empty
    have above := Int64.lt_iff_toInt_lt.mp empty
    obtain ⟨after, takes⟩ := start.stops (by omega)
    exact ⟨_, after, opens.countsThrough takes (.nil _ _), by simp⟩
  · intro most ordered limited below small
    obtain ⟨course, after, takes, visits, fails⟩ :=
      start.cut undisturbed limited below (by omega)
    exact ⟨after, fails ▸ opens.countsThrough takes visits⟩
  · intro size ordered isSize allowed
    have ordered := Int64.le_iff_toInt_le.mp ordered
    constructor
    · intro inside
      have room : h.toInt < 9223372036854775807 := Int64.lt_iff_toInt_lt.mp inside
      obtain ⟨course, final, after, takes, visits, done, past, counted, same⟩ :=
        start.through undisturbed (by omega) room allowed
      exact ⟨final, after, past, done ▸ opens.countsThrough takes visits, counted, same⟩
    · rintro rfl
      obtain ⟨course, after, takes, visits, fails⟩ :=
        start.overflows undisturbed (by omega) (by omega) rfl allowed
      exact ⟨after, fails ▸ opens.countsThrough takes visits⟩

/-- A loop up to the value of a variable: with an empty range, cut at two rounds, through its whole
range, and up to the greatest integer. -/
theorem forTo_counts_through_range_variable :
    ∃ (loop : Int64 → Stmt) (start : Int64 → Store) (console : Console),
      loop = (fun l => .forTo ⟨"i"⟩ (.int l) (.named "n") (.assign ⟨"s"⟩ (.int 0))) ∧
      start = (fun h => .ofEntries [(⟨"n"⟩, h)]) ∧
      (∃ final after, (loop 3).CountsThrough {} (start 2) console ⟨"i"⟩ 3 0 (.done final after) ∧
        final.get? ⟨"i"⟩ = some 3) ∧
      (∃ after, (loop (-1)).CountsThrough { maxIterations := some 2 } (start 1) console ⟨"i"⟩ (-1) 2
        (.failed (.budgetExceeded 2) after)) ∧
      (∃ final after past, (loop (-1)).CountsThrough {} (start 1) console ⟨"i"⟩ (-1) 3
        (.done final after) ∧ final.get? ⟨"i"⟩ = some past ∧ past.toInt = 2) ∧
      ∃ after, (loop 9223372036854775806).CountsThrough {} (start 9223372036854775807) console
        ⟨"i"⟩ 9223372036854775806 2 (.failed (.overflow .add) after) := by
  have undisturbed : Undisturbed ⟨"i"⟩ (.named "n") (.assign ⟨"s"⟩ (.int 0)) :=
    ⟨by decide, by decide, by decide⟩
  have succeeds (settings : Settings) (here : Store) (now : Console) :
      ∃ after between, (Stmt.assign ⟨"s"⟩ (.int 0)).EndsIn settings here now
        (.done after between) :=
    ⟨here.bind ⟨"s"⟩ 0, now.record (.assigned ⟨"s"⟩ 0), nofun, 0, rfl⟩
  have rule (settings : Settings) (l h : Int64) :=
    forTo_counts_through_range settings ⟨"i"⟩ (.int l) (.named "n") (.assign ⟨"s"⟩ (.int 0))
      (.ofEntries [(⟨"n"⟩, h)]) { source := .script [], sink := .buffer } l h rfl rfl undisturbed
      fun here now _ => succeeds settings here now
  refine ⟨_, _, { source := .script [], sink := .buffer }, rfl, rfl, ?_, ?_, ?_, ?_⟩
  · exact (rule {} 3 2).1 (by decide)
  · exact (rule { maxIterations := some 2 } (-1) 1).2.1 2 (by decide) rfl (by decide) (by decide)
  · exact ((rule {} (-1) 1).2.2 3 (by decide) rfl nofun).1 (by decide)
  · exact ((rule {} 9223372036854775806 9223372036854775807).2.2 2 (by decide) rfl nofun).2 rfl

end Stmt

end ImpLang
