import ImpLang.Proofs.Budget
import ImpLang.Proofs.Parts

/-!
# One statement on two consoles

The same statement runs from one store on two consoles that match. If matching consoles offer the
same lines and match again after each line read or printed and each event, then the second run
mirrors the first: it goes through the same stores and ends in the same way, on a matching console.
Only where the second source has a line more may the two part: the first run then fails for want of
input, and the second goes on from the console after that line. What it takes for consoles to match
is checked line by line (`Console.Mirror`), every loop and every statement follows, and for a
statement that neither reads nor prints there is nothing to check but that events may be left
(`exec_mirrors_of_parts`). That a line was refused is never left on record by itself, but only by
printing the line. Where the two never part, a program diverges on both consoles or has the same
result on both (`Program.mirrored`).
-/

namespace ImpLang

/-- The second outcome is the first one on a matching console, unless the first run has to stop and
the second goes on. -/
inductive Outcome.Mirrors (matched : Console → Console → Prop)
    (stops : Fault → Console → Console → Prop) : Outcome Fault → Outcome Fault → Prop
  | done (store : Store) {console console' : Console} (same : matched console console') :
      Mirrors matched stops (.done store console) (.done store console')
  | failed (fault : Fault) {console console' : Console} (same : matched console console') :
      Mirrors matched stops (.failed fault console) (.failed fault console')
  /-- Whatever the second run does comes after the given console. -/
  | parted {fault : Fault} {console between : Console} {outcome : Outcome Fault}
      (stopped : stops fault console between) (goesOn : outcome.After between) :
      Mirrors matched stops (.failed fault console) outcome
  | outOfFuel : Mirrors matched stops .outOfFuel .outOfFuel

/-- What two consoles have for a reader: nothing, the same line, or a line on the second only. -/
inductive Console.Offers (matched : Console → Console → Prop)
    (stops : Fault → Console → Console → Prop) (console console' : Console) : Prop
  | closed (first : console.source.next? = none) (second : console'.source.next? = none)
      (same : matched console.starve console'.starve)
  | line {text : String} {rest rest' : Source} (first : console.source.next? = some (text, rest))
      (second : console'.source.next? = some (text, rest'))
      (same : matched { console with source := rest } { console' with source := rest' })
  | more {text : String} {rest : Source} (first : console.source.next? = none)
      (second : console'.source.next? = some (text, rest))
      (stopped : ∀ target,
        stops (.inputClosed target) console.starve { console' with source := rest })

/-- Whether an event says that a line was refused. -/
def Event.isRefusal : Event → Bool
  | .writeFailed _ => true
  | _ => false

/-- Consoles that match do so after each thing that a run can do to them. The prompts of the two
runs may differ. -/
structure Console.Mirror (prompt prompt' : String) (matched : Console → Console → Prop)
    (stops : Fault → Console → Console → Prop) : Prop where
  record : ∀ {console console' : Console} (event : Event), event.isRefusal = false →
    matched console console' → matched (console.record event) (console'.record event)
  write : ∀ {console console' : Console} (text : String), matched console console' →
    matched (console.print (.written text)) (console'.print (.written text))
  ask : ∀ {console console' : Console}, matched console console' →
    matched (console.print (.prompt prompt)) (console'.print (.prompt prompt'))
  offers : ∀ {console console' : Console}, matched console console' →
    console.Offers matched stops console'

/-- Two consoles that are the same but for their sources, which are related. -/
def Console.BySource (related : Source → Source → Prop) (console console' : Console) : Prop :=
  ∃ source, related console.source source ∧ console' = { console with source := source }

variable {matched : Console → Console → Prop} {stops : Fault → Console → Console → Prop}

/-- Consoles that are the same but for their sources match if these offer the same lines. -/
theorem Console.Mirror.bySource (prompt : String) {related : Source → Source → Prop}
    (offers : ∀ {console : Console} {source : Source}, related console.source source →
      console.Offers (BySource related) stops { console with source := source }) :
    Mirror prompt prompt (BySource related) stops where
  record := by
    rintro console _ event _ ⟨source, same, rfl⟩
    exact ⟨source, same, rfl⟩
  write := by
    rintro console _ text ⟨source, same, rfl⟩
    exact ⟨source, same, rfl⟩
  ask := by
    rintro console _ ⟨source, same, rfl⟩
    exact ⟨source, same, rfl⟩
  offers := by
    rintro console _ ⟨source, same, rfl⟩
    exact offers same

namespace Outcome.Mirrors

theorem andThen {outcome outcome' : Outcome Fault} {next next' : Store → Console → Outcome Fault}
    (first : outcome.Mirrors matched stops outcome')
    (rest : ∀ store console console', matched console console' →
      (next store console).Mirrors matched stops (next' store console'))
    (goesOn : ∀ store console, (next' store console).After console) :
    (outcome.andThen next).Mirrors matched stops (outcome'.andThen next') := by
  cases first with
  | done store same => exact rest store _ _ same
  | failed fault same => exact .failed fault same
  | parted stopped later =>
    refine .parted stopped (later.andThen fun store console reached => ?_)
    exact (goesOn store console).trans reached
  | outOfFuel => exact .outOfFuel

theorem attempt {α : Type} (result : Except Fault α) {console console' : Console}
    {next next' : α → Outcome Fault} (same : matched console console')
    (rest : ∀ value, (next value).Mirrors matched stops (next' value)) :
    (Outcome.attempt result console next).Mirrors matched stops
      (Outcome.attempt result console' next') := by
  cases result with
  | error fault => exact .failed fault same
  | ok value => exact rest value

/-- Where the first run comes to an end, the second does so in the same way, or goes on after the
first has stopped. -/
theorem of_first {ending : Ending} {after : Console} {outcome : Outcome Fault}
    (mirrors : (ending.on after).Mirrors matched stops outcome) :
    (∃ after', outcome = ending.on after' ∧ matched after after') ∨
      ∃ fault between, ending = .failed fault ∧ stops fault after between ∧
        outcome.After between := by
  cases ending with
  | done store => cases mirrors with | done _ same => exact Or.inl ⟨_, rfl, same⟩
  | failed fault =>
    cases mirrors with
    | failed _ same => exact Or.inl ⟨_, rfl, same⟩
    | parted stopped goesOn => exact Or.inr ⟨fault, _, rfl, stopped, goesOn⟩

/-- Where the second run comes to an end, the first has done so in the same way, or has stopped
before. -/
theorem of_second {outcome : Outcome Fault} {ending : Ending} {after : Console}
    (mirrors : outcome.Mirrors matched stops (ending.on after)) :
    (∃ before, outcome = ending.on before ∧ matched before after) ∨
      ∃ fault before between, outcome = .failed fault before ∧ stops fault before between ∧
        between.Precedes after := by
  generalize known : ending.on after = outcome' at mirrors
  cases mirrors with
  | done store same =>
    obtain ⟨rfl, rfl⟩ := Ending.on_inj (known.trans (rfl : _ = (Ending.done store).on _))
    exact Or.inl ⟨_, rfl, same⟩
  | failed fault same =>
    obtain ⟨rfl, rfl⟩ := Ending.on_inj (known.trans (rfl : _ = (Ending.failed fault).on _))
    exact Or.inl ⟨_, rfl, same⟩
  | parted stopped goesOn =>
    rw [← known] at goesOn
    exact Or.inr ⟨_, _, _, rfl, stopped, goesOn.precedes⟩
  | outOfFuel => exact absurd known (ending.on_ne_outOfFuel after)

/-- Where the second run never goes on alone, the two end together. -/
theorem rel {outcome outcome' : Outcome Fault}
    (mirrors : outcome.Mirrors matched (fun _ _ _ => False) outcome') :
    outcome.Rel (fun store console store' console' => store = store' ∧ matched console console')
      (fun fault console fault' console' => fault = fault' ∧ matched console console')
      outcome' := by
  cases mirrors with
  | done store same => exact .done ⟨rfl, same⟩
  | failed fault same => exact .failed ⟨rfl, same⟩
  | parted stopped => exact stopped.elim
  | outOfFuel => exact .outOfFuel

end Outcome.Mirrors

/-- Round by round: the stores are the same, so both loops get the same answers and count the same
rounds. -/
theorem LoopControl.iterate_mirrors (control : LoopControl) (limit : Option UInt64)
    {body body' : Store → Console → Outcome Fault}
    (record : ∀ {console console' : Console} (event : Event), event.isRefusal = false →
      matched console console' → matched (console.record event) (console'.record event))
    (bodyMirrors : ∀ store console console', matched console console' →
      (body store console).Mirrors matched stops (body' store console'))
    (bodyAfter : ∀ store console, (body' store console).After console)
    (fuel : Nat) (rounds : UInt64) (store : Store) {console console' : Console}
    (start : matched console console') :
    (control.iterate limit body fuel rounds store console).Mirrors matched stops
      (control.iterate limit body' fuel rounds store console') := by
  induction fuel generalizing rounds store console console' with
  | zero => exact .outOfFuel
  | succ fuel ih =>
    rw [iterate_succ, iterate_succ]
    refine .attempt _ start fun begins => ?_
    cases begins with
    | false => exact .done store (record _ rfl start)
    | true =>
      refine .attempt _ start fun counted => ?_
      refine (bodyMirrors store console console' start).andThen ?_ ?_
      · intro left between between' reached
        refine .attempt _ reached fun result => ?_
        obtain ⟨next, again⟩ := result
        cases again with
        | false => exact .done next (record _ rfl reached)
        | true => exact ih counted next reached
      · intro left between
        refine .attempt (fun fault _ => .refl between) fun result _ => ?_
        obtain ⟨next, again⟩ := result
        cases again with
        | false => exact .done (.record between _)
        | true => exact iterate_after bodyAfter fuel counted next between

namespace Stmt

variable {prompt prompt' : String} {console console' : Console}

/-- A read that finds a line leaves it behind. -/
theorem exec_readNum_after (settings : Settings) (fuel : Nat) (target : Name) (store : Store)
    {text : String} {rest : Source} (taken : console.source.next? = some (text, rest)) :
    ((Stmt.readNum target).exec settings fuel store console).After
      { console with source := rest } := by
  rw [exec_readNum]
  simp only [taken]
  cases number : Numeral.signed (Text.trim text) with
  | ok n => exact .done (.record _ _)
  | error defect =>
    have refused : ({ console with source := rest } : Console).Precedes
        ({ console with source := rest }.refuse settings.prompt defect (Text.trim text)) :=
      (Console.Precedes.record _ _).trans (.print _ _)
    exact .trans refused (exec_after settings fuel _ store _)

/-- The induction is on what is left of the first source. -/
theorem exec_readNum_mirrors (mirror : Console.Mirror prompt prompt' matched stops)
    (limit : Option UInt64) (fuel : Nat) (target : Name) (store : Store)
    (start : matched console console') :
    ((Stmt.readNum target).exec ⟨limit, prompt⟩ fuel store console).Mirrors matched stops
      ((Stmt.readNum target).exec ⟨limit, prompt'⟩ fuel store console') := by
  induction bound : console.source.size using Nat.strongRecOn generalizing console console' with
  | ind size ih =>
    cases mirror.offers start with
    | closed first second same =>
      rw [exec_readNum, exec_readNum, first, second]
      exact .failed _ same
    | @line text rest rest' first second same =>
      rw [exec_readNum, exec_readNum, first, second]
      cases number : Numeral.signed (Text.trim text) with
      | ok n =>
        simp only [number]
        exact .done _ (mirror.record _ rfl same)
      | error defect =>
        simp only [number]
        have smaller := Source.size_of_next? first
        exact ih rest.size (by omega) (mirror.ask (mirror.record _ rfl same)) rfl
    | more first second stopped =>
      have goesOn := exec_readNum_after ⟨limit, prompt'⟩ fuel target store second
      rw [exec_readNum, first]
      exact .parted (stopped target) goesOn

/-- A statement mirrors itself, whatever fuel it is given, if those of its parts do that read or
print. Recording is all that the others do to a console. -/
theorem exec_mirrors_of_parts
    (record : ∀ {console console' : Console} (event : Event), event.isRefusal = false →
      matched console console' → matched (console.record event) (console'.record event))
    (limit : Option UInt64) (fuel : Nat) {s : Stmt}
    (talks : ∀ part ∈ s.parts, part.form.communicates = true → ∀ (store : Store)
      {console console' : Console}, matched console console' →
      (part.exec ⟨limit, prompt⟩ fuel store console).Mirrors matched stops
        (part.exec ⟨limit, prompt'⟩ fuel store console'))
    (store : Store) (start : matched console console') :
    (s.exec ⟨limit, prompt⟩ fuel store console).Mirrors matched stops
      (s.exec ⟨limit, prompt'⟩ fuel store console') := by
  have after (s : Stmt) (store : Store) (console : Console) :
      (s.exec ⟨limit, prompt'⟩ fuel store console).After console :=
    s.exec_after ⟨limit, prompt'⟩ fuel store console
  induction s generalizing store console console' with
  | skip => exact .done store start
  | assign target value => exact .attempt _ start fun n => .done _ (record _ rfl start)
  | seq first rest firstMirrors restMirrors =>
    refine .andThen (firstMirrors (fun part member => talks part ?_) store start) ?_ (after rest)
    · exact List.mem_cons_of_mem _ (List.mem_append_left _ member)
    · intro middle _ _ reached
      refine restMirrors (fun part member => talks part ?_) middle reached
      exact List.mem_cons_of_mem _ (List.mem_append_right _ member)
  | ifThenElse cond yes no yesMirrors noMirrors =>
    refine .attempt _ start fun holds => ?_
    cases holds with
    | false =>
      refine noMirrors (fun part member => talks part ?_) store start
      exact List.mem_cons_of_mem _ (List.mem_append_right _ member)
    | true =>
      refine yesMirrors (fun part member => talks part ?_) store start
      exact List.mem_cons_of_mem _ (List.mem_append_left _ member)
  | ifThen cond body bodyMirrors =>
    refine .attempt _ start fun holds => ?_
    cases holds with
    | false => exact .done store start
    | true =>
      exact bodyMirrors (fun part member => talks part (List.mem_cons_of_mem _ member)) store start
  | whileDo cond body bodyMirrors | repeatUntil body cond bodyMirrors
  | doWhile body cond bodyMirrors =>
    refine LoopControl.iterate_mirrors _ limit record ?_ (after body) fuel 0 store start
    intro store _ _ start
    exact bodyMirrors (fun part member => talks part (List.mem_cons_of_mem _ member)) store start
  | forTo counter low high body bodyMirrors =>
    refine .attempt _ start fun n => ?_
    refine LoopControl.iterate_mirrors _ limit record ?_ (after body) fuel 0 _ start
    intro store _ _ start
    exact bodyMirrors (fun part member => talks part (List.mem_cons_of_mem _ member)) store start
  | readNum | writeNum | writeStr => exact talks _ (mem_parts_self _) rfl store start

/-- A statement mirrors itself on matching consoles, whatever fuel it is given. -/
theorem exec_mirrors (mirror : Console.Mirror prompt prompt' matched stops)
    (limit : Option UInt64) (fuel : Nat) (s : Stmt) (store : Store)
    (start : matched console console') :
    (s.exec ⟨limit, prompt⟩ fuel store console).Mirrors matched stops
      (s.exec ⟨limit, prompt'⟩ fuel store console') := by
  refine exec_mirrors_of_parts mirror.record limit fuel ?_ store start
  intro part _ talks store console console' start
  cases part with
  | readNum target => exact exec_readNum_mirrors mirror limit fuel target store start
  | writeNum value => exact .attempt _ start fun n => .done store (mirror.write _ start)
  | writeStr text => exact .done store (mirror.write text start)
  | _ => cases talks

end Stmt

/-- The outcome with a result and a console. -/
def Outcome.ofResult {ε : Type} (console : Console) : Except ε Store → Outcome ε
  | .ok store => .done store console
  | .error error => .failed error console

/-- A program that never has to stop on one console alone diverges on both or has the same result on
both. -/
theorem Program.mirrored {prompt prompt' : String} {console console' : Console}
    (mirror : Console.Mirror prompt prompt' matched fun _ _ _ => False)
    (limit : Option UInt64) (program : Program) (start : matched console console') :
    (program.Diverges ⟨limit, prompt⟩ console ∧ program.Diverges ⟨limit, prompt'⟩ console') ∨
      ∃ result after after', matched after after' ∧
        program.EndsIn ⟨limit, prompt⟩ console (.ofResult after result) ∧
        program.EndsIn ⟨limit, prompt'⟩ console' (.ofResult after' result) := by
  have begun := mirror.record (.started program.name program.vars.length) rfl start
  rcases program.end_together program fun fuel =>
      (program.body.exec_mirrors mirror limit fuel (.initial program.vars) begun).rel with
    both | ⟨store, _, _, _, ⟨rfl, same⟩, ends, ends'⟩ | ⟨fault, _, _, _, ⟨rfl, same⟩, ends, ends'⟩
  · exact Or.inl both
  · exact Or.inr ⟨.ok store, _, _, mirror.record (.finished store.size) rfl same, ends, ends'⟩
  · exact Or.inr ⟨.error _, _, _, mirror.record (.failed fault) rfl same, ends, ends'⟩

end ImpLang
