import ImpLang.Fault

/-!
# Stores

The variables of a running program with their values, in the order in which each was first bound,
and a map from each name to its place among them. Binding a name again changes its value and keeps
its place. The map and the entries are kept in step, so that a place taken from the map always holds
the entry of its name, and a store is known by its entries: `get?_bind` and `names_bind` say what
binding does to them.
-/

namespace ImpLang

/-- The map that also sends a name to a place. -/
def Store.placeAt (slots : Name → Option Nat) (name : Name) (slot : Nat) : Name → Option Nat :=
  fun other => if other = name then some slot else slots other

/-- The map sends a name to a place exactly if the entry of that name stands there. -/
def Store.InStep (entries : List (Name × Int64)) (slots : Name → Option Nat) : Prop :=
  ∀ name slot, slots name = some slot ↔ (entries.map Prod.fst)[slot]? = some name

namespace Store.InStep

variable {entries : List (Name × Int64)} {slots : Name → Option Nat} {name : Name} {slot : Nat}

theorem empty : InStep [] fun _ => none := by
  intro name slot
  simp

theorem lt_length (inStep : InStep entries slots) (found : slots name = some slot) :
    slot < entries.length := by
  have there := (inStep name slot).mp found
  obtain ⟨inside, _⟩ := List.getElem?_eq_some_iff.mp there
  simpa using inside

theorem eq_none_iff (inStep : InStep entries slots) :
    slots name = none ↔ name ∉ entries.map Prod.fst := by
  constructor
  · intro absent member
    obtain ⟨slot, there⟩ := List.getElem?_of_mem member
    rw [(inStep name slot).mpr there] at absent
    cases absent
  · intro absent
    cases found : slots name with
    | none => rfl
    | some slot => exact absurd (List.mem_of_getElem? ((inStep name slot).mp found)) absent

/-- A new value in the entry at a place leaves the names as they are. -/
theorem names_overwrite (entries : List (Name × Int64)) (slot : Fin entries.length)
    (value : Int64) :
    (entries.set slot ((entries.get slot).1, value)).map Prod.fst = entries.map Prod.fst := by
  rw [List.map_set]
  simpa using @List.set_getElem_self _ (entries.map Prod.fst) slot (by simp)

theorem overwrite (inStep : InStep entries slots) (slot : Fin entries.length) (value : Int64) :
    InStep (entries.set slot ((entries.get slot).1, value)) slots := by
  intro name other
  rw [names_overwrite]
  exact inStep name other

/-- A new entry goes after the others, and the map sends its name there. -/
theorem append (inStep : InStep entries slots) (absent : slots name = none) (value : Int64) :
    InStep (entries ++ [(name, value)]) (placeAt slots name entries.length) := by
  intro other slot
  rw [placeAt, List.map_append]
  by_cases same : other = name
  · subst same
    rw [if_pos rfl]
    constructor
    · intro placed
      cases placed
      simp
    · intro there
      have inside := (List.getElem?_eq_some_iff.mp there).1
      simp only [List.length_append, List.length_map, List.length_singleton] at inside
      by_cases before : slot < entries.length
      · rw [List.getElem?_append_left (by simpa using before)] at there
        rw [(inStep other slot).mpr there] at absent
        cases absent
      · exact congrArg some (by omega)
  · rw [if_neg same, inStep other slot]
    by_cases before : slot < entries.length
    · rw [List.getElem?_append_left (by simpa using before)]
    · have outside : (entries.map Prod.fst).length ≤ slot := by simpa using before
      rw [List.getElem?_append_right outside, List.getElem?_eq_none outside]
      simp [List.getElem?_singleton, Ne.symm same]

end Store.InStep

/-- The bound names with their values, in order of first binding, and the place of each name. -/
structure Store where
  entries : List (Name × Int64)
  slots : Name → Option Nat
  inStep : Store.InStep entries slots

namespace Store

def empty : Store :=
  ⟨[], fun _ => none, InStep.empty⟩

instance : Inhabited Store := ⟨empty⟩

/-- The entries determine the places. -/
theorem ext {store store' : Store} (same : store.entries = store'.entries) : store = store' := by
  obtain ⟨entries, slots, inStep⟩ := store
  obtain ⟨_, slots', inStep'⟩ := store'
  cases same
  have agree : slots = slots' := by
    funext name
    apply Option.ext
    intro slot
    rw [inStep name slot, inStep' name slot]
  cases agree
  rfl

theorem eq_iff_entries {store store' : Store} :
    store = store' ↔ store.entries = store'.entries :=
  ⟨congrArg entries, ext⟩

instance : DecidableEq Store :=
  fun _ _ => decidable_of_iff _ eq_iff_entries.symm

instance : Repr Store :=
  ⟨fun store => reprPrec store.entries⟩

def names (store : Store) : List Name :=
  store.entries.map Prod.fst

def size (store : Store) : Nat :=
  store.entries.length

def isEmpty (store : Store) : Bool :=
  store.entries.isEmpty

/-- The place of a name, which is a place among the entries. -/
def slot? (store : Store) (name : Name) : Option (Fin store.entries.length) :=
  match found : store.slots name with
  | some slot => some ⟨slot, store.inStep.lt_length found⟩
  | none => none

def get? (store : Store) (name : Name) : Option Int64 :=
  (store.slot? name).map fun slot => (store.entries.get slot).2

def lookup (store : Store) (name : Name) : Except Fault Int64 :=
  match store.get? name with
  | some value => .ok value
  | none => .error (.unbound name)

theorem slot?_eq_some_iff {store : Store} {name : Name} {slot : Fin store.entries.length} :
    store.slot? name = some slot ↔ store.slots name = some slot.val := by
  unfold slot?
  split
  next found => simp [found, Fin.ext_iff]
  next found => simp [found]

theorem slot?_eq_none_iff {store : Store} {name : Name} :
    store.slot? name = none ↔ name ∉ store.names := by
  rw [names, ← store.inStep.eq_none_iff]
  unfold slot?
  split
  next found => simp [found]
  next found => simp [found]

/-- The entry at a name's place is the entry of that name. -/
theorem name_of_slot? {store : Store} {name : Name} {slot : Fin store.entries.length}
    (found : store.slot? name = some slot) : (store.entries.get slot).1 = name := by
  have there := (store.inStep name slot).mp (slot?_eq_some_iff.mp found)
  simpa using there

theorem distinct (store : Store) : store.names.Nodup := by
  refine List.pairwise_iff_getElem.mpr fun i j first second before same => ?_
  have left := (store.inStep store.names[i] i).mpr (List.getElem?_eq_getElem first)
  have right := (store.inStep store.names[j] j).mpr (List.getElem?_eq_getElem second)
  rw [same, right] at left
  cases left
  omega

/-- Gives a name a value: at its place if it has one, else at a new place after the others. -/
def bind (store : Store) (name : Name) (value : Int64) : Store :=
  match found : store.slot? name with
  | some slot =>
    { entries := store.entries.set slot ((store.entries.get slot).1, value)
      slots := store.slots
      inStep := store.inStep.overwrite slot value }
  | none =>
    { entries := store.entries ++ [(name, value)]
      slots := placeAt store.slots name store.entries.length
      inStep := store.inStep.append (store.inStep.eq_none_iff.mpr (slot?_eq_none_iff.mp found))
        value }

/-- A bound name gets its new value where it stands. -/
theorem entries_bind_of_slot? {store : Store} {name : Name} {slot : Fin store.entries.length}
    (found : store.slot? name = some slot) (value : Int64) :
    (store.bind name value).entries = store.entries.set slot (name, value) := by
  unfold bind
  split
  next other placed =>
    cases found.symm.trans placed
    exact congrArg (fun first => store.entries.set slot (first, value)) (name_of_slot? found)
  next absent => simp [found] at absent

/-- A new name stands after the others. -/
theorem entries_bind_of_notMem {store : Store} {name : Name} (absent : name ∉ store.names)
    (value : Int64) : (store.bind name value).entries = store.entries ++ [(name, value)] := by
  unfold bind
  split
  next slot found => simp [slot?_eq_none_iff.mpr absent] at found
  next => rfl

/-- Binds names in turn to zero, as a program's declarations do. -/
def initial (names : List Name) : Store :=
  names.foldl (fun store name => store.bind name 0) empty

/-- Binds entries in turn. -/
def ofEntries (entries : List (Name × Int64)) : Store :=
  entries.foldl (fun store entry => store.bind entry.1 entry.2) empty

def entryLine (entry : Name × Int64) : String :=
  entry.1.text ++ " = " ++ Numeral.render entry.2.toInt

def dump (store : Store) : String :=
  Text.unlines (store.entries.map entryLine)

private theorem value_unique {store : Store} {name : Name} {v w : Int64}
    (first : (name, v) ∈ store.entries) (second : (name, w) ∈ store.entries) : v = w := by
  obtain ⟨i, readsFirst⟩ := List.getElem?_of_mem first
  obtain ⟨j, readsSecond⟩ := List.getElem?_of_mem second
  have left := (store.inStep name i).mpr (by simp [readsFirst])
  have right := (store.inStep name j).mpr (by simp [readsSecond])
  rw [left] at right
  cases right
  rw [readsFirst] at readsSecond
  cases readsSecond
  rfl

/-- A name has a value exactly when it stands with that value among the entries. -/
theorem get?_eq_some_iff {store : Store} {name : Name} {value : Int64} :
    store.get? name = some value ↔ (name, value) ∈ store.entries := by
  constructor
  · intro bound
    obtain ⟨slot, found, rfl⟩ := Option.map_eq_some_iff.mp bound
    rw [← name_of_slot? found]
    exact List.get_mem store.entries slot
  · intro member
    cases found : store.slot? name with
    | none => exact absurd (List.mem_map.mpr ⟨_, member, rfl⟩) (slot?_eq_none_iff.mp found)
    | some slot =>
      have there : (name, (store.entries.get slot).2) ∈ store.entries := by
        rw [← name_of_slot? found]
        exact List.get_mem store.entries slot
      simp only [get?, found, Option.map_some, Option.some.injEq]
      exact value_unique there member

theorem get?_eq_none_iff {store : Store} {name : Name} :
    store.get? name = none ↔ name ∉ store.names := by
  simp [get?, slot?_eq_none_iff]

theorem lookup_eq_ok_iff {store : Store} {name : Name} {value : Int64} :
    store.lookup name = .ok value ↔ store.get? name = some value := by
  unfold lookup
  cases store.get? name <;> simp

theorem lookup_eq_error_iff {store : Store} {name : Name} {fault : Fault} :
    store.lookup name = .error fault ↔ name ∉ store.names ∧ fault = .unbound name := by
  rw [← get?_eq_none_iff]
  unfold lookup
  cases store.get? name <;> simp [eq_comm]

/-- Binding adds a new name at the end and moves no name. -/
theorem names_bind (store : Store) (name : Name) (value : Int64) :
    (store.bind name value).names =
      if name ∈ store.names then store.names else store.names ++ [name] := by
  unfold bind
  split
  next slot found =>
    have present : name ∈ store.names := by
      have defined : store.slot? name ≠ none := by simp [found]
      simpa [slot?_eq_none_iff] using defined
    rw [if_pos present]
    exact InStep.names_overwrite store.entries slot value
  next found =>
    rw [if_neg (slot?_eq_none_iff.mp found)]
    simp [names]

theorem mem_names_bind {store : Store} {name other : Name} {value : Int64} :
    other ∈ (store.bind name value).names ↔ other = name ∨ other ∈ store.names := by
  rw [names_bind]
  by_cases present : name ∈ store.names
  · rw [if_pos present]
    exact ⟨Or.inr, fun either => either.elim (fun same => same ▸ present) id⟩
  · rw [if_neg present, List.mem_append, List.mem_singleton, or_comm]

/-- The entries after a binding: the new one, and the old ones of other names. -/
theorem mem_entries_bind {store : Store} {name other : Name} {value w : Int64} :
    (other, w) ∈ (store.bind name value).entries ↔
      if other = name then w = value else (other, w) ∈ store.entries := by
  cases found : store.slot? name with
  | some slot =>
    have stored : (name, value) ∈ (store.bind name value).entries := by
      rw [entries_bind_of_slot? found]
      exact List.mem_set slot.isLt _
    split
    next equal =>
      subst equal
      exact ⟨fun member => value_unique member stored, fun same => same ▸ stored⟩
    next different =>
      rw [entries_bind_of_slot? found]
      constructor
      · intro member
        rcases List.mem_or_eq_of_mem_set member with old | new
        · exact old
        · exact absurd (Prod.mk.inj new).1 different
      · intro old
        obtain ⟨index, reads⟩ := List.getElem?_of_mem old
        have apart : slot.val ≠ index := by
          rintro rfl
          have same := name_of_slot? found
          rw [List.getElem?_eq_getElem slot.isLt, Option.some.injEq] at reads
          rw [List.get_eq_getElem, reads] at same
          exact different same
        refine List.mem_of_getElem? (i := index) ?_
        rw [List.getElem?_set_ne apart, reads]
  | none =>
    have absent := slot?_eq_none_iff.mp found
    rw [entries_bind_of_notMem absent]
    simp only [List.mem_append, List.mem_singleton, Prod.mk.injEq]
    split
    next equal =>
      subst equal
      constructor
      · rintro (old | new)
        · exact absurd (List.mem_map.mpr ⟨_, old, rfl⟩) absent
        · exact new.2
      · exact fun new => Or.inr ⟨rfl, new⟩
    next different => simp [different]

/-- Binding changes the value of one name. -/
@[simp] theorem get?_bind (store : Store) (name other : Name) (value : Int64) :
    (store.bind name value).get? other = if other = name then some value else store.get? other := by
  apply Option.ext
  intro w
  rw [get?_eq_some_iff, mem_entries_bind]
  split
  · exact ⟨fun h => by rw [h], fun h => (Option.some.inj h).symm⟩
  · exact get?_eq_some_iff.symm

theorem lookup_bind_self (store : Store) (name : Name) (value : Int64) :
    (store.bind name value).lookup name = .ok value := by
  rw [lookup_eq_ok_iff, get?_bind, if_pos rfl]

end Store

end ImpLang
