import ImpLang.Store
import Mathlib.Data.Finset.Card

/-!
# The last write wins

What a store holds after declarations and writes can be read off the list of them. The names stand
in the order in which each first occurs, and the value of a name is that of its last write, a
declaration being a write of zero. One write is a matter of `names_bind` and `get?_bind`; any number
of them follows by induction from the last. The places in the map take part through `Store.inStep`.
-/

namespace ImpLang.Store

/-- Binds writes in turn. -/
def bindAll (store : Store) (writes : List (Name × Int64)) : Store :=
  writes.foldl (fun store write => store.bind write.1 write.2) store

/-- The names that are declared or written, each where it first occurs. -/
def firstOrder (declared : List Name) (writes : List (Name × Int64)) : List Name :=
  (declared ++ writes.map Prod.fst).eraseDups

/-- The value of the last write to a name, or zero if the name is only declared. -/
def lastValue? (declared : List Name) (writes : List (Name × Int64)) (name : Name) :
    Option Int64 :=
  (writes.reverse.lookup name).or (if name ∈ declared then some 0 else none)

/-! ## From the empty store -/

theorem bindAll_append (store : Store) (writes last : List (Name × Int64)) :
    store.bindAll (writes ++ last) = (store.bindAll writes).bindAll last :=
  List.foldl_append

/-- Declarations are writes of zero. -/
theorem initial_eq_bindAll (declared : List Name) :
    initial declared = empty.bindAll (declared.map fun name => (name, 0)) := by
  unfold initial bindAll
  rw [List.foldl_map]

theorem bindAll_initial (declared : List Name) (writes : List (Name × Int64)) :
    (initial declared).bindAll writes =
      empty.bindAll ((declared.map fun name => (name, 0)) ++ writes) := by
  rw [initial_eq_bindAll, bindAll_append]

theorem bindAll_concat (store : Store) (writes : List (Name × Int64)) (last : Name × Int64) :
    store.bindAll (writes ++ [last]) = (store.bindAll writes).bind last.1 last.2 := by
  rw [bindAll_append]
  rfl

theorem eraseDups_concat (names : List Name) (last : Name) :
    (names ++ [last]).eraseDups =
      if last ∈ names then names.eraseDups else names.eraseDups ++ [last] := by
  rw [List.eraseDups_append, List.removeAll]
  by_cases old : last ∈ names
  · simp [old]
  · simp [old, List.eraseDups_cons]

theorem names_bindAll (writes : List (Name × Int64)) :
    (empty.bindAll writes).names = (writes.map Prod.fst).eraseDups := by
  induction writes using List.reverseRecOn with
  | nil => rfl
  | append_singleton writes last ih =>
    have step := eraseDups_concat (writes.map Prod.fst) last.1
    rw [bindAll_concat, names_bind, ih, List.map_append, List.map_singleton, step]
    simp only [List.mem_eraseDups]

theorem lookup_cons_write (name : Name) (write : Name × Int64) (writes : List (Name × Int64)) :
    (write :: writes).lookup name =
      if name = write.1 then some write.2 else writes.lookup name := by
  obtain ⟨other, value⟩ := write
  rw [List.lookup_cons]
  by_cases same : name = other
  · simp [same]
  · rw [if_neg same, beq_false_of_ne same]

theorem get?_bindAll (writes : List (Name × Int64)) (name : Name) :
    (empty.bindAll writes).get? name = writes.reverse.lookup name := by
  induction writes using List.reverseRecOn with
  | nil => rfl
  | append_singleton writes last ih =>
    rw [bindAll_concat, get?_bind, ih, List.reverse_concat, lookup_cons_write]

/-! ## After declarations -/

variable (declared : List Name) (writes : List (Name × Int64))

theorem names_written :
    ((initial declared).bindAll writes).names = firstOrder declared writes := by
  rw [bindAll_initial, names_bindAll, firstOrder, List.map_append, List.map_map]
  simp [Function.comp_def]

/-- The declared names are bound at first, each where it is first declared. -/
theorem names_initial : (initial declared).names = declared.eraseDups := by
  have written := names_written declared []
  simpa [bindAll, firstOrder] using written

theorem lookup_declared (name : Name) :
    (declared.map fun name => (name, (0 : Int64))).reverse.lookup name =
      if name ∈ declared then some 0 else none := by
  induction declared using List.reverseRecOn with
  | nil => rfl
  | append_singleton names last ih =>
    have reversed : ((names ++ [last]).map fun name => (name, (0 : Int64))).reverse =
        (last, 0) :: (names.map fun name => (name, (0 : Int64))).reverse := by simp
    rw [reversed, lookup_cons_write, ih]
    by_cases same : name = last
    · simp [same]
    · simp [same]

theorem get?_written (name : Name) :
    ((initial declared).bindAll writes).get? name = lastValue? declared writes name := by
  rw [bindAll_initial, get?_bindAll, List.reverse_append, List.lookup_append, lookup_declared,
    lastValue?]

variable {declared writes}

theorem mem_firstOrder {name : Name} :
    name ∈ firstOrder declared writes ↔ name ∈ declared ∨ ∃ value, (name, value) ∈ writes := by
  simp [firstOrder]

/-- The entries are the names, each with its value. -/
theorem entries_eq_names (store : Store) :
    store.entries.map (fun entry => (entry.1, some entry.2)) =
      store.names.map fun name => (name, store.get? name) := by
  rw [names, List.map_map]
  apply List.map_congr_left
  intro entry member
  have bound : store.get? entry.1 = some entry.2 := get?_eq_some_iff.mpr member
  simp [bound]

/-- There are as many entries as there are different names. -/
theorem size_eq_card (store : Store) : store.size = store.names.toFinset.card := by
  rw [List.toFinset_card_of_nodup store.distinct, names, List.length_map, size]

/-- After any declarations and writes, starting with nothing bound, a store holds every name that
was declared or written, once and in the order of first occurrence, with the value of its last write
or zero. Looking a name up finds this value, and fails exactly for the names that do not occur. The
map from names to places gives each name its place in that order, where its own entry stands; and
the entries tell all there is to know of such a store. -/
theorem bindAll_last_write_wins (declared : List Name) (writes : List (Name × Int64)) :
    let store := (initial declared).bindAll writes
    (store.entries.map (fun entry => (entry.1, some entry.2)) =
      (firstOrder declared writes).map fun name => (name, lastValue? declared writes name)) ∧
    store.names.Nodup ∧
    (∀ name, store.get? name = lastValue? declared writes name) ∧
    (∀ name value, store.lookup name = .ok value ↔ lastValue? declared writes name = some value) ∧
    (∀ name, store.get? name = none ↔ name ∉ declared ∧ ∀ value, (name, value) ∉ writes) ∧
    (∀ name fault, store.lookup name = .error fault ↔
      (name ∉ declared ∧ ∀ value, (name, value) ∉ writes) ∧ fault = .unbound name) ∧
    store.size = (declared ++ writes.map Prod.fst).toFinset.card ∧
    (∀ name slot, store.slots name = some slot ↔ (firstOrder declared writes)[slot]? = some name) ∧
    (∀ name slot, store.slots name = some slot →
      ∃ value, store.entries[slot]? = some (name, value)) ∧
    ∀ declared' writes', store = (initial declared').bindAll writes' ↔
      store.entries = ((initial declared').bindAll writes').entries := by
  intro store
  have order : store.names = firstOrder declared writes := names_written declared writes
  have values : ∀ name, store.get? name = lastValue? declared writes name :=
    get?_written declared writes
  have absent (name : Name) :
      name ∉ store.names ↔ name ∉ declared ∧ ∀ value, (name, value) ∉ writes := by
    rw [order, mem_firstOrder, not_or, not_exists]
  refine ⟨?_, store.distinct, values, ?_, ?_, ?_, ?_, ?_, ?_, fun _ _ => eq_iff_entries⟩
  · rw [entries_eq_names, order]
    exact List.map_congr_left fun name _ => congrArg (Prod.mk name) (values name)
  · intro name value
    rw [lookup_eq_ok_iff, values]
  · intro name
    rw [get?_eq_none_iff, absent]
  · intro name fault
    rw [lookup_eq_error_iff, absent]
  · rw [size_eq_card, order]
    congr 1
    ext name
    simp [firstOrder]
  · intro name slot
    rw [store.inStep name slot, ← order]
    rfl
  · intro name slot placed
    have there := (store.inStep name slot).mp placed
    rw [List.getElem?_map, Option.map_eq_some_iff] at there
    obtain ⟨⟨_, value⟩, reads, rfl⟩ := there
    exact ⟨value, reads⟩

/-- The empty store is the one to start with where nothing is declared. -/
example : initial [] = empty := rfl

end ImpLang.Store
