import ImpLang.Proofs.ReadBack

/-!
# A dump can be read back

Each line of a dump is cut at the last ` = ` in it, into a name and the numeral of its value. The
name may hold that separator any number of times, or be empty: the cut is the right one because the
separator ends with a space and no numeral holds one (`cutLast?_append`). Where no name breaks a
line, a dump is therefore read back as the entries of its store, and shows all there is to know of
it (`dump_reads_back`).
-/

namespace ImpLang

namespace Text

variable {separator text before after : List Char}

/-- The parts of a text before and after the last occurrence of a separator. -/
def cutLast? (separator text : List Char) : Option (List Char × List Char) :=
  (text.reverse.dropInfix? separator.reverse).map fun parts => (parts.2.reverse, parts.1.reverse)

theorem eq_append_reverse_iff :
    text.reverse = after.reverse ++ separator.reverse ++ before.reverse ↔
      text = before ++ separator ++ after := by
  rw [← List.reverse_append, ← List.reverse_append, List.reverse_inj, List.append_assoc]

/-- A text is cut where the separator stands, and the separator stands nowhere further on. -/
theorem cutLast?_eq_some_iff :
    cutLast? separator text = some (before, after) ↔
      text = before ++ separator ++ after ∧
        ∀ other rest, text = other ++ separator ++ rest → other.length ≤ before.length := by
  have turned : cutLast? separator text = some (before, after) ↔
      text.reverse.dropInfix? separator.reverse = some (after.reverse, before.reverse) := by
    rw [cutLast?, Option.map_eq_some_iff]
    constructor
    · rintro ⟨⟨first, second⟩, found, same⟩
      cases same
      rw [found, List.reverse_reverse, List.reverse_reverse]
    · intro found
      exact ⟨_, found, by simp⟩
  rw [turned, List.dropInfix?_eq_some_iff]
  simp only [beq_iff_eq, exists_eq_right, eq_append_reverse_iff]
  -- The first occurrence from the end has the shortest rest, hence the longest part before it.
  refine and_congr_right fun whole => ?_
  constructor
  · intro least other rest occurs
    have shorter := least rest.reverse separator.reverse other.reverse
      (eq_append_reverse_iff.mpr occurs) rfl
    have lengths := congrArg List.length (whole.symm.trans occurs)
    simp only [List.length_append, List.length_reverse] at lengths shorter
    omega
  · rintro greatest rest _ other occurs rfl
    have longer := greatest other.reverse rest.reverse
      (eq_append_reverse_iff.mp (by simpa using occurs))
    have lengths := congrArg List.length occurs
    rw [whole] at lengths
    simp only [List.length_append, List.length_reverse] at lengths longer ⊢
    omega

/-- A separator is the last one if its last character does not occur after it. -/
theorem cutLast?_append (stem : List Char) {last : Char} (before : List Char)
    (absent : last ∉ after) :
    cutLast? (stem ++ [last]) (before ++ (stem ++ [last]) ++ after) = some (before, after) := by
  refine cutLast?_eq_some_iff.mpr ⟨rfl, fun other rest occurs => ?_⟩
  have ends : (before ++ stem ++ [last]) ++ after = (other ++ stem) ++ last :: rest := by
    simpa using occurs
  rcases List.append_eq_append_iff.mp ends with ⟨between, _, within⟩ | ⟨between, sooner, within⟩
  · exact absurd (by simp [within]) absent
  · cases between with
    | nil =>
      have start : after = last :: rest := within.symm
      exact absurd (by simp [start]) absent
    | cons c between =>
      have lengths := congrArg List.length sooner
      simp only [List.length_append, List.length_cons, List.length_nil] at lengths
      omega

end Text

namespace Store

/-- The name and the value on a line of a dump. -/
def entryOfLine? (line : String) : Option (Name × Int64) :=
  (Text.cutLast? " = ".toList line.toList).bind fun parts =>
    (Numeral.signed (String.ofList parts.2)).toOption.map fun value =>
      (⟨String.ofList parts.1⟩, value)

/-- The names and values on the lines of a dump, in order. -/
def entriesOfDump? (text : String) : Option (List (Name × Int64)) :=
  (Text.lines text).mapM entryOfLine?

/-- No name breaks a line. -/
def OneLine (store : Store) : Prop :=
  ∀ name ∈ store.names, '\n' ∉ name.text.toList

instance (store : Store) : Decidable store.OneLine :=
  inferInstanceAs (Decidable (∀ name ∈ store.names, '\n' ∉ name.text.toList))

variable {store other : Store}

/-- A line shows its entry, whatever the name is. -/
theorem entryOfLine?_entryLine (entry : Name × Int64) :
    entryOfLine? (entryLine entry) = some entry := by
  have solid : ' ' ∉ (Numeral.render entry.2.toInt).toList :=
    Numeral.blank_notMem_render (by decide) entry.2
  have chars : (entryLine entry).toList =
      entry.1.text.toList ++ ([' ', '='] ++ [' ']) ++ (Numeral.render entry.2.toInt).toList := by
    simp [entryLine]
  have cut : Text.cutLast? " = ".toList (entryLine entry).toList =
      some (entry.1.text.toList, (Numeral.render entry.2.toInt).toList) := by
    rw [chars]
    exact Text.cutLast?_append [' ', '='] entry.1.text.toList solid
  rw [entryOfLine?, cut]
  simp [Numeral.signed_render, Except.toOption]

theorem OneLine.newline_notMem (oneLine : store.OneLine) :
    ∀ line ∈ store.entries.map entryLine, '\n' ∉ line.toList := by
  intro line member
  obtain ⟨entry, among, rfl⟩ := List.mem_map.mp member
  have inName := oneLine entry.1 (List.mem_map.mpr ⟨entry, among, rfl⟩)
  have inNumeral := Numeral.newline_notMem_render entry.2
  simp [entryLine, inName, inNumeral]

theorem mapM_entryOfLine? (entries : List (Name × Int64)) :
    (entries.map entryLine).mapM entryOfLine? = some entries := by
  induction entries with
  | nil => rfl
  | cons entry entries ih => simp [entryOfLine?_entryLine, ih]

/-- The dump of a store shows its entries. -/
theorem entriesOfDump?_dump (oneLine : store.OneLine) :
    entriesOfDump? store.dump = some store.entries := by
  rw [entriesOfDump?, dump, Text.lines_unlines oneLine.newline_notMem, mapM_entryOfLine?]

theorem eq_of_dump (oneLine : store.OneLine) (oneLine' : other.OneLine)
    (same : store.dump = other.dump) : store = other := by
  have shown := entriesOfDump?_dump oneLine
  rw [same, entriesOfDump?_dump oneLine', Option.some.injEq] at shown
  exact ext shown.symm

/-- The dump of a store whose names break no line, cut into lines and each line at the last ` = `,
gives back the entries of the store. They stand in the order in which declarations and writes first
bound their names, each with the value of the last write. Two such stores have the same dump exactly
if they are the same. -/
theorem dump_reads_back {store : Store} (oneLine : store.OneLine) :
    entriesOfDump? store.dump = some store.entries ∧
    (∀ declared writes, store = (initial declared).bindAll writes →
      store.entries.map Prod.fst = firstOrder declared writes ∧
      ∀ name value, (name, value) ∈ store.entries ↔
        lastValue? declared writes name = some value) ∧
    ∀ other : Store, other.OneLine → (store.dump = other.dump ↔ store = other) := by
  refine ⟨entriesOfDump?_dump oneLine, ?_, ?_⟩
  · rintro declared writes rfl
    refine ⟨names_written declared writes, fun name value => ?_⟩
    rw [← get?_eq_some_iff, get?_written]
  · intro other oneLine'
    exact ⟨eq_of_dump oneLine oneLine', congrArg dump⟩

/-- Names that are empty, that are the separator or that look like a line of a dump, and the least
of all values. The other store has the same entries in another order, and hence another dump. -/
theorem dump_reads_back_separators : ∃ store other : Store,
    store = (initial [⟨""⟩, ⟨"x = 1"⟩]).bindAll [(⟨" = "⟩, -9223372036854775808), (⟨""⟩, 7)] ∧
    other = .ofEntries [(⟨"x = 1"⟩, 0), (⟨""⟩, 7), (⟨" = "⟩, -9223372036854775808)] ∧
    store.OneLine ∧ other.OneLine ∧
    store.dump = " = 7\nx = 1 = 0\n =  = -9223372036854775808\n" ∧
    entriesOfDump? store.dump =
      some [(⟨""⟩, 7), (⟨"x = 1"⟩, 0), (⟨" = "⟩, -9223372036854775808)] ∧
    store.entries.map Prod.fst =
      firstOrder [⟨""⟩, ⟨"x = 1"⟩] [(⟨" = "⟩, -9223372036854775808), (⟨""⟩, 7)] ∧
    store.dump ≠ other.dump := by
  have oneLine : ((initial [⟨""⟩, ⟨"x = 1"⟩]).bindAll
      [(⟨" = "⟩, -9223372036854775808), (⟨""⟩, 7)]).OneLine := by decide +kernel
  have oneLine' : (ofEntries
      [(⟨"x = 1"⟩, 0), (⟨""⟩, 7), (⟨" = "⟩, -9223372036854775808)]).OneLine := by decide +kernel
  obtain ⟨shown, ordered, same⟩ := dump_reads_back oneLine
  refine ⟨_, _, rfl, rfl, oneLine, oneLine', by decide +kernel, ?_, (ordered _ _ rfl).1, ?_⟩
  · rw [shown]
    decide +kernel
  · intro dumps
    exact absurd ((same _ oneLine').mp dumps) (by decide +kernel)

/-- A name with a newline in it can look like two entries. -/
example :
    (empty.bind ⟨"x = 1\ny"⟩ 2).dump = ((empty.bind ⟨"x"⟩ 1).bind ⟨"y"⟩ 2).dump ∧
      empty.bind ⟨"x = 1\ny"⟩ 2 ≠ (empty.bind ⟨"x"⟩ 1).bind ⟨"y"⟩ 2 := by
  decide +kernel

end Store

end ImpLang
