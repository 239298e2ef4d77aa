/-!
# Ranges of code points

A property of characters is kept as a table of inclusive ranges that ascend. Membership is a search
that stops at the first range reaching the point, which loses nothing because of the order
(`Ranges.covers_iff`).
-/

namespace ImpLang.Text

/-- Each range is in order and ends before the next one starts. -/
def Ascending : List (Nat × Nat) → Prop
  | [] => True
  | [(first, last)] => first ≤ last
  | (first, last) :: (next, stop) :: rest =>
    first ≤ last ∧ last < next ∧ Ascending ((next, stop) :: rest)

def decideAscending : (bounds : List (Nat × Nat)) → Decidable (Ascending bounds)
  | [] => .isTrue trivial
  | [(first, last)] => inferInstanceAs (Decidable (first ≤ last))
  | (first, last) :: (next, stop) :: rest =>
    have := decideAscending ((next, stop) :: rest)
    inferInstanceAs (Decidable (first ≤ last ∧ last < next ∧ Ascending ((next, stop) :: rest)))

instance (bounds : List (Nat × Nat)) : Decidable (Ascending bounds) :=
  decideAscending bounds

structure Ranges where
  bounds : List (Nat × Nat)
  ascending : Ascending bounds

/-- Whether the first range that reaches the point holds it. -/
def reaches : List (Nat × Nat) → Nat → Bool
  | [], _ => false
  | (first, last) :: rest, point =>
    if point ≤ last then decide (first ≤ point) else reaches rest point

def Ranges.covers (table : Ranges) (point : Nat) : Bool :=
  reaches table.bounds point

/-- The ranges after one in an ascending list ascend, and start after it ends. -/
theorem Ascending.tail {first last : Nat} {rest : List (Nat × Nat)}
    (ascending : Ascending ((first, last) :: rest)) :
    Ascending rest ∧ ∀ range ∈ rest, last < range.1 := by
  induction rest generalizing first last with
  | nil => exact ⟨trivial, by simp⟩
  | cons range rest ih =>
    obtain ⟨next, stop⟩ := range
    obtain ⟨_, apart, restAscending⟩ := ascending
    refine ⟨restAscending, ?_⟩
    intro found member
    rcases List.mem_cons.mp member with rfl | later
    · exact apart
    · have ordered : next ≤ stop := by
        cases rest with
        | nil => exact restAscending
        | cons _ _ => exact restAscending.1
      have := (ih restAscending).2 found later
      omega

theorem Ascending.reaches_iff {bounds : List (Nat × Nat)} (ascending : Ascending bounds)
    (point : Nat) :
    reaches bounds point = true ↔ ∃ range ∈ bounds, range.1 ≤ point ∧ point ≤ range.2 := by
  induction bounds with
  | nil => simp [reaches]
  | cons range rest ih =>
    obtain ⟨first, last⟩ := range
    obtain ⟨restAscending, before⟩ := ascending.tail
    by_cases reached : point ≤ last
    · simp only [reaches, reached, if_true, decide_eq_true_eq, List.mem_cons]
      constructor
      · exact fun start => ⟨(first, last), Or.inl rfl, start, reached⟩
      · rintro ⟨found, rfl | later, start, _⟩
        · exact start
        · exact absurd (before found later) (by omega)
    · simp only [reaches, reached, if_false, ih restAscending, List.mem_cons]
      constructor
      · rintro ⟨found, member, within⟩
        exact ⟨found, Or.inr member, within⟩
      · rintro ⟨found, rfl | later, start, stop⟩
        · exact absurd stop reached
        · exact ⟨found, later, start, stop⟩

/-- A table covers the points that lie in one of its ranges. -/
theorem Ranges.covers_iff (table : Ranges) (point : Nat) :
    table.covers point = true ↔ ∃ range ∈ table.bounds, range.1 ≤ point ∧ point ≤ range.2 :=
  table.ascending.reaches_iff point

end ImpLang.Text
