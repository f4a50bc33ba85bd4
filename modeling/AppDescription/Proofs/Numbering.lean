import AppDescription.Line

namespace AppDescription.Line

@[simp]
theorem numberFrom_nil (first : Nat) : numberFrom first [] = [] := rfl

@[simp]
theorem numberFrom_cons (first : Nat) (raw : Text) (raws : List Text) :
    numberFrom first (raw :: raws) = ⟨first, raw⟩ :: numberFrom (first + 1) raws := rfl

@[simp]
theorem numberFrom_length (first : Nat) (raws : List Text) :
    (numberFrom first raws).length = raws.length := by
  induction raws generalizing first with
  | nil => rfl
  | cons raw raws ih => simp [ih]

@[simp]
theorem numberFrom_map_raw (first : Nat) (raws : List Text) :
    (numberFrom first raws).map raw = raws := by
  induction raws generalizing first with
  | nil => rfl
  | cons raw raws ih => simp [ih]

theorem ofSource_map_raw (source : Text) : (ofSource source).map raw = Text.splitOn '\n' source :=
  numberFrom_map_raw 1 _

theorem numberFrom_append (first : Nat) (left right : List Text) :
    numberFrom first (left ++ right) =
      numberFrom first left ++ numberFrom (first + left.length) right := by
  induction left generalizing first with
  | nil => simp
  | cons raw left ih =>
    simp only [List.cons_append, numberFrom_cons, ih, List.length_cons]
    rw [show first + 1 + left.length = first + (left.length + 1) by omega]

theorem numberFrom_drop (first count : Nat) (raws : List Text) :
    (numberFrom first raws).drop count = numberFrom (first + count) (raws.drop count) := by
  induction count generalizing first raws with
  | zero => simp
  | succ count ih =>
    cases raws with
    | nil => simp
    | cons raw raws =>
      simp only [numberFrom_cons, List.drop_succ_cons, ih]
      rw [show first + 1 + count = first + (count + 1) by omega]

theorem numberFrom_take (first count : Nat) (raws : List Text) :
    (numberFrom first raws).take count = numberFrom first (raws.take count) := by
  induction raws generalizing first count with
  | nil => simp
  | cons raw raws ih =>
    cases count with
    | zero => simp
    | succ count => simp [ih]

theorem numberFrom_getElem? (first index : Nat) (raws : List Text) :
    (numberFrom first raws)[index]? = raws[index]?.map fun raw => ⟨first + index, raw⟩ := by
  induction raws generalizing first index with
  | nil => simp
  | cons raw raws ih =>
    cases index with
    | zero => simp
    | succ index =>
      simp only [numberFrom_cons, List.getElem?_cons_succ, ih]
      rw [show first + 1 + index = first + (index + 1) by omega]

theorem number_of_mem {first : Nat} {raws : List Text} {line : Line}
    (member : line ∈ numberFrom first raws) :
    first ≤ line.number ∧ line.number < first + raws.length := by
  obtain ⟨index, found⟩ := List.mem_iff_getElem?.mp member
  rw [numberFrom_getElem?] at found
  obtain ⟨raw, within, rfl⟩ := Option.map_eq_some_iff.mp found
  have bound := (List.getElem?_eq_some_iff.mp within).1
  exact ⟨Nat.le_add_right _ _, Nat.add_lt_add_left bound first⟩

/-- Numbers go up from line to line. -/
theorem numberFrom_increasing (first : Nat) (raws : List Text) :
    (numberFrom first raws).Pairwise fun line other => line.number < other.number := by
  induction raws generalizing first with
  | nil => exact .nil
  | cons raw raws ih => exact .cons (fun line member => (number_of_mem member).1) (ih (first + 1))

/-- The number of a line tells where it stands. -/
theorem of_numberFrom_eq_append {first : Nat} {raws : List Text} {above tail : List Line}
    {line : Line} (split : numberFrom first raws = above ++ line :: tail) :
    line.number = first + above.length ∧ raws[above.length]? = some line.raw := by
  have entry := congrArg (·[above.length]?) split
  simp only [numberFrom_getElem?, List.getElem?_append_right (Nat.le_refl _), Nat.sub_self,
    List.getElem?_cons_zero] at entry
  obtain ⟨raw, found, rfl⟩ := Option.map_eq_some_iff.mp entry
  exact ⟨rfl, found⟩

/-- The same line with so many lines more above it. -/
def below (count : Nat) (line : Line) : Line :=
  { line with number := line.number + count }

theorem below_zero (line : Line) : line.below 0 = line := rfl

theorem numberFrom_below (first count : Nat) (raws : List Text) :
    numberFrom (first + count) raws = (numberFrom first raws).map (below count) := by
  induction raws generalizing first with
  | nil => rfl
  | cons raw raws ih =>
    have next : first + count + 1 = first + 1 + count := by omega
    rw [numberFrom_cons, numberFrom_cons, List.map_cons, next, ih]
    rfl

end AppDescription.Line
