import AppDescription.Proofs.NodeReading
import AppDescription.Proofs.TextForm

namespace AppDescription

/-- Nothing, or a significant line that is indented by less than `least` and what follows it. -/
def Outlies (least : Nat) (tail : List Line) : Prop :=
  ∀ line ∈ tail.head?, line.isSignificant ∧ line.indent < least

theorem Outlies.nil {least : Nat} : Outlies least [] := by simp [Outlies]

theorem afterBlock_outlies (least : Nat) (lines : List Line) :
    Outlies least (afterBlock least lines) := by
  intro line first
  have outside := Stops.of_dropWhile (Line.within least) lines line first
  have significant : line.isSignificant := by
    by_contra hidden
    rw [Line.within_of_not_significant hidden] at outside
    cases outside
  rw [← Bool.not_eq_true, Line.within_iff significant] at outside
  exact ⟨significant, Nat.lt_of_not_le outside⟩

namespace Outlies

variable {level : Nat} {tail : List Line} (outlies : Outlies level tail)

include outlies

theorem stops_within {least : Nat} (deep : level ≤ least) : Stops (Line.within least) tail := by
  intro line first
  obtain ⟨significant, outside⟩ := outlies line first
  have shallow : ¬least ≤ line.indent := by omega
  rwa [← Bool.not_eq_true, Line.within_iff significant]

theorem block_eq {lines : List Line} (inside : ∀ line ∈ lines, line.within level = true) :
    block level (lines ++ tail) = lines :=
  (outlies.stops_within le_rfl).takeWhile_append inside

theorem stops_blank : Stops Line.isBlank tail :=
  fun line first => Line.significant_not_isBlank (outlies line first).1

theorem stops_continues {depth : Nat} (deep : level ≤ depth) : Stops (Line.continues depth) tail := by
  intro line first
  have blank := outlies.stops_blank line first
  have shallow : ¬depth ≤ line.indent := by
    have outside := (outlies line first).2
    omega
  simp [Line.continues, blank, shallow]

theorem block_append {least : Nat} (deep : level ≤ least) (lines : List Line) :
    block least (lines ++ tail) = block least lines :=
  (outlies.stops_within deep).takeWhile_left

theorem afterBlock_append {least : Nat} (deep : level ≤ least) (lines : List Line) :
    afterBlock least (lines ++ tail) = afterBlock least lines ++ tail :=
  (outlies.stops_within deep).dropWhile_left

theorem baseline?_append {least : Nat} (deep : level ≤ least) (lines : List Line) :
    baseline? least (lines ++ tail) = baseline? least lines := by
  unfold baseline? nextSignificant?
  rw [List.find?_append]
  cases lines.find? Line.isSignificant with
  | some line => rfl
  | none =>
    cases tail with
    | nil => rfl
    | cons line rest =>
      obtain ⟨significant, outside⟩ := outlies line rfl
      have shallow : ¬least ≤ line.indent := by omega
      simp [significant, shallow]

theorem members_append {least : Nat} (deep : level ≤ least) (lines : List Line) :
    members least (lines ++ tail) = members least lines := by
  unfold members
  rw [outlies.baseline?_append deep]
  cases base : baseline? least lines with
  | none => rfl
  | some base' =>
    have ordered := baseline?_ge base
    exact outlies.block_append (by omega) lines

theorem afterMembers_append {least : Nat} (deep : level ≤ least) (lines : List Line) :
    afterMembers least (lines ++ tail) = afterMembers least lines ++ tail := by
  unfold afterMembers
  rw [outlies.baseline?_append deep]
  cases base : baseline? least lines with
  | none => rfl
  | some base' =>
    have ordered := baseline?_ge base
    exact outlies.afterBlock_append (by omega) lines

/-- The first line sets the level of a block, and others that reach it are its members. -/
theorem members_cons {first : Line} {lines : List Line} (significant : first.isSignificant)
    (deep : level ≤ first.indent) (inside : ∀ line ∈ lines, line.within first.indent = true) :
    members level (first :: (lines ++ tail)) = first :: lines ∧
      afterMembers level (first :: (lines ++ tail)) = tail := by
  have found : baseline? level (first :: lines) = some first.indent := by
    simp [baseline?, nextSignificant?, significant, deep]
  have own : first.within first.indent = true := by simp [Line.within]
  have all : ∀ line ∈ first :: lines, line.within first.indent = true :=
    List.forall_mem_cons.mpr ⟨own, inside⟩
  have ended : afterBlock first.indent (first :: lines) = [] := List.dropWhile_eq_nil_iff.mpr all
  have whole : block first.indent (first :: lines) = first :: lines :=
    List.takeWhile_eq_self_iff.mpr all
  rw [← List.cons_append, outlies.members_append le_rfl, outlies.afterMembers_append le_rfl]
  simp only [members, afterMembers, found, whole, ended, List.nil_append, and_self]

/-- A literal ends before `tail` as it does at the end of its lines. -/
theorem literal_append {least : Nat} (deep : level ≤ least) (lines : List Line) :
    literalText least (lines ++ tail) = literalText least lines ∧
      afterLiteral least (lines ++ tail) = afterLiteral least lines ++ tail := by
  have started : (lines ++ tail).dropWhile Line.isBlank = lines.dropWhile Line.isBlank ++ tail :=
    outlies.stops_blank.dropWhile_left
  rcases literal_cases least lines with ⟨first, rest, start, inside⟩ | shallow
  · rw [start, List.cons_append] at started
    have stops : Stops (Line.continues first.indent) tail := outlies.stops_continues (by omega)
    rw [afterLiteral_of_deep start inside, afterLiteral_of_deep started inside]
    simp only [literalText, literalLines?_of_deep start inside,
      literalLines?_of_deep started inside, stops.takeWhile_left]
    exact ⟨trivial, stops.dropWhile_left⟩
  · have shallow' : ∀ first rest, (lines ++ tail).dropWhile Line.isBlank = first :: rest →
        first.indent < least := by
      intro first rest start
      rw [started] at start
      rcases List.append_eq_cons_iff.mp start with ⟨_, same⟩ | ⟨more, same, _⟩
      · have outside := (outlies first (by rw [same]; rfl)).2
        omega
      · exact shallow first more same
    rw [afterLiteral_of_shallow shallow, afterLiteral_of_shallow shallow', started]
    simp only [literalText, literalLines?_of_shallow shallow, literalLines?_of_shallow shallow']
    exact ⟨trivial, trivial⟩

/-- The `else` of a header that `tail` is not deeper than never stands in `tail`. -/
theorem elseBranch?_append {indent : Nat} (reach : level ≤ indent) (lines : List Line) :
    elseBranch? indent (lines ++ tail) =
      (elseBranch? indent lines).map (Prod.map id (· ++ tail)) := by
  have stops : Stops (fun line : Line => !line.isSignificant) tail :=
    fun line first => by simp [(outlies line first).1]
  unfold elseBranch?
  rw [stops.dropWhile_left]
  cases lines.dropWhile fun line => !line.isSignificant with
  | nil =>
    cases tail with
    | nil => rfl
    | cons line rest =>
      have other : line.indent ≠ indent := by
        have outside := (outlies line rfl).2
        omega
      simp [other]
  | cons line rest =>
    simp only [List.cons_append]
    split <;> rfl

/-- An element is read alike whether its lines end or `tail` follows. -/
theorem ofHeader_append {header : ElementHeader} {line : Line} (reach : level ≤ line.indent)
    (lines : List Line) : Node.ofHeader header line (lines ++ tail) =
      Prod.map id (· ++ tail) (Node.ofHeader header line lines) := by
  have deep : level ≤ line.inner := reach.trans (Nat.le_succ _)
  cases header with
  | display kind name content =>
    simp only [Node.ofHeader, outlies.members_append deep, outlies.afterMembers_append deep,
      Prod.map, id]
  | iteration item collection =>
    simp only [Node.ofHeader, outlies.members_append deep, outlies.afterMembers_append deep,
      Prod.map, id]
  | conditional word condition =>
    simp only [Node.ofHeader, outlies.members_append deep, outlies.afterMembers_append deep,
      outlies.elseBranch?_append reach]
    cases elseBranch? line.indent (afterMembers line.inner lines) with
    | none => rfl
    | some parts =>
      simp only [Option.map_some, Prod.map, id, outlies.members_append deep,
        outlies.afterMembers_append deep]

end Outlies

end AppDescription
