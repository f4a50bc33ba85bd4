import AppDescription.Proofs.CorrespondingBlocks
import AppDescription.Proofs.Outlying

namespace AppDescription

/-- A line below a header, deeper than the header, with nothing in between that is shallower. When all
children of a header have one indentation, each of them is such a line. -/
structure Line.IsChild (header : Line) (between : List Line) (line : Line) : Prop where
  significant : line.isSignificant
  deeper : header.indent < line.indent
  level : ∀ other ∈ between, other.within line.indent = true

namespace Line.IsChild

variable {header line : Line} {between : List Line} (child : header.IsChild between line)

include child

theorem outlies (tail : List Line) : Outlies line.inner (line :: tail) := by
  intro other head
  cases head
  exact ⟨child.significant, Nat.lt_succ_self _⟩

theorem inner_le : ∀ other ∈ between, other.isSignificant → line.inner ≤ other.inner :=
  fun other member significant =>
    Nat.succ_le_succ ((Line.within_iff significant).mp (child.level other member))

theorem inside : ∀ other ∈ between ++ [line], other.within header.inner = true := by
  rw [List.forall_mem_append, List.forall_mem_singleton]
  exact ⟨fun other member => Line.within_mono child.deeper (child.level other member),
    (Line.within_iff child.significant).mpr child.deeper⟩

/-- A block reaches over a child. -/
theorem block_eq (tail : List Line) :
    block header.inner (between ++ line :: tail) = between ++ line :: block header.inner tail := by
  rw [List.append_cons, List.append_cons between line (block header.inner tail)]
  exact List.takeWhile_append_of_pos child.inside

theorem afterBlock_eq (tail : List Line) :
    afterBlock header.inner (between ++ line :: tail) = afterBlock header.inner tail := by
  rw [List.append_cons]
  exact List.dropWhile_append_of_pos child.inside

end Line.IsChild

/-- The lines of a block are deeper than its header. -/
theorem inner_le_of_mem_block {header line : Line} {lines : List Line}
    (member : line ∈ block header.inner lines) (significant : line.isSignificant) :
    header.inner ≤ line.inner :=
  ((Line.within_iff significant).mp (List.mem_takeWhile_imp member)).trans (Nat.le_succ _)

section

variable {level : Nat} {lines tail : List Line} (outlies : Outlies level tail)
  (inside : ∀ line ∈ lines, line.isSignificant → level ≤ line.inner)

include outlies inside

/-- Names that are given from a line on do not depend on what stands above, if no line there is
shallower. -/
theorem Outlies.namesOf_append (name? : LineKind → Option Text) :
    namesOf name? (lines ++ tail) = namesOf name? lines ++ namesOf name? tail := by
  fun_induction namesOf name? lines with
  | case1 => rfl
  | case2 line rest significant ih =>
    obtain ⟨first, others⟩ := List.forall_mem_cons.mp inside
    rw [List.cons_append, namesOf, if_pos significant, outlies.afterBlock_append (first significant),
      ih fun other member => others other ((afterBlock_suffix _ _).subset member), List.append_assoc]
  | case3 line rest hidden ih =>
    rw [List.cons_append, namesOf_insignificant name? _ _ hidden]
    exact ih (List.forall_mem_cons.mp inside).2

/-- So do the settings of a deploy block. -/
theorem Outlies.settings_append :
    DeployEntry.read (lines ++ tail) = DeployEntry.read lines ++ DeployEntry.read tail := by
  fun_induction DeployEntry.read lines with
  | case1 => rfl
  | case2 line rest significant value platform ih =>
    rw [List.cons_append, DeployEntry.read, if_pos significant, if_pos platform,
      ih (List.forall_mem_cons.mp inside).2, List.cons_append]
  | case3 line rest significant value other group ih =>
    obtain ⟨first, others⟩ := List.forall_mem_cons.mp inside
    rw [List.cons_append, DeployEntry.read, if_pos significant, if_neg other, if_pos group,
      outlies.block_append (first significant), outlies.afterBlock_append (first significant),
      ih fun other member => others other ((afterBlock_suffix _ _).subset member), List.append_assoc]
  | case4 line rest significant value other plain ih =>
    obtain ⟨first, others⟩ := List.forall_mem_cons.mp inside
    rw [List.cons_append, DeployEntry.read, if_pos significant, if_neg other, if_neg plain,
      outlies.afterBlock_append (first significant),
      ih fun other member => others other ((afterBlock_suffix _ _).subset member)]
  | case5 line rest hidden ih =>
    rw [List.cons_append, DeployEntry.read_insignificant _ _ hidden]
    exact ih (List.forall_mem_cons.mp inside).2

end

/-- The names below a header up to a child, the name of the child, and those after what it owns. -/
theorem Line.IsChild.namesOf_eq {header line : Line} {between : List Line}
    (child : header.IsChild between line) (name? : LineKind → Option Text) (tail : List Line) :
    namesOf name? (between ++ line :: tail) = namesOf name? between ++
      ((name? line.kind).toList ++ namesOf name? (afterBlock line.inner tail)) := by
  rw [(child.outlies tail).namesOf_append child.inner_le, namesOf.eq_def name? (line :: tail)]
  simp only [child.significant, if_true]

/-- The platform that a line of a deploy block names. -/
def Line.platform? (line : Line) : Option Text :=
  if line.kind.key? = some "platform".toList ∧ line.kind.value?.getD [] ≠ [] then
    some (Text.unquote (line.kind.value?.getD []))
  else none

/-- The line that opens the environments of a deploy block. -/
def Line.opensEnvironments (line : Line) : Prop :=
  line.kind.key? = some "environments".toList

instance (line : Line) : Decidable line.opensEnvironments :=
  inferInstanceAs (Decidable (_ = _))

namespace DeployEntry

/-- What the lines nested below a line of a deploy block add to it. Those below a platform are read as
if they stood beside it, those below the environments are environments, and others add nothing. -/
def nested (line : Line) (lines : List Line) : List DeployEntry :=
  if line.platform?.isSome then read lines
  else if line.opensEnvironments then (namesOf LineKind.key? lines).map environment
  else []

theorem nested_platform {line : Line} {name : Text} (names : line.platform? = some name)
    (lines : List Line) : nested line lines = read lines := by
  rw [nested, names, if_pos (Option.isSome_some)]

theorem nested_environments {line : Line} (opens : line.opensEnvironments) (lines : List Line) :
    nested line lines = (namesOf LineKind.key? lines).map environment := by
  have unnamed : line.platform? = none := by
    have other : some "environments".toList ≠ some "platform".toList := by decide
    rw [Line.platform?, opens, if_neg fun both => other both.1]
  rw [nested, unnamed, if_neg (by simp), if_pos opens]

/-- Nothing is added below a line that neither names the platform nor opens the environments. -/
theorem nested_plain {line : Line} (unnamed : line.platform? = none)
    (plain : ¬line.opensEnvironments) (lines : List Line) : nested line lines = [] := by
  rw [nested, unnamed, if_neg (by simp), if_neg plain]

/-- A line of a deploy block gives its platform and what is nested below it, before the next line that
is not deeper. -/
theorem read_child {line : Line} (significant : line.isSignificant) (tail : List Line) :
    read (line :: tail) = line.platform?.toList.map platform ++
      (nested line (block line.inner tail) ++ read (afterBlock line.inner tail)) := by
  have cut := (afterBlock_outlies line.inner tail).settings_append
    fun _ (member : _ ∈ block line.inner tail) => inner_le_of_mem_block member
  rw [block_append_afterBlock] at cut
  have filled (value : Text) : (!value.isEmpty) = true ↔ value ≠ [] := by simp
  rw [read, if_pos significant]
  simp only [filled]
  by_cases names : line.kind.key? = some "platform".toList ∧ line.kind.value?.getD [] ≠ []
  · have named : line.platform? = some (Text.unquote (line.kind.value?.getD [])) := if_pos names
    rw [if_pos names, cut, nested_platform named, named]
    rfl
  · have unnamed : line.platform? = none := if_neg names
    rw [if_neg names, unnamed]
    by_cases opens : line.opensEnvironments
    · rw [if_pos (show _ = _ from opens), nested_environments opens]
      rfl
    · rw [if_neg (show ¬_ = _ from opens), nested_plain unnamed opens]
      rfl

end DeployEntry

/-- The settings below a header up to a child, what the child gives, and those after what is nested
below it. -/
theorem Line.IsChild.settings_eq {header line : Line} {between : List Line}
    (child : header.IsChild between line) (tail : List Line) :
    DeployEntry.read (between ++ line :: tail) =
      (DeployEntry.read between ++ line.platform?.toList.map DeployEntry.platform) ++
        (DeployEntry.nested line (block line.inner tail) ++
          DeployEntry.read (afterBlock line.inner tail)) := by
  rw [(child.outlies tail).settings_append child.inner_le, DeployEntry.read_child child.significant,
    List.append_assoc]

namespace DeployConfig

theorem ofEntries_append (front after : List DeployEntry) :
    ofEntries (front ++ after) = ⟨(ofEntries after).platform.or (ofEntries front).platform,
      (ofEntries front).environments ++ (ofEntries after).environments⟩ := by
  simp only [ofEntries, List.filterMap_append, List.getLast?_append]

/-- Settings in the midst of others make no difference exactly if they give the same environments, and
the platform is named after them or is the same as far as them. -/
theorem ofEntries_midst_iff (front given given' after : List DeployEntry) :
    ofEntries (front ++ (given ++ after)) = ofEntries (front ++ (given' ++ after)) ↔
      (ofEntries given).environments = (ofEntries given').environments ∧
        ((ofEntries after).platform.isSome ∨ (ofEntries given).platform.or (ofEntries front).platform =
          (ofEntries given').platform.or (ofEntries front).platform) := by
  simp only [ofEntries_append, mk.injEq, List.append_cancel_left_eq, List.append_cancel_right_eq,
    Option.or_assoc]
  rw [and_comm]
  cases (ofEntries after).platform <;> simp

theorem ofEntries_platforms (name? : Option Text) :
    (ofEntries (name?.toList.map DeployEntry.platform)).platform = name? := by
  cases name? <;> rfl

/-- What is nested below a line names a platform only if the line itself does. -/
theorem platform_nested {line : Line} (unnamed : line.platform? = none) (lines : List Line) :
    (ofEntries (DeployEntry.nested line lines)).platform = none := by
  by_cases opens : line.opensEnvironments
  · rw [DeployEntry.nested_environments opens]
    simp [ofEntries, List.filterMap_map]
  · rw [DeployEntry.nested_plain unnamed opens]
    rfl

end DeployConfig

end AppDescription
