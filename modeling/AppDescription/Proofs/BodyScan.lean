import AppDescription.Proofs.InsertionOrder
import AppDescription.Proofs.ElementLines

namespace AppDescription

namespace Line

/-- Whether a line starts with one of the words of a conditional. -/
def startsConditional (line : Line) : Bool :=
  line.keyword?.any fun word => word = "when".toList || word = "if".toList

/-- What follows the element that a line opens: its members belong to it, and so do the `else` right
after them and the members of that, if the element is a conditional. -/
def afterElement (line : Line) (below : List Line) : List Line :=
  let after := afterMembers line.inner below
  if line.startsConditional then
    match elseBranch? line.indent after with
    | some (_, more) => afterMembers line.inner more
    | none => after
  else after

/-- What a scan of a body goes on with after a line, past the lines that belong to it. -/
def afterOwn (line : Line) (below : List Line) : List Line :=
  if line.startsElement then line.afterElement below
  else if line.ClosesBody then afterBlock line.inner below
  else
    match line.kind with
    | .literalMarker _ => afterLiteral line.inner below
    | _ => below

/-- The lines that belong to a line of a body. -/
def taken (line : Line) (below : List Line) : List Line :=
  below.take (below.length - (line.afterOwn below).length)

/-- What a line of a body sets. -/
def setting? (line : Line) (below : List Line) : Option (Text × Text) :=
  if line.startsElement ∨ line.ClosesBody then none
  else
    match line.kind with
    | .literalMarker key => some (key, literalText line.inner below)
    | .property key value => if value.isEmpty then none else some (key, value)
    | _ => none

theorem afterElement_suffix (line : Line) (below : List Line) : line.afterElement below <:+ below := by
  have after := afterMembers_suffix line.inner below
  unfold afterElement
  dsimp only
  split
  · split
    · rename_i found
      have more := (List.suffix_cons _ _).trans (elseBranch?_suffix found)
      exact (afterMembers_suffix _ _).trans (more.trans after)
    · exact after
  · exact after

theorem afterOwn_suffix (line : Line) (below : List Line) : line.afterOwn below <:+ below := by
  unfold afterOwn
  split
  · exact afterElement_suffix line below
  · split
    · exact afterBlock_suffix _ _
    · split
      · exact afterLiteral_suffix _ _
      · exact List.suffix_refl below

theorem taken_append_afterOwn (line : Line) (below : List Line) :
    line.taken below ++ line.afterOwn below = below := by
  obtain ⟨front, whole⟩ := line.afterOwn_suffix below
  have length := congrArg List.length whole
  rw [List.length_append] at length
  have front_eq : line.taken below = front := by
    rw [taken, show below.length - (line.afterOwn below).length = front.length by omega]
    conv => lhs; rw [← whole]
    exact List.take_left
  rw [front_eq, whole]

end Line

/-- The lines that a body is read by, each with all that stands below it. -/
def ownPlaces : List Line → List (Line × List Line)
  | [] => []
  | line :: below => (line, below) :: ownPlaces (line.afterOwn below)
termination_by lines => lines.length
decreasing_by
  have := (line.afterOwn_suffix below).length_le
  simp only [List.length_cons]
  omega

/-- Every line of a body is one of those that it is read by, or belongs to just one of them. -/
theorem ownPlaces_flatten (lines : List Line) :
    (ownPlaces lines).flatMap (fun place => place.1 :: place.1.taken place.2) = lines := by
  fun_induction ownPlaces lines with
  | case1 => rfl
  | case2 line below ih =>
    rw [List.flatMap_cons, ih, List.cons_append, Line.taken_append_afterOwn]

/-- Only the words of a conditional give the header of one. -/
theorem ElementHeader.read?_conditional {keyword text : Text} {header : ElementHeader}
    (found : read? keyword text = some (.ok header)) :
    (keyword = "when".toList ∨ keyword = "if".toList) ↔ ∃ word condition,
      header = .conditional word condition := by
  unfold read? read?.conditional? at found
  split_ifs at found with isShow isFor isWhen isIf
  · subst isShow
    split at found <;> cases found
    simp
  · subst isFor
    split at found <;> cases found
    simp
  · split at found <;> cases found
    simp [isWhen]
  · split at found <;> cases found
    simp [isIf]

namespace Line

variable {line : Line} {below : List Line}

theorem afterOwn_of_opens {header : ElementHeader} (role : BodyRole.ofLine line = .opens header) :
    line.afterOwn below = (Node.ofHeader header line below).2 := by
  have starts : line.startsElement = true := startsElement_iff.mpr (.inl ⟨header, role⟩)
  obtain ⟨keyword, word, found⟩ := Option.bind_eq_some_iff.mp (BodyRole.ofLine_opens role)
  have conditional : line.startsConditional = true ↔
      ∃ word condition, header = .conditional word condition := by
    rw [← ElementHeader.read?_conditional found]
    simp [startsConditional, word]
  rw [afterOwn, if_pos starts, afterElement]
  cases header with
  | display | iteration =>
    rw [if_neg (by simp [conditional])]
    rfl
  | conditional word condition =>
    rw [if_pos (conditional.mpr ⟨word, condition, rfl⟩)]
    dsimp only [Node.ofHeader]
    cases elseBranch? line.indent (afterMembers line.inner below) <;> rfl

theorem setting?_of_starts (starts : line.startsElement = true) : line.setting? below = none :=
  if_pos (.inl starts)

theorem setting?_of_closes (closes : line.ClosesBody) : line.setting? below = none :=
  if_pos (.inr closes)

theorem afterOwn_of_closes (plain : ¬line.startsElement = true) (closes : line.ClosesBody) :
    line.afterOwn below = afterBlock line.inner below := by
  rw [afterOwn, if_neg plain, if_pos closes]

section

variable (plain : ¬line.startsElement = true) (shown : ¬line.ClosesBody)

include plain shown

theorem afterOwn_of_plain (below : List Line) : line.afterOwn below =
    match line.kind with
    | .literalMarker _ => afterLiteral line.inner below
    | _ => below := by
  rw [afterOwn, if_neg plain, if_neg shown]

theorem setting?_of_plain (below : List Line) : line.setting? below =
    match line.kind with
    | .literalMarker key => some (key, literalText line.inner below)
    | .property key value => if value.isEmpty then none else some (key, value)
    | _ => none := by
  rw [setting?, if_neg (not_or.mpr ⟨plain, shown⟩)]

/-- A line that neither opens an element nor has its body passed over is judged by its kind. -/
theorem ofLine_of_plain : BodyRole.ofLine line =
    match line.kind with
    | .literalMarker key => .literal key
    | .property key value => if value.isEmpty then .ignored else .property key value
    | _ => .ignored := by
  by_cases significant : line.isSignificant
  · simp only [ClosesBody, not_or] at shown
    obtain ⟨noHandler, noSection, noElse⟩ := shown
    have noElement : (line.keyword?.bind fun word => ElementHeader.read? word line.text) = none := by
      refine Option.bind_eq_none_iff.mpr fun word starts => ElementHeader.read?_plain fun among => ?_
      exact plain ((Option.any_eq_true _ _).mpr ⟨word, starts, by simpa using among⟩)
    rw [BodyRole.ofLine, if_pos significant, noElement]
    unfold BodyRole.ofPlain
    exact (if_neg noHandler).trans ((if_neg noSection).trans (if_neg noElse))
  · rw [BodyRole.ofLine, if_neg significant]
    cases kind : line.kind with
    | blank | comment => rfl
    | _ => exact absurd (by rw [isSignificant, kind]; rfl) significant

end

end Line

namespace Node

/-- What the lines of a body set, in their order. -/
def settings (lines : List Line) : List (Text × Text) :=
  (ownPlaces lines).filterMap fun place => place.1.setting? place.2

theorem settings_cons (line : Line) (below : List Line) :
    settings (line :: below) = (line.setting? below).toList ++ settings (line.afterOwn below) := by
  rw [settings, ownPlaces, List.filterMap_cons]
  cases line.setting? below <;> rfl

theorem assignments_ofHeader (header : ElementHeader) (line : Line) (below : List Line) :
    assignments [(ofHeader header line below).1] = [] := by
  cases header with
  | display | iteration => rfl
  | conditional =>
    unfold ofHeader
    dsimp only
    split <;> rfl

/-- A body without a fault makes just the assignments of the lines that it is read by. -/
theorem assignments_read {lines : List Line} (faultless : fault? (read lines) = none) :
    assignments (read lines) = settings lines := by
  fun_induction ownPlaces lines with
  | case1 => simp [assignments, settings, ownPlaces]
  | case2 line below ih =>
    rw [settings_cons]
    by_cases starts : line.startsElement = true
    · rcases Line.startsElement_iff.mp starts with ⟨header, role⟩ | ⟨cause, role⟩
      · rw [read_opens role, fault?_cons, Option.or_eq_none_iff] at faultless
        rw [read_opens role, assignments_cons, Line.setting?_of_starts starts,
          assignments_ofHeader, ← Line.afterOwn_of_opens role]
        rw [← Line.afterOwn_of_opens role] at faultless
        exact ih faultless.2
      · rw [read_malformed role] at faultless
        cases faultless
    · by_cases closes : line.ClosesBody
      · rw [Line.setting?_of_closes closes, Line.afterOwn_of_closes starts closes]
        rw [Line.afterOwn_of_closes starts closes] at ih
        rcases closes.skips with role | role
        · rw [read_closed role] at faultless ⊢
          exact ih faultless
        · rw [read_looseElse role] at faultless ⊢
          rw [fault?_cons, Option.or_eq_none_iff] at faultless
          exact ih faultless.2
      · have role := Line.ofLine_of_plain starts closes
        have after := Line.afterOwn_of_plain starts closes below
        have sets := Line.setting?_of_plain starts closes below
        cases kind : line.kind with
        | literalMarker key =>
          simp only [kind] at role after sets
          rw [read_literal role] at faultless ⊢
          rw [fault?_cons, Option.or_eq_none_iff] at faultless
          rw [after] at ih ⊢
          rw [assignments_cons, sets, ih faultless.2]
          rfl
        | property key value =>
          simp only [kind] at role after sets
          rw [after] at ih ⊢
          split at role
          · rename_i empty
            rw [if_pos empty] at sets
            rw [read_ignored role] at faultless ⊢
            rw [sets]
            exact ih faultless
          · rename_i filled
            rw [if_neg filled] at sets
            rw [read_property role] at faultless ⊢
            rw [fault?_cons, Option.or_eq_none_iff] at faultless
            rw [assignments_cons, sets, ih faultless.2]
            rfl
        | _ =>
          simp only [kind] at role after sets
          rw [read_ignored role] at faultless ⊢
          rw [after] at ih ⊢
          rw [sets]
          exact ih faultless

end Node

end AppDescription
