import AppDescription.Proofs.CorrespondingBlocks
import AppDescription.Proofs.NodeReading
import AppDescription.Proofs.OutlineReading

namespace AppDescription

theorem rel_or {rel : α → β → Prop} {first second : Option α} {first' second' : Option β}
    (left : Option.Rel rel first first') (right : Option.Rel rel second second') :
    Option.Rel rel (first.or second) (first'.or second') := by
  cases left with
  | none => exact right
  | some paired => exact .some paired

/-- The same fault, on the same line. -/
def Fault.Alike (same : Line → Line → Prop) (fault fault' : Fault) : Prop :=
  same fault.line fault'.line ∧ fault.cause = fault'.cause

namespace Node

/-- Two bodies with the same elements and assignments, whose first fault is the same. -/
structure Alike (same : Line → Line → Prop) (nodes nodes' : List Node) : Prop where
  elements : elements nodes = elements nodes'
  assignments : assignments nodes = assignments nodes'
  fault : Option.Rel (Fault.Alike same) (Finding.firstFault? (allFindings nodes))
    (Finding.firstFault? (allFindings nodes'))

namespace Alike

variable {same : Line → Line → Prop} {body body' : List Node}

theorem nil : Alike same [] [] :=
  ⟨rfl, rfl, .none⟩

theorem cons {node node' : Node} {nodes nodes' : List Node} (first : Alike same [node] [node'])
    (rest : Alike same nodes nodes') : Alike same (node :: nodes) (node' :: nodes') := by
  refine ⟨?_, ?_, ?_⟩
  · rw [elements_cons, elements_cons node', first.elements, rest.elements]
  · rw [assignments_cons, assignments_cons node', first.assignments, rest.assignments]
  · rw [allFindings_cons, allFindings_cons node', Finding.firstFault?_append,
      Finding.firstFault?_append]
    exact rel_or first.fault rest.fault

theorem property (key value : Text) : Alike same [property key value] [property key value] :=
  ⟨rfl, rfl, .none⟩

theorem looseElse (line line' : Line) : Alike same [looseElse line] [looseElse line'] :=
  ⟨rfl, rfl, .none⟩

theorem malformed {line line' : Line} (paired : same line line') (cause : HeaderFault) :
    Alike same [malformed line cause] [malformed line' cause] :=
  ⟨rfl, rfl, .some ⟨paired, rfl⟩⟩

theorem display (line line' : Line) (kind : Text) (name : Option Text) (content : Text)
    (alike : Alike same body body') :
    Alike same [display line kind name content body] [display line' kind name content body'] :=
  ⟨by simp [Node.elements, element?, alike.elements, alike.assignments], rfl,
    by simpa [allFindings, findings] using alike.fault⟩

theorem iteration (line line' : Line) (item collection : Text) (alike : Alike same body body') :
    Alike same [iteration line item collection body] [iteration line' item collection body'] :=
  ⟨by simp [Node.elements, element?, alike.elements], rfl,
    by simpa [allFindings, findings] using alike.fault⟩

theorem conditional (line line' : Line) (word : ConditionWord) (condition : Text)
    (alike : Alike same body body') :
    Alike same [conditional line word condition body] [conditional line' word condition body'] :=
  ⟨by simp [Node.elements, element?, alike.elements], rfl,
    by simpa [allFindings, findings] using alike.fault⟩

theorem choice (line line' elseLine elseLine' : Line) (word : ConditionWord) (condition : Text)
    {otherwise otherwise' : List Node} (alike : Alike same body body')
    (alikeElse : Alike same otherwise otherwise') :
    Alike same [choice line word condition body elseLine otherwise]
      [choice line' word condition body' elseLine' otherwise'] := by
  refine ⟨by simp [Node.elements, element?, alike.elements, alikeElse.elements], rfl, ?_⟩
  simp only [allFindings, findings, List.append_nil, Finding.firstFault?_append]
  exact rel_or alike.fault alikeElse.fault

end Alike

end Node

namespace Correspondence

variable {same : Line → Line → Prop} {alike : List Line → List Line → Prop}
  (corresponds : Correspondence same alike) {line line' : Line} {lines lines' : List Line}

include corresponds

theorem role (paired : same line line') : BodyRole.ofLine line = BodyRole.ofLine line' := by
  simp only [BodyRole.ofLine, Line.keyword?, corresponds.significant paired,
    corresponds.kind paired, corresponds.text paired]

/-- The same header opens alike nodes and leaves alike lines, when shorter lists that are alike are
read alike. -/
theorem ofHeader (header : ElementHeader) (paired : same line line') (matched : alike lines lines')
    (ih : ∀ below below', alike below below' → below.length ≤ lines.length →
      Node.Alike same (Node.read below) (Node.read below')) :
    Node.Alike same [(Node.ofHeader header line lines).1] [(Node.ofHeader header line' lines').1] ∧
      alike (Node.ofHeader header line lines).2 (Node.ofHeader header line' lines').2 ∧
        (Node.ofHeader header line lines).2.length ≤ lines.length := by
  have levels := corresponds.inner paired
  have body := ih _ _ (corresponds.members levels matched) (members_length_le _ _)
  have after := corresponds.afterMembers levels matched
  have shorter := afterMembers_length_le line.inner lines
  cases header with
  | display kind name content => exact ⟨.display _ _ _ _ _ body, after, shorter⟩
  | iteration item collection => exact ⟨.iteration _ _ _ _ body, after, shorter⟩
  | conditional word condition =>
    simp only [Node.ofHeader]
    rcases corresponds.elseBranch paired after with
      ⟨none, none'⟩ | ⟨elseLine, elseLine', more, more', found, found', matchedMore⟩
    · rw [none, none']
      exact ⟨.conditional _ _ _ _ body, after, shorter⟩
    · have shorterMore := elseBranch?_length_lt found
      have shorterElse := members_length_le line.inner more
      have shorterAfter := afterMembers_length_le line.inner more
      rw [found, found']
      exact ⟨.choice _ _ _ _ _ _ body
          (ih _ _ (corresponds.members levels matchedMore) (by omega)),
        corresponds.afterMembers levels matchedMore, by dsimp only; omega⟩

theorem nodes_alike (matched : alike lines lines') :
    Node.Alike same (Node.read lines) (Node.read lines') := by
  have skips (line : Line) (rest : List Line) (hidden : ¬line.isSignificant) :
      Node.read (line :: rest) = Node.read rest :=
    Node.read_ignored (by rw [BodyRole.ofLine, if_neg hidden])
  refine corresponds.induction
    (motive := fun lines lines' => Node.Alike same (Node.read lines) (Node.read lines')) ?_ ?_ ?_
    matched
  · intro lines lines' read
    rwa [eq_significantOn skips lines, eq_significantOn skips lines']
  · simpa using Node.Alike.nil
  · intro line line' rest rest' paired _ matchedRest ih
    have tail := ih rest rest' matchedRest le_rfl
    have levels := corresponds.inner paired
    have after := ih _ _ (corresponds.afterBlock levels matchedRest) (afterBlock_length_le _ _)
    have role' := corresponds.role paired
    cases role : BodyRole.ofLine line <;> rw [role] at role'
    case ignored =>
      rw [Node.read_ignored role, Node.read_ignored role'.symm]
      exact tail
    case closed =>
      rw [Node.read_closed role, Node.read_closed role'.symm]
      exact after
    case looseElse =>
      rw [Node.read_looseElse role, Node.read_looseElse role'.symm]
      exact .cons (.looseElse _ _) after
    case property key value =>
      rw [Node.read_property role, Node.read_property role'.symm]
      exact .cons (.property _ _) tail
    case literal key =>
      have opens := BodyRole.ofLine_literal role
      obtain ⟨content, below⟩ := corresponds.literal paired (Or.inl ⟨key, opens⟩) matchedRest
      rw [Node.read_literal role, Node.read_literal role'.symm, content]
      exact .cons (.property _ _) (ih _ _ below (afterLiteral_length_le _ _))
    case malformed cause =>
      rw [Node.read_malformed role, Node.read_malformed role'.symm]
      exact .malformed paired cause
    case opens header =>
      obtain ⟨node, below, shorter⟩ := corresponds.ofHeader header paired matchedRest ih
      rw [Node.read_opens role, Node.read_opens role'.symm]
      exact .cons node (ih _ _ below shorter)

end Correspondence

end AppDescription
