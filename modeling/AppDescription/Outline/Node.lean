import AppDescription.Block
import AppDescription.Outline.Finding

namespace AppDescription

/-- What a line does in the body of an interface or of an element. -/
inductive BodyRole where
  | opens (header : ElementHeader)
  | malformed (cause : HeaderFault)
  /-- Its own body is passed over. -/
  | closed
  /-- An `else` without a conditional just before it. -/
  | looseElse
  | literal (key : Text)
  | property (key value : Text)
  /-- The line itself is passed over. -/
  | ignored

/-- The sections of a body that are passed over. -/
def closedSections : List Text :=
  ["pagination", "template"]

namespace BodyRole

/-- The role of a line whose first word opens no element. -/
def ofPlain (kind : LineKind) (text : Text) : BodyRole :=
  if Header.isEventHandler text then .closed
  else if kind.isBareSection closedSections then .closed
  else if Header.isElse text then .looseElse
  else
    match kind with
    | .literalMarker key => .literal key
    | .property key value => if value.isEmpty then .ignored else .property key value
    | _ => .ignored

/-- A line that starts with an element keyword opens an element or is malformed, whatever else it
looks like. -/
def ofLine (line : Line) : BodyRole :=
  if line.isSignificant then
    match line.keyword?.bind fun keyword => ElementHeader.read? keyword line.text with
    | some (.ok header) => .opens header
    | some (.error cause) => .malformed cause
    | none => ofPlain line.kind line.text
  else .ignored

end BodyRole

/-- The readable lines of a body, each with what belongs to it. -/
inductive Node where
  | display (line : Line) (kind : Text) (name : Option Text) (content : Text) (body : List Node)
  | conditional (line : Line) (word : ConditionWord) (condition : Text) (body : List Node)
  /-- A conditional with the line of its `else`. -/
  | choice (line : Line) (word : ConditionWord) (condition : Text) (body : List Node)
      (elseLine : Line) (otherwise : List Node)
  | iteration (line : Line) (item collection : Text) (body : List Node)
  | property (key value : Text)
  | looseElse (line : Line)
  | malformed (line : Line) (cause : HeaderFault)

/-- The `else` line at the indentation of a conditional, when it is the next significant line after
the conditional's body, together with what follows it. -/
def elseBranch? (indent : Nat) (lines : List Line) : Option (Line × List Line) :=
  match lines.dropWhile fun line => !line.isSignificant with
  | [] => none
  | line :: rest =>
    if line.indent = indent ∧ Header.isElse line.text then some (line, rest) else none

theorem elseBranch?_length_lt {indent : Nat} {lines rest : List Line} {line : Line}
    (found : elseBranch? indent lines = some (line, rest)) : rest.length < lines.length := by
  unfold elseBranch? at found
  have shorter :=
    (List.dropWhile_suffix (l := lines) fun line : Line => !line.isSignificant).length_le
  split at found
  · simp at found
  · rename_i first others remaining
    rw [remaining] at shorter
    split at found
    · simp only [Option.some.injEq, Prod.mk.injEq] at found
      rw [← found.2]
      exact shorter
    · simp at found

namespace Node

/-- Reads the lines of a body. A malformed header ends the reading of its body. -/
def read : List Line → List Node
  | [] => []
  | line :: rest =>
    match BodyRole.ofLine line with
    | .ignored => read rest
    | .closed => read (afterBlock line.inner rest)
    | .looseElse => .looseElse line :: read (afterBlock line.inner rest)
    | .property key value => .property key value :: read rest
    | .literal key =>
      .property key (literalText line.inner rest) :: read (afterLiteral line.inner rest)
    | .malformed cause => [.malformed line cause]
    | .opens (.display kind name content) =>
      .display line kind name content (read (members line.inner rest)) ::
        read (afterMembers line.inner rest)
    | .opens (.iteration item collection) =>
      .iteration line item collection (read (members line.inner rest)) ::
        read (afterMembers line.inner rest)
    | .opens (.conditional word condition) =>
      match _found : elseBranch? line.indent (afterMembers line.inner rest) with
      | none =>
        .conditional line word condition (read (members line.inner rest)) ::
          read (afterMembers line.inner rest)
      | some (elseLine, more) =>
        .choice line word condition (read (members line.inner rest)) elseLine
            (read (members line.inner more)) ::
          read (afterMembers line.inner more)
termination_by lines => lines.length
decreasing_by
  all_goals
    have := members_length_le line.inner rest
    have := afterMembers_length_le line.inner rest
    have := afterBlock_length_le line.inner rest
    have := afterLiteral_length_le line.inner rest
    simp only [List.length_cons]
    first
    | omega
    | have := elseBranch?_length_lt _found
      have := members_length_le line.inner more
      have := afterMembers_length_le line.inner more
      omega

/-- Reads the element that a line opens: its node, and the lines it leaves to others. -/
def ofHeader (header : ElementHeader) (line : Line) (below : List Line) : Node × List Line :=
  match header with
  | .display kind name content =>
    (.display line kind name content (read (members line.inner below)),
      afterMembers line.inner below)
  | .iteration item collection =>
    (.iteration line item collection (read (members line.inner below)),
      afterMembers line.inner below)
  | .conditional word condition =>
    match elseBranch? line.indent (afterMembers line.inner below) with
    | none =>
      (.conditional line word condition (read (members line.inner below)),
        afterMembers line.inner below)
    | some (elseLine, more) =>
      (.choice line word condition (read (members line.inner below)) elseLine
        (read (members line.inner more)), afterMembers line.inner more)

/-- The assignments a body makes, in reading order. -/
def assignments (nodes : List Node) : List (Text × Text) :=
  nodes.filterMap fun
    | property key value => some (key, value)
    | _ => none

/-- The assignments a display header makes ahead of its body. -/
def headerAssignments (name : Option Text) (content : Text) : List (Text × Text) :=
  (name.map fun name => ("id".toList, name)).toList ++
    if content.isEmpty then [] else [("text".toList, content)]

mutual

/-- The element of a node, when it is one. -/
def element? : Node → Option Element
  | display _ kind name content body =>
    some (.display kind (name.getD kind)
      (Properties.ofAssignments (headerAssignments name content ++ assignments body))
      (elements body))
  | conditional _ word condition body => some (.conditional word condition (elements body) none)
  | choice _ word condition body _ otherwise =>
    some (.conditional word condition (elements body) (some (elements otherwise)))
  | iteration _ item collection body => some (.iteration item collection (elements body))
  | property .. | looseElse _ | malformed .. => none

def elements : List Node → List Element
  | [] => []
  | node :: rest =>
    match node.element? with
    | some element => element :: elements rest
    | none => elements rest

end

mutual

/-- The findings of a node and of everything in it. -/
def findings : Node → List Finding
  | display _ _ _ _ body | conditional _ _ _ body | iteration _ _ _ body => allFindings body
  | choice _ _ _ body _ otherwise => allFindings body ++ allFindings otherwise
  | property .. => []
  | looseElse line => [.note (.looseElse line.number)]
  | malformed line cause => [.fault ⟨line, cause⟩]

def allFindings : List Node → List Finding
  | [] => []
  | node :: rest => node.findings ++ allFindings rest

end

end Node

end AppDescription
