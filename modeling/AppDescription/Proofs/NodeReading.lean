import AppDescription.Proofs.Passage

namespace AppDescription

/-- The words that open an element wherever they start a line. -/
def elementWords : List Text :=
  ["show", "for_each", "when", "if"]

namespace ElementHeader

theorem read?_plain {keyword text : Text} (plain : keyword ∉ elementWords) :
    read? keyword text = none := by
  simp only [elementWords, List.mem_cons, List.not_mem_nil, or_false, not_or] at plain
  obtain ⟨noShow, noFor, noWhen, noIf⟩ := plain
  rw [read?, if_neg noShow, if_neg noFor, if_neg noWhen, if_neg noIf]

theorem read?_eq_error {keyword text : Text} {cause : HeaderFault}
    (malformed : read? keyword text = some (.error cause)) :
    keyword ∈ elementWords ∧ cause = .statement keyword text := by
  constructor
  · by_contra plain
    rw [read?_plain plain] at malformed
    cases malformed
  · unfold read? read?.conditional? at malformed
    split_ifs at malformed <;> split at malformed <;> cases malformed <;> rfl

end ElementHeader

namespace BodyRole

/-- The words of a line that opens no element make it a literal only by its kind. -/
theorem ofPlain_cases (kind : LineKind) (text : Text) :
    (∀ header, ofPlain kind text ≠ .opens header) ∧ (∀ cause, ofPlain kind text ≠ .malformed cause) ∧
      ∀ key, ofPlain kind text = .literal key → kind = .literalMarker key := by
  unfold ofPlain
  cases kind with
  | property key value =>
    dsimp only
    split_ifs <;> simp
  | _ => split_ifs <;> simp

/-- Blank and comment lines have no role but to be passed over. -/
theorem significant_of_ofLine {line : Line} (role : ofLine line ≠ .ignored) : line.isSignificant := by
  by_contra hidden
  rw [ofLine, if_neg hidden] at role
  exact role rfl

theorem ofLine_cases (line : Line) :
    (∃ header, ofLine line = .opens header ∧ (line.keyword?.bind fun keyword =>
        ElementHeader.read? keyword line.text) = some (.ok header)) ∨
      (∃ cause, ofLine line = .malformed cause ∧ (line.keyword?.bind fun keyword =>
        ElementHeader.read? keyword line.text) = some (.error cause)) ∨
      ofLine line = ofPlain line.kind line.text ∨ ofLine line = .ignored := by
  unfold ofLine
  split
  · split
    · rename_i header found
      exact Or.inl ⟨header, rfl, found⟩
    · rename_i cause found
      exact Or.inr (Or.inl ⟨cause, rfl, found⟩)
    · exact Or.inr (Or.inr (Or.inl rfl))
  · exact Or.inr (Or.inr (Or.inr rfl))

theorem ofLine_literal {line : Line} {key : Text} (role : ofLine line = .literal key) :
    line.kind = .literalMarker key := by
  rcases ofLine_cases line with ⟨_, opens, _⟩ | ⟨_, malformed, _⟩ | plain | ignored
  · cases role.symm.trans opens
  · cases role.symm.trans malformed
  · exact (ofPlain_cases _ _).2.2 key (plain.symm.trans role)
  · cases role.symm.trans ignored

theorem ofLine_property {line : Line} {key value : Text} (role : ofLine line = .property key value) :
    line.kind = .property key value ∧ value ≠ [] := by
  rcases ofLine_cases line with ⟨_, opens, _⟩ | ⟨_, malformed, _⟩ | plain | ignored
  · cases role.symm.trans opens
  · cases role.symm.trans malformed
  · have same := plain.symm.trans role
    unfold ofPlain at same
    cases kind : line.kind with
    | property found given =>
      simp only [kind] at same
      split_ifs at same with _ _ _ empty
      cases same
      exact ⟨rfl, by simpa using empty⟩
    | _ =>
      simp only [kind] at same
      split_ifs at same
  · cases role.symm.trans ignored

theorem ofLine_opens {line : Line} {header : ElementHeader} (role : ofLine line = .opens header) :
    (line.keyword?.bind fun keyword => ElementHeader.read? keyword line.text) = some (.ok header) := by
  rcases ofLine_cases line with ⟨_, opens, found⟩ | ⟨_, malformed, _⟩ | plain | ignored
  · cases role.symm.trans opens
    exact found
  · cases role.symm.trans malformed
  · exact absurd (plain.symm.trans role) ((ofPlain_cases _ _).1 header)
  · cases role.symm.trans ignored

theorem ofLine_malformed {line : Line} {cause : HeaderFault} (role : ofLine line = .malformed cause) :
    (line.keyword?.bind fun keyword => ElementHeader.read? keyword line.text) =
      some (.error cause) := by
  rcases ofLine_cases line with ⟨_, opens, _⟩ | ⟨_, malformed, found⟩ | plain | ignored
  · cases role.symm.trans opens
  · cases role.symm.trans malformed
    exact found
  · exact absurd (plain.symm.trans role) ((ofPlain_cases _ _).2.1 cause)
  · cases role.symm.trans ignored

end BodyRole

namespace Node

variable {line : Line} {rest : List Line}

@[simp]
theorem read_nil : read [] = [] := by rw [read]

theorem read_ignored (role : BodyRole.ofLine line = .ignored) : read (line :: rest) = read rest := by
  rw [read, role]

theorem read_closed (role : BodyRole.ofLine line = .closed) :
    read (line :: rest) = read (afterBlock line.inner rest) := by
  rw [read, role]

theorem read_looseElse (role : BodyRole.ofLine line = .looseElse) :
    read (line :: rest) = .looseElse line :: read (afterBlock line.inner rest) := by
  rw [read, role]

theorem read_property {key value : Text} (role : BodyRole.ofLine line = .property key value) :
    read (line :: rest) = .property key value :: read rest := by
  rw [read, role]

theorem read_literal {key : Text} (role : BodyRole.ofLine line = .literal key) :
    read (line :: rest) =
      .property key (literalText line.inner rest) :: read (afterLiteral line.inner rest) := by
  rw [read, role]

theorem read_malformed {cause : HeaderFault} (role : BodyRole.ofLine line = .malformed cause) :
    read (line :: rest) = [.malformed line cause] := by
  rw [read, role]

theorem read_opens {header : ElementHeader} (role : BodyRole.ofLine line = .opens header) :
    read (line :: rest) =
      (ofHeader header line rest).1 :: read (ofHeader header line rest).2 := by
  rw [read, role]
  cases header with
  | display kind name content => rfl
  | iteration item collection => rfl
  | conditional word condition =>
    simp only [ofHeader]
    split <;> simp only [*]

theorem elements_cons (node : Node) (nodes : List Node) :
    elements (node :: nodes) = elements [node] ++ elements nodes := by
  cases found : node.element? <;> simp [Node.elements, found]

theorem assignments_cons (node : Node) (nodes : List Node) :
    assignments (node :: nodes) = assignments [node] ++ assignments nodes :=
  List.filterMap_append (l := [node])

theorem allFindings_append (first second : List Node) :
    allFindings (first ++ second) = allFindings first ++ allFindings second := by
  induction first with
  | nil => rfl
  | cons node first ih =>
    rw [List.cons_append, allFindings, ih, allFindings, List.append_assoc]

theorem allFindings_cons (node : Node) (nodes : List Node) :
    allFindings (node :: nodes) = allFindings [node] ++ allFindings nodes :=
  allFindings_append [node] nodes

/-- The line of the `else` that belongs to a node. -/
def elseLine? : Node → Option Line
  | choice _ _ _ _ elseLine _ => some elseLine
  | _ => none

/-- An element leaves what follows the block of everything deeper than its header. Only a
conditional may go on, over its own `else` line at its own indentation and what is deeper than
that. -/
theorem ofHeader_passes (header : ElementHeader) (line : Line) (below : List Line) :
    Passes line.inner below (ofHeader header line below).2 ∨
      ∃ elseLine more,
        (ofHeader header line below).1.elseLine? = some elseLine ∧
          elseLine.indent = line.indent ∧ Header.isElse elseLine.text ∧
          Passes line.inner below (elseLine :: more) ∧
          Passes line.inner more (ofHeader header line below).2 := by
  have body := afterMembers_passes line.inner below
  cases header with
  | display kind name content => exact Or.inl body
  | iteration item collection => exact Or.inl body
  | conditional word condition =>
    simp only [ofHeader]
    split
    · exact Or.inl body
    · rename_i elseLine more found
      obtain ⟨next, level, spelled⟩ := elseBranch?_eq_some found
      have gap := dropInsignificant_passes line.inner (afterMembers line.inner below)
      rw [next] at gap
      exact Or.inr ⟨elseLine, more, rfl, level, spelled, body.trans gap,
        afterMembers_passes line.inner more⟩

/-- All of them are lines no shallower than the header. -/
theorem ofHeader_moves (header : ElementHeader) (line : Line) (below : List Line) :
    Passes line.indent below (ofHeader header line below).2 := by
  have ordered : line.indent ≤ line.inner := Nat.le_succ _
  rcases ofHeader_passes header line below with passes | ⟨elseLine, more, _, level, _, body, otherwise⟩
  · exact passes.mono ordered
  · have own : elseLine.within line.indent = true := by simp [Line.within, level]
    exact (body.mono ordered).trans (.cons own (otherwise.mono ordered))

end Node

end AppDescription
