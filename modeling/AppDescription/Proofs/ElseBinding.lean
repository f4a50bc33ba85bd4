import AppDescription.Proofs.Opacity
import AppDescription.Proofs.OutlineElements

namespace AppDescription

/-- An `else` below a line at the same indentation, with the lines between the two and those that
follow. -/
structure ElseBelow (lines : List Line) (line : Line) (between : List Line) (elseLine : Line)
    (after : List Line) : Prop where
  split : ∃ above, lines = above ++ line :: (between ++ elseLine :: after)
  spelled : Header.isElse elseLine.text
  level : elseLine.indent = line.indent

/-- Lines that make up one body below a header, if any: they are deeper than the header and none of
them is shallower than the first. -/
def IsBody (line : Line) (lines : List Line) : Prop :=
  ∀ first ∈ nextSignificant? lines, line.indent < first.indent ∧
    ∀ other ∈ lines, other.isSignificant → first.indent ≤ other.indent

theorem IsBody.afterMembers {line : Line} {lines : List Line} (body : IsBody line lines) :
    ∀ other ∈ afterMembers line.inner lines, ¬other.isSignificant := by
  unfold AppDescription.afterMembers baseline?
  cases found : nextSignificant? lines with
  | none => exact List.find?_eq_none.mp found
  | some first =>
    obtain ⟨deeper, level⟩ := body first found
    have ended : afterBlock first.indent lines = [] := by
      refine List.dropWhile_eq_nil_iff.mpr fun other member => ?_
      by_cases significant : other.isSignificant
      · exact (Line.within_iff significant).mpr (level other member significant)
      · exact Line.within_of_not_significant significant _
    have inner : line.inner ≤ first.indent := deeper
    simp only [if_pos inner, ended]
    simp

theorem Header.isElse_significant {line : Line} (spelled : isElse line.text) : line.isSignificant :=
  (show line.ClosesBody from .inr (.inr spelled)).skips.significant

namespace Node

/-- A conditional takes the `else` that stands below its body, and what is read below that. -/
theorem ofHeader_else {line elseLine : Line} {between after : List Line} (word : ConditionWord)
    (condition : Text) (spelled : Header.isElse elseLine.text) (level : elseLine.indent = line.indent)
    (body : IsBody line between) :
    (ofHeader (.conditional word condition) line (between ++ elseLine :: after)).1 =
      .choice line word condition (read (members line.inner between)) elseLine
        (read (members elseLine.inner after)) := by
  have significant := Header.isElse_significant spelled
  have outlies : Outlies line.inner (elseLine :: after) := by
    intro first head
    cases head
    exact ⟨significant, by rw [Line.inner]; omega⟩
  have found : elseBranch? line.indent (afterMembers line.inner (between ++ elseLine :: after)) =
      some (elseLine, after) := by
    have hidden : ∀ other ∈ afterMembers line.inner between, (!other.isSignificant) = true :=
      fun other member => by simpa using body.afterMembers other member
    have next : (elseLine :: after).dropWhile (fun other => !other.isSignificant) =
        elseLine :: after := List.dropWhile_cons_of_neg (by simp [significant])
    rw [outlies.afterMembers_append le_rfl, elseBranch?, List.dropWhile_append_of_pos hidden, next]
    exact if_pos ⟨level, spelled⟩
  have inner : elseLine.inner = line.inner := congrArg (· + 1) level
  simp only [ofHeader, found, outlies.members_append le_rfl, inner]

/-- The `else` of an element stands below its body at its own indentation. -/
theorem ofHeader_elseLine? {header : ElementHeader} {line elseLine : Line} {below : List Line}
    (own : (ofHeader header line below).1.elseLine? = some elseLine) :
    ∃ word condition between after, header = .conditional word condition ∧
      below = between ++ elseLine :: after ∧ Header.isElse elseLine.text ∧
      elseLine.indent = line.indent ∧ (∀ other ∈ between, other.within line.inner = true) ∧
      (ofHeader header line below).1 = .choice line word condition (read (members line.inner below))
        elseLine (read (members elseLine.inner after)) := by
  cases header with
  | display | iteration => cases own
  | conditional word condition =>
    have body := afterMembers_passes line.inner below
    simp only [ofHeader] at own ⊢
    split at own
    · cases own
    · rename_i other after found
      cases own
      obtain ⟨next, level, spelled⟩ := elseBranch?_eq_some found
      have gap := dropInsignificant_passes line.inner (afterMembers line.inner below)
      rw [next] at gap
      obtain ⟨between, split, inside⟩ := body.trans gap
      have inner : elseLine.inner = line.inner := congrArg (· + 1) level
      exact ⟨word, condition, between, after, rfl, split, spelled, level, inside, by rw [inner]⟩

end Node

/-- Two headers above one `else` are the same, or one of them stands between the other and the
`else`. -/
theorem ElseBelow.cases {lines between between' after after' : List Line} {line line' elseLine : Line}
    (nodup : lines.Nodup) (below : ElseBelow lines line between elseLine after)
    (below' : ElseBelow lines line' between' elseLine after') :
    line = line' ∨ line' ∈ between ∨ line ∈ between' := by
  obtain ⟨above, split⟩ := below.split
  obtain ⟨above', split'⟩ := below'.split
  rw [← List.cons_append, ← List.append_assoc] at split split'
  have fresh : elseLine ∉ above ++ line :: between ∧ elseLine ∉ after := by
    rw [split, List.nodup_append] at nodup
    exact ⟨fun member => nodup.2.2 _ member _ List.mem_cons_self rfl,
      (List.nodup_cons.mp nodup.2.1).1⟩
  have same := split.symm.trans split'
  rw [List.append_cons_inj_of_notMem fresh.1 fresh.2] at same
  rcases List.append_eq_append_iff.mp same.1 with ⟨more, _, rest⟩ | ⟨more, _, rest⟩
  · cases more with
    | nil => exact .inl (List.cons.inj rest).1
    | cons first more =>
      rw [(List.cons.inj rest).2]
      exact .inr (.inl (by simp))
  · cases more with
    | nil => exact .inl (List.cons.inj rest).1.symm
    | cons first more =>
      rw [(List.cons.inj rest).2]
      exact .inr (.inr (by simp))

namespace Outline

/-- A node with an `else` is a conditional, and its `else` is that of the header it stands below. -/
theorem elseBelow {lines : List Line} {node : Node} {elseLine : Line}
    (among : node ∈ (read lines).elementNodes) (own : node.elseLine? = some elseLine) :
    ∃ line between after, node.headerLine? = some line ∧ line.isSignificant ∧
      ElseBelow lines line between elseLine after ∧
      (∀ other ∈ between, other.within line.inner = true) ∧
      ∃ word condition body, node = .choice line word condition body elseLine
        (Node.read (members elseLine.inner after)) := by
  obtain ⟨above, line, below, header, place, role, rfl⟩ := exists_place among
  obtain ⟨word, condition, between, after, _, split, spelled, level, inside, same⟩ :=
    Node.ofHeader_elseLine? own
  have significant : line.isSignificant := BodyRole.significant_of_ofLine (by simp [role])
  exact ⟨line, between, after, Node.headerLine?_ofHeader _ _ _, significant,
    ⟨⟨above, split ▸ place⟩, spelled, level⟩, inside, word, condition, _, same⟩

/-- A conditional has the `else` below it when there is nothing but its body between. -/
theorem choice_of_elseBelow {lines : List Line} {node : Node} {line elseLine : Line}
    {between after : List Line} {word : ConditionWord} {condition : Text} {body : List Element}
    {otherwise? : Option (List Element)} (nodup : lines.Nodup)
    (among : node ∈ (read lines).elementNodes)
    (stands : node.element? = some (.conditional word condition body otherwise?))
    (header : node.headerLine? = some line) (below : ElseBelow lines line between elseLine after)
    (isBody : IsBody line between) :
    node = .choice line word condition (Node.read (members line.inner between)) elseLine
      (Node.read (members elseLine.inner after)) := by
  obtain ⟨above, found, rest, opening, place, _, rfl⟩ := exists_place among
  cases (Node.headerLine?_ofHeader opening found rest).symm.trans header
  obtain ⟨above', split⟩ := below.split
  rw [place, List.nodup_append] at nodup
  have notAbove : line ∉ above := fun member => nodup.2.2 _ member _ List.mem_cons_self rfl
  have notBelow : line ∉ rest := (List.nodup_cons.mp nodup.2.1).1
  have same := place.symm.trans split
  rw [List.append_cons_inj_of_notMem notAbove notBelow] at same
  obtain ⟨_, _, rfl⟩ := same
  obtain ⟨element, stands', titles⟩ := Node.ofHeader_titles opening line (between ++ elseLine :: after)
  cases stands'.symm.trans stands
  cases opening with
  | display | iteration => cases titles
  | conditional word' condition' =>
    obtain ⟨rfl, rfl⟩ := titles
    exact Node.ofHeader_else word condition below.spelled below.level isBody

/-- One `else` belongs to one header only. -/
theorem elseBelow_unique {lines : List Line} {node node' : Node} {elseLine line line' : Line}
    (nodup : lines.Nodup) (among : node ∈ (read lines).elementNodes)
    (among' : node' ∈ (read lines).elementNodes) (own : node.elseLine? = some elseLine)
    (own' : node'.elseLine? = some elseLine) (header : node.headerLine? = some line)
    (header' : node'.headerLine? = some line') : line = line' := by
  obtain ⟨_, between, after, found, shown, below, inside, _⟩ := elseBelow among own
  obtain ⟨_, between', after', found', shown', below', inside', _⟩ := elseBelow among' own'
  cases header.symm.trans found
  cases header'.symm.trans found'
  -- a header between the other and the `else` would be deeper than its own `else`
  have same := below.level.symm.trans below'.level
  have deeper {upper lower : Line} {lines : List Line} (shown : lower.isSignificant)
      (inside : ∀ other ∈ lines, other.within upper.inner = true) (member : lower ∈ lines) :
      upper.indent < lower.indent := (Line.within_iff shown).mp (inside lower member)
  rcases below.cases nodup below' with equal | member | member'
  · exact equal
  · have shallow := deeper shown' inside member
    omega
  · have shallow := deeper shown inside' member'
    omega

theorem elseLines_nodup {lines : List Line} (nodup : lines.Nodup) :
    ((read lines).elementNodes.filterMap Node.elseLine?).Nodup := by
  have headers := (nodup.filter _).sublist (headerLines_sublist lines)
  rw [List.Nodup, List.pairwise_filterMap] at headers ⊢
  refine headers.imp_of_mem fun among among' apart elseLine own elseLine' own' same => ?_
  subst same
  obtain ⟨line, _, header, _⟩ := exists_heads among
  obtain ⟨line', _, header', _⟩ := exists_heads among'
  exact apart line header line' header' (elseBelow_unique nodup among among' own own' header header')

end Outline

/-- Every `else` goes with one conditional. One that a conditional of a document has stands below it at
the same indentation, with nothing but deeper lines between, and serves no other conditional. Each
`else` below a conditional at the same indentation, with nothing or one body between, is the one it
has, and the elements of that branch are those in the body below the `else`. -/
theorem Document.else_bound {source : Text} {document : Document}
    (parsed : parse source = .ok document) :
    let nodes := (Outline.ofSource source).elementNodes
    nodes.map Node.element? = (document.interfaces.flatMap Interface.walk).map some ∧
    (∀ node ∈ nodes, ∀ word condition body otherwise,
      node.element? = some (.conditional word condition body (some otherwise)) →
      ∃ line between elseLine after, node.headerLine? = some line ∧
        line.Heads (.conditional word condition body (some otherwise)) ∧
        node.elseLine? = some elseLine ∧
        ElseBelow (Line.ofSource source) line between elseLine after ∧
        (∀ other ∈ between, other.isSignificant → line.indent < other.indent) ∧
        otherwise = Node.elements (Node.read (members elseLine.inner after))) ∧
    (nodes.filterMap Node.elseLine?).Nodup ∧
    ∀ node ∈ nodes, ∀ word condition body otherwise?,
      node.element? = some (.conditional word condition body otherwise?) →
      ∀ line between elseLine after, node.headerLine? = some line →
        ElseBelow (Line.ofSource source) line between elseLine after → IsBody line between →
        node.elseLine? = some elseLine ∧
          body = Node.elements (Node.read (members line.inner between)) ∧
          otherwise? = some (Node.elements (Node.read (members elseLine.inner after))) := by
  obtain ⟨faultless, rfl⟩ := parse_eq_ok.mp parsed
  have nodup : (Line.ofSource source).Nodup :=
    (Line.numberFrom_increasing 1 _).imp fun ordered equal => by simp [equal] at ordered
  refine ⟨Outline.elementNodes_walk _, ?_, Outline.elseLines_nodup nodup, ?_⟩
  · intro node among word condition body otherwise stands
    obtain ⟨elseLine, own⟩ : ∃ elseLine, node.elseLine? = some elseLine := by
      cases node <;> cases stands
      exact ⟨_, rfl⟩
    obtain ⟨line, between, after, header, _, below, inside, _, _, _, same⟩ :=
      Outline.elseBelow among own
    obtain ⟨line', element, header', stands', heads⟩ := Outline.exists_heads among
    cases header.symm.trans header'
    cases stands.symm.trans stands'
    refine ⟨line, between, elseLine, after, header, heads, own, below, ?_, ?_⟩
    · exact fun other member shown => (Line.within_iff shown).mp (inside other member)
    · subst same
      cases stands
      rfl
  · intro node among word condition body otherwise? stands line between elseLine after header below
      isBody
    have same := Outline.choice_of_elseBelow nodup among stands header below isBody
    subst same
    cases stands
    exact ⟨rfl, rfl, rfl⟩

theorem Document.else_bound_nested :
    let source : Text := "interface Home:\n  when a:\n    when b:\n      show c:\n    else :\n" ++
      "      show d:\n\n  # e\n  else:\n    show f:\n"
    ∃ document, parse source = .ok document ∧
      ∃ node ∈ (Outline.ofSource source).elementNodes, node.headerLine? = some ⟨2, "  when a:"⟩ ∧
        node.elseLine? = some ⟨9, "  else:"⟩ ∧ ∃ body,
          node.element? = some (.conditional .whenWord "a" body
            (some (Node.elements (Node.read (members 3 [⟨10, "    show f:"⟩, ⟨11, ""⟩]))))) := by
  intro source
  have faultless : (Outline.ofSource source).fault? = none := by decide +kernel
  have parsed := parse_eq_ok.mpr ⟨faultless, rfl⟩
  let line : Line := ⟨2, "  when a:"⟩
  let between : List Line := [⟨3, "    when b:"⟩, ⟨4, "      show c:"⟩, ⟨5, "    else :"⟩,
    ⟨6, "      show d:"⟩, ⟨7, ""⟩, ⟨8, "  # e"⟩]
  have below : ElseBelow (Line.ofSource source) line between ⟨9, "  else:"⟩
      [⟨10, "    show f:"⟩, ⟨11, ""⟩] :=
    ⟨⟨[⟨1, "interface Home:"⟩], by decide +kernel⟩, by decide +kernel, by decide +kernel⟩
  have isBody : IsBody line between := by
    have first : nextSignificant? between = some ⟨3, "    when b:"⟩ := by decide +kernel
    rw [IsBody, first]
    intro _ found
    cases found
    decide +kernel
  have headed : (Outline.ofSource source).elementNodes.head?.bind Node.headerLine? = some line := by
    decide +kernel
  obtain ⟨node, first, header⟩ := Option.bind_eq_some_iff.mp headed
  have among := List.mem_of_mem_head? first
  obtain ⟨line', element, header', stands, opening, role, titles⟩ := Outline.exists_heads among
  cases header.symm.trans header'
  have role' : BodyRole.ofLine line = .opens (.conditional .whenWord "a") := by rfl
  cases role.symm.trans role'
  cases element with
  | display | iteration => cases titles
  | conditional word condition body otherwise =>
    obtain ⟨rfl, rfl⟩ := titles
    obtain ⟨own, _, rfl⟩ := (else_bound parsed).2.2.2 node among _ _ _ _ stands line between _ _
      header below isBody
    exact ⟨_, parsed, node, among, header, own, body, stands⟩

end AppDescription
