import AppDescription.Proofs.DeclarationPlaces
import AppDescription.Proofs.Opacity
import AppDescription.Proofs.OutlineElements

namespace AppDescription

/-- Each line that declares an interface, with all the lines below it. -/
def interfacePlaces : List Line → List (Line × List Line)
  | [] => []
  | line :: rest =>
    if line.declarationKind? = some .interface then (line, rest) :: interfacePlaces rest
    else interfacePlaces rest

theorem interfacePlaces_eq (lines : List Line) :
    interfacePlaces lines = (declarationPlaces lines).filter
      fun place => place.1.declarationKind? = some .interface := by
  induction lines with
  | nil => rfl
  | cons line rest ih =>
    rw [interfacePlaces, declarationPlaces, ih]
    cases declares : line.declarationKind? with
    | none => simp
    | some kind => by_cases same : kind = .interface <;> simp [declares, same]

/-- An interface that is read without a fault from the lines below its header. -/
structure ReadAt (place : Line × List Line) (interface : Interface) : Prop where
  announces : place.1.Announces (.interface, interface.name)
  elements : interface.elements = Node.elements (Node.read (members 1 place.2))
  faultless : Node.fault? (Node.read (members 1 place.2)) = none

theorem ReadsAs.readAt {place : Line × List Line} {block : InterfaceBlock}
    (reads : ReadsAs place (.interface block)) : ReadAt place block.interface := by
  obtain ⟨body, faultless⟩ := reads.interface rfl
  exact ⟨reads.announces, congrArg Node.elements body, faultless⟩

/-- The interfaces of a source are those that it declares, each read from the lines below its
header. -/
theorem Outline.interfaces_readAt {lines : List Line} (faultless : (read lines).fault? = none) :
    List.Forall₂ ReadAt (interfacePlaces lines)
      (Document.ofDeclarations (read lines).declarations).interfaces := by
  rw [interfacePlaces_eq]
  refine forall₂_filterMap (declarations_readsAs faultless) ?_ ?_
  · intro place declaration reads kept
    have kind := Option.some.inj (reads.declares.symm.trans (of_decide_eq_true kept))
    cases declaration with
    | interface block => exact ⟨_, rfl, reads.readAt⟩
    | _ => cases kind
  · intro place declaration reads other
    cases declaration with
    | interface block => exact absurd reads.declares (of_decide_eq_false other)
    | _ => rfl

def LineKind.isLiteralMarker : LineKind → Bool
  | .literalMarker _ => true
  | _ => false

/-- A line that neither opens a literal nor has its own body passed over. -/
def Line.IsOpen (line : Line) : Prop :=
  line.kind.isLiteralMarker = false ∧ ¬line.ClosesBody

instance Line.decidableClosesBody (line : Line) : Decidable line.ClosesBody :=
  inferInstanceAs (Decidable (_ ∨ _ ∨ _))

instance Line.decidableIsOpen (line : Line) : Decidable line.IsOpen :=
  inferInstanceAs (Decidable (_ ∧ _))

theorem BodyRole.ofPlain_of_open {line : Line} (isOpen : line.IsOpen) :
    ofPlain line.kind line.text ≠ .closed ∧ ofPlain line.kind line.text ≠ .looseElse ∧
      ∀ key, ofPlain line.kind line.text ≠ .literal key := by
  obtain ⟨noLiteral, noClosed⟩ := isOpen
  simp only [Line.ClosesBody, not_or] at noClosed
  obtain ⟨noHandler, noSection, noElse⟩ := noClosed
  simp only [ofPlain, noHandler, noSection, noElse, Bool.false_eq_true, if_false]
  cases kind : line.kind with
  | literalMarker key => simp [kind, LineKind.isLiteralMarker] at noLiteral
  | property key value =>
    dsimp only
    split <;> simp
  | _ => simp

theorem BodyRole.ofLine_of_open {line : Line} (isOpen : line.IsOpen) :
    ofLine line ≠ .closed ∧ ofLine line ≠ .looseElse ∧ ∀ key, ofLine line ≠ .literal key := by
  rcases ofLine_cases line with ⟨_, opens, _⟩ | ⟨_, malformed, _⟩ | plain | ignored
  · simp [opens]
  · simp [malformed]
  · rw [plain]
    exact ofPlain_of_open isOpen
  · simp [ignored]

namespace Node

/-- Every line below an open line is in a part that is read on, unless the line is malformed. -/
theorem parts_of_open {line : Line} {rest : List Line} (isOpen : line.IsOpen)
    (others : ∀ other ∈ rest, other.IsOpen)
    (wellFormed : ∀ cause, BodyRole.ofLine line ≠ .malformed cause) :
    (parts line rest).flatten = rest := by
  obtain ⟨notClosed, notElse, notLiteral⟩ := BodyRole.ofLine_of_open isOpen
  unfold parts
  cases role : BodyRole.ofLine line with
  | ignored | property => simp
  | closed => exact absurd role notClosed
  | looseElse => exact absurd role notElse
  | literal key => exact absurd role (notLiteral key)
  | malformed cause => exact absurd role (wellFormed cause)
  | opens header =>
    have body := members_append_afterMembers line.inner rest
    cases header with
    | display | iteration => simpa [ElementHeader.parts, ElementHeader.further] using body
    | conditional word condition =>
      have none : elseBranch? line.indent (afterMembers line.inner rest) = none := by
        by_contra some
        obtain ⟨⟨elseLine, more⟩, found⟩ := Option.ne_none_iff_exists'.mp some
        have among := (afterMembers_suffix line.inner rest).subset
          ((elseBranch?_suffix found).subset List.mem_cons_self)
        exact (others elseLine among).2 (.inr (.inr (elseBranch?_eq_some found).2.2))
      simpa [ElementHeader.parts, ElementHeader.further, none] using body

/-- Among open lines every one that starts an element is the header of one. -/
theorem headerLines_of_open {lines : List Line} (isOpen : ∀ line ∈ lines, line.IsOpen)
    (faultless : fault? (read lines) = none) :
    headerLines (read lines) = lines.filter Line.startsElement := by
  induction size : lines.length using Nat.strong_induction_on generalizing lines with
  | _ size ih =>
    cases lines with
    | nil => simp [headerLines, preorderAll]
    | cons line rest =>
      rw [List.length_cons] at size
      obtain ⟨first, others⟩ := List.forall_mem_cons.mp isOpen
      rw [fault?_read_cons] at faultless
      have wellFormed : ∀ cause, BodyRole.ofLine line ≠ .malformed cause := by
        intro cause role
        simp [role] at faultless
      have inParts : ∀ part ∈ parts line rest, fault? (read part) = none := by
        split at faultless
        · cases faultless
        · exact List.findSome?_eq_none_iff.mp faultless
      have below : ((parts line rest).flatMap fun part => headerLines (read part)) =
          rest.filter Line.startsElement := by
        calc ((parts line rest).flatMap fun part => headerLines (read part))
            = (parts line rest).flatMap (List.filter Line.startsElement) :=
              List.flatMap_congr fun part among => by
                have sub := part_sublist among
                have shorter := sub.length_le
                exact ih part.length (by omega)
                  (fun other inside => others other (sub.subset inside)) (inParts part among) rfl
          _ = (parts line rest).flatten.filter Line.startsElement := by
            rw [List.filter_flatten, List.flatMap_def]
          _ = rest.filter Line.startsElement := by
            rw [parts_of_open first others wellFormed]
      rw [headerLines_read_cons, below]
      cases role : BodyRole.ofLine line with
      | opens header =>
        have starts : line.startsElement = true := Line.startsElement_iff.mpr (.inl ⟨header, role⟩)
        rw [List.filter_cons_of_pos starts]
        rfl
      | malformed cause => exact absurd role (wellFormed cause)
      | _ =>
        have other : ¬line.startsElement = true := by simp [Line.startsElement_iff, role]
        rw [List.filter_cons_of_neg other]
        rfl

end Node

/-- Lines that are all open, and none shallower than the first one. -/
structure PlainBody (lines : List Line) : Prop where
  isOpen : ∀ line ∈ lines, line.IsOpen
  level : ∀ first ∈ nextSignificant? lines, ∀ line ∈ lines, line.isSignificant →
    first.indent ≤ line.indent

instance decidablePlainBody (lines : List Line) : Decidable (PlainBody lines) :=
  decidable_of_iff ((∀ line ∈ lines, line.IsOpen) ∧ ∀ first ∈ nextSignificant? lines,
    ∀ line ∈ lines, line.isSignificant → first.indent ≤ line.indent)
    ⟨fun both => ⟨both.1, both.2⟩, fun plain => ⟨plain.isOpen, plain.level⟩⟩

/-- The members of a plain body are all of its lines, unless there is nothing in it. -/
theorem PlainBody.filter_members {lines : List Line} (plain : PlainBody (block 1 lines)) :
    (members 1 (block 1 lines)).filter Line.startsElement =
      (block 1 lines).filter Line.startsElement := by
  unfold members baseline?
  cases found : nextSignificant? (block 1 lines) with
  | none =>
    have none : (block 1 lines).filter Line.startsElement = [] := by
      rw [List.filter_eq_nil_iff]
      intro line member starts
      obtain ⟨keyword, word, _⟩ := (Option.any_eq_true _ _).mp starts
      exact List.find?_eq_none.mp found line member (LineKind.isSignificant_of_keyword? word)
    rw [none, List.filter_nil]
  | some first =>
    have significant : first.isSignificant := List.find?_some found
    have deep := (Line.within_iff significant).mp
      (List.mem_takeWhile_imp (List.mem_of_find?_eq_some found))
    have all : block first.indent (block 1 lines) = block 1 lines := by
      refine List.takeWhile_eq_self_iff.mpr fun line member => ?_
      by_cases shown : line.isSignificant
      · exact (Line.within_iff shown).mpr (plain.level first found line member shown)
      · exact Line.within_of_not_significant shown _
    simp only [if_pos deep, all]

/-- What stands between the header of an interface and the next line at the margin holds the headers of
its elements, and those of plain lines are all that could be. -/
theorem ReadAt.headerLines {place : Line × List Line} {interface : Interface}
    (readAt : ReadAt place interface) :
    ∃ headers, headers.Sublist ((block 1 place.2).filter Line.startsElement) ∧
      List.Forall₂ Line.Heads headers interface.walk ∧
      (PlainBody (block 1 place.2) → headers = (block 1 place.2).filter Line.startsElement) := by
  have whole : members 1 place.2 = members 1 (block 1 place.2) := by
    have ended := (afterBlock_outlies 1 place.2).members_append le_rfl (block 1 place.2)
    rwa [block_append_afterBlock] at ended
  have faultless := readAt.faultless
  rw [whole] at faultless
  refine ⟨Node.headerLines (Node.read (members 1 (block 1 place.2))), ?_, ?_, ?_⟩
  · exact (Node.headerLines_sublist _).trans ((members_sublist _ _).filter _)
  · rw [Interface.walk, readAt.elements, whole]
    exact Node.headerLines_paired _
  · intro plain
    have isOpen : ∀ line ∈ members 1 (block 1 place.2), line.IsOpen :=
      fun line member => plain.isOpen line ((members_sublist _ _).subset member)
    rw [Node.headerLines_of_open isOpen faultless, plain.filter_members]

/-- No element is lost, made twice or moved. The elements of a document have their headers on lines of
the source that start with the word of an element, in order and each on a line of its own. Those of
an interface stand between its header and the next significant line at the margin, and if the lines
there are plain, however ragged, then every one of them that starts with such a word is the header of
an element. -/
theorem Document.elements_headed {source : Text} {document : Document}
    (parsed : parse source = .ok document) :
    (∃ headers, headers.Sublist ((Line.ofSource source).filter Line.startsElement) ∧
      List.Forall₂ Line.Heads headers (document.interfaces.flatMap Interface.walk)) ∧
    List.Forall₂ (fun place interface =>
        place.1.Announces (.interface, interface.name) ∧
        ∃ headers, headers.Sublist ((block 1 place.2).filter Line.startsElement) ∧
          List.Forall₂ Line.Heads headers interface.walk ∧
          (PlainBody (block 1 place.2) → headers = (block 1 place.2).filter Line.startsElement))
      (interfacePlaces (Line.ofSource source)) document.interfaces := by
  obtain ⟨faultless, rfl⟩ := parse_eq_ok.mp parsed
  constructor
  · exact ⟨_, Outline.headerLines_sublist _,
      Node.heads_paired (fun _ => Outline.exists_heads) (Outline.elementNodes_walk _)⟩
  · exact (Outline.interfaces_readAt faultless).imp fun place interface readAt =>
      ⟨readAt.announces, readAt.headerLines⟩

theorem Document.elements_headed_ragged :
    let source : Text := "interface Home:\n    show a:\n        when b:\n          show c:\n" ++
      "      title: x\n     show d:\n# e\n    for_each f in g:\ndata M:\n"
    ∃ document, parse source = .ok document ∧ ∃ interface ∈ document.interfaces,
      interface.name = "Home" ∧ List.Forall₂ Line.Heads
        [⟨2, "    show a:"⟩, ⟨3, "        when b:"⟩, ⟨4, "          show c:"⟩, ⟨6, "     show d:"⟩,
          ⟨8, "    for_each f in g:"⟩] interface.walk := by
  intro source
  have faultless : (Outline.ofSource source).fault? = none := by decide +kernel
  have parsed := parse_eq_ok.mpr ⟨faultless, rfl⟩
  let below : List Line := Line.numberFrom 2 (Text.splitOn '\n' source).tail
  have places : interfacePlaces (Line.ofSource source) = [(⟨1, "interface Home:"⟩, below)] := by
    decide +kernel
  have headers : (block 1 below).filter Line.startsElement =
      [⟨2, "    show a:"⟩, ⟨3, "        when b:"⟩, ⟨4, "          show c:"⟩, ⟨6, "     show d:"⟩,
        ⟨8, "    for_each f in g:"⟩] := by decide +kernel
  have plain : PlainBody (block 1 below) := by decide +kernel
  have interfaces := (elements_headed parsed).2
  rw [places, List.forall₂_cons_left_iff] at interfaces
  obtain ⟨interface, _, ⟨announces, found, _, heads, all⟩, _, same⟩ := interfaces
  have name : (⟨1, "interface Home:"⟩ : Line).Announces (.interface, "Home") :=
    ⟨by decide +kernel, [], Header.named?_eq_some_iff.mp (by decide +kernel)⟩
  refine ⟨_, parsed, interface, same ▸ List.mem_cons_self, ?_, ?_⟩
  · exact congrArg Prod.snd (announces.unique name)
  · rw [← headers, ← all plain]
    exact heads

end AppDescription
