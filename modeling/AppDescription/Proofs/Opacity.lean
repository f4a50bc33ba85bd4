import AppDescription.Proofs.FaultLine
import AppDescription.Proofs.Pairing
import AppDescription.Proofs.Seam
import AppDescription.Proofs.SkippedBody

namespace AppDescription

theorem Line.keyword?_of_stops {line : Line} {word rest : Text} (nonempty : word ≠ [])
    (all : word.all isWord) (stops : Stops isWord rest) (text : line.text = word ++ rest) :
    line.keyword? = some word := by
  rw [Line.keyword?_eq_some_iff, text]
  exact ⟨stops.takeWhile_append (List.all_eq_true.mp all), nonempty⟩

/-- The forms of a line in the body of an interface or of an element whose own body is passed over:
an event handler, a bare section that is not read, and an `else`. -/
def Line.ClosesBody (line : Line) : Prop :=
  Header.isEventHandler line.text ∨ line.kind.isBareSection closedSections ∨ Header.isElse line.text

theorem Line.ClosesBody.keyword? {line : Line} (closes : line.ClosesBody) :
    ∃ word, line.keyword? = some word ∧ word ∉ elementWords := by
  rcases closes with handler | bare | spelled
  · obtain ⟨⟨name, more⟩, form⟩ := Option.isSome_iff_exists.mp handler
    obtain ⟨_, _, gap, space, nonempty, blank, _, text⟩ := Header.named?_eq_some_iff.mp form
    have stops : Stops isWord gap := by
      obtain ⟨c, gap, rfl⟩ := List.exists_cons_of_ne_nil nonempty
      exact Stops.cons_iff.mpr (isWord_eq_false_of_isBlank (blank c List.mem_cons_self))
    exact ⟨"on", Line.keyword?_of_stops (by decide) (by decide +kernel) (stops.append nonempty) text,
      by decide⟩
  · unfold LineKind.isBareSection LineKind.isBareKey at bare
    cases kind : line.kind <;> rw [kind] at bare <;> simp [LineKind.key?] at bare
    rename_i key value
    have apart : ∀ name ∈ closedSections, name ∉ elementWords := by decide
    exact ⟨key, by rw [Line.keyword?, kind]; rfl, apart key bare.2⟩
  · unfold Header.isElse at spelled
    split at spelled
    · cases spelled
    · rename_i rest start
      have colon : Text.colon? rest = some [] := by
        simp only [Text.colon?, of_decide_eq_true spelled]
      obtain ⟨space, blank, rfl⟩ := Text.colon?_eq_some colon
      exact ⟨"else", Line.keyword?_of_stops (by decide) (by decide +kernel)
        (Header.stops_word_colon blank []) (Text.dropPrefix?_eq_some start), by decide⟩

theorem Line.ClosesBody.skips {line : Line} (closes : line.ClosesBody) : Node.Skips line := by
  obtain ⟨word, starts, plain⟩ := closes.keyword?
  have significant : line.isSignificant := LineKind.isSignificant_of_keyword? starts
  have role : BodyRole.ofLine line = BodyRole.ofPlain line.kind line.text := by
    simp only [BodyRole.ofLine, significant, if_true, starts, Option.bind_some,
      ElementHeader.read?_plain plain]
  unfold Node.Skips
  rw [role]
  unfold BodyRole.ofPlain
  rcases closes with handler | bare | spelled
  · simp [handler]
  · simp [bare]
  · simp only [if_pos spelled]
    split_ifs <;> simp

/-- The declarations that are known by name only. -/
def shallowKinds : List DeclarationKind :=
  [.logic, .stateMachine, .realtime, .external]

theorem Declaration.read_shallow {kind : DeclarationKind} (shallow : kind ∈ shallowKinds)
    {line : Line} {tail tail' : List Line}
    (same : afterBlock line.inner tail = afterBlock line.inner tail') :
    Declaration.read kind line tail = Declaration.read kind line tail' := by
  simp only [shallowKinds, List.mem_cons, List.not_mem_nil, or_false] at shallow
  rcases shallow with rfl | rfl | rfl | rfl <;>
    simp only [Declaration.read, readLogic, readOwner, readNamed, same]

theorem Outline.read_declared_congr {line : Line} {kind : DeclarationKind} {rest rest' : List Line}
    (significant : line.isSignificant) (declares : line.declarationKind? = some kind)
    (same : Declaration.read kind line rest = Declaration.read kind line rest') :
    Outline.read (line :: rest) = Outline.read (line :: rest') := by
  cases reading : Declaration.read kind line rest with
  | error cause =>
    rw [read_malformed significant declares reading,
      read_malformed significant declares (same.symm.trans reading)]
  | ok parts =>
    obtain ⟨declaration, below⟩ := parts
    rw [read_declared significant declares reading,
      read_declared significant declares (same.symm.trans reading)]

/-- A line among the lines of a source whose own body is passed over: at the left margin one that
starts no declaration, or one that is known by name only, and in the body of an interface, at any
depth, one that has the form and is reached as a line of its body. -/
inductive HidesBody (lines : List Line) (line : Line) : Prop
  | top : line.isSignificant → line.indent = 0 →
      (∀ kind : DeclarationKind, Text.wordRun line.text = kind.keyword → kind ∈ shallowKinds) →
      HidesBody lines line
  | inside (above below : List Line) (header : Line) : lines = above ++ header :: below →
      header.declarationKind? = some .interface → line.ClosesBody →
      Node.Reaches line (members header.inner below) → HidesBody lines line

namespace Outline

variable {line : Line} {tail tail' : List Line}
  (same : afterBlock line.inner tail = afterBlock line.inner tail')

include same

theorem read_top (significant : line.isSignificant)
    (shallow : ∀ kind : DeclarationKind, Text.wordRun line.text = kind.keyword → kind ∈ shallowKinds) :
    read (line :: tail) = read (line :: tail') := by
  cases declares : line.declarationKind? with
  | none => rw [read_unknown significant declares, read_unknown significant declares, same]
  | some kind =>
    have run := (Line.declarationKind?_eq_some_iff.mp declares).2
    exact read_declared_congr significant declares (Declaration.read_shallow (shallow kind run) same)

/-- An interface is read alike whatever stands in a body that is passed over in it. -/
theorem read_interface {header : Line} {above : List Line}
    (declares : header.declarationKind? = some .interface) (closes : line.ClosesBody)
    (nodup : (above ++ line :: tail).Nodup)
    (reached : Node.Reaches line (members header.inner (above ++ line :: tail))) :
    read (header :: (above ++ line :: tail)) = read (header :: (above ++ line :: tail')) := by
  have significant := Line.significant_of_declarationKind? declares
  have skips := closes.skips
  refine read_declared_congr significant declares ?_
  have hidden := reached.hiddenBelow skips (nodup.sublist (members_sublist _ _))
  rcases members_cases skips.significant above header.inner with
    ⟨body, above', _, cut⟩ | ⟨base, _, shallow, cut⟩
  · have whole := members_append_afterMembers header.inner (above ++ line :: tail)
    rw [← whole, (cut tail).2, (cut tail).1] at nodup
    rw [(cut tail).1] at reached
    exact absurd rfl ((List.nodup_append.mp nodup).2.2 _ reached.mem _ (by simp))
  · obtain ⟨inBlock, after⟩ := same_of_shallower (shallow.trans (Nat.le_succ _)) same
    have body := hidden.read_eq (cut tail).1 inBlock
    simp only [Declaration.read, readInterface, cut, body, after]

theorem read_hidden {above : List Line} (hides : HidesBody (above ++ line :: tail) line)
    (nodup : (above ++ line :: tail).Nodup) :
    read (above ++ line :: tail) = read (above ++ line :: tail') := by
  have atMargin {first : Line} (significant : first.isSignificant) (margin : first.indent = 0)
      (lines : List Line) : Outlies 1 (first :: lines) := by
    intro other head
    cases head
    exact ⟨significant, Nat.lt_one_iff.mpr margin⟩
  cases hides with
  | top significant margin shallow =>
    exact (atMargin significant margin tail).outline_congr (atMargin significant margin tail') above
      (read_top same significant shallow)
  | inside front below header split declares closes reached =>
    obtain ⟨between, others, rfl⟩ := List.append_of_mem ((members_sublist _ _).subset reached.mem)
    have nodupTail := (List.nodup_append.mp nodup).2
    have notAbove : line ∉ above := fun member => nodupTail.2 _ member _ List.mem_cons_self rfl
    have notBelow : line ∉ tail := (List.nodup_cons.mp nodupTail.1).1
    have place : above = front ++ header :: between ∧ tail = others := by
      rw [← List.cons_append, ← List.append_assoc,
        List.append_cons_inj_of_notMem notAbove notBelow] at split
      exact ⟨split.1, split.2.2⟩
    obtain ⟨rfl, rfl⟩ := place
    have margin := (Line.declarationKind?_eq_some_iff.mp declares).1
    have significant := Line.significant_of_declarationKind? declares
    simp only [List.append_assoc, List.cons_append] at nodup ⊢
    refine (atMargin significant margin _).outline_congr (atMargin significant margin _) front ?_
    have nodupBetween := (List.nodup_cons.mp (List.nodup_append.mp nodup).2.1).2
    exact read_interface same declares closes nodupBetween reached

end Outline

/-- What a line number becomes when the `count` lines below the line `last` give way to `count'`
others. -/
def Shifted (last count count' number number' : Nat) : Prop :=
  number ≤ last ∧ number' = number ∨ last + count < number ∧ number' + count = number + count'

/-- Lines that are owned by a line may be left out of the block below it. -/
theorem afterBlock_owned {line : Line} {owned : List Line}
    (deeper : ∀ raw ∈ owned.map Line.raw,
      (LineKind.ofText (Text.trim raw)).isSignificant → line.indent < indentOf raw)
    (tail : List Line) : afterBlock line.inner (owned ++ tail) = afterBlock line.inner tail := by
  refine List.dropWhile_append_of_pos fun other member => ?_
  by_cases significant : other.isSignificant
  · exact (Line.within_iff significant).mpr (deeper other.raw (List.mem_map_of_mem member) significant)
  · exact Line.within_of_not_significant significant _

/-- A line among those of a source, with the lines it owns and so many numbers for them. -/
def Line.around (above : List Text) (raw : Text) (owned : List Line) (count : Nat)
    (below : List Text) : List Line :=
  numberFrom 1 above ++ ⟨above.length + 1, raw⟩ ::
    (owned ++ (numberFrom (above.length + 2) below).map (Line.below count))

theorem Line.ofSource_around {source raw : Text} {above body below : List Text}
    (lines : Text.splitOn '\n' source = above ++ raw :: (body ++ below)) :
    ofSource source =
      around above raw (numberFrom (above.length + 2) body) body.length below := by
  rw [ofSource, lines, numberFrom_append, numberFrom_cons, numberFrom_append, Nat.add_comm 1, around,
    ← numberFrom_below]

/-- The same line without its number. -/
def Line.unnumbered (line : Line) : Line :=
  { line with number := 0 }

/-- Lines that go together when the `count` lines below the line `last` give way to `count'` others.
Those without a number are new. -/
def Replaced (last count count' : Nat) (line line' : Line) : Prop :=
  line.raw = line'.raw ∧
    (line.number = 0 ∨ Shifted last count count' line.number line'.number)

/-- A source goes together line by line with the one it replaces, when its new lines are put there
without numbers. -/
theorem Line.around_replaced (above : List Text) (raw : Text) (body' below : List Text) (count : Nat) :
    List.Forall₂ (Replaced (above.length + 1) count body'.length)
      (around above raw ((numberFrom (above.length + 2) body').map unnumbered) count below)
      (around above raw (numberFrom (above.length + 2) body') body'.length below) := by
  have front : List.Forall₂ (Replaced (above.length + 1) count body'.length)
      (numberFrom 1 above) (numberFrom 1 above) := by
    refine List.forall₂_same.mpr fun line member => ?_
    have bound := (number_of_mem member).2
    exact ⟨rfl, Or.inr (Or.inl ⟨by omega, rfl⟩)⟩
  have body : List.Forall₂ (Replaced (above.length + 1) count body'.length)
      ((numberFrom (above.length + 2) body').map unnumbered) (numberFrom (above.length + 2) body') :=
    List.forall₂_map_left_iff.mpr (List.forall₂_same.mpr fun _ _ => ⟨rfl, Or.inl rfl⟩)
  have rest : List.Forall₂ (Replaced (above.length + 1) count body'.length)
      ((numberFrom (above.length + 2) below).map (Line.below count))
      ((numberFrom (above.length + 2) below).map (Line.below body'.length)) := by
    refine List.forall₂_map_left_iff.mpr (List.forall₂_map_right_iff.mpr
      (List.forall₂_same.mpr fun line member => ⟨rfl, Or.inr (Or.inr ?_)⟩))
    have bound := (number_of_mem member).1
    simp only [Line.below]
    omega
  exact List.rel_append front (.cons ⟨rfl, Or.inr (Or.inl ⟨le_rfl, rfl⟩)⟩ (List.rel_append body rest))

/-- A body that is passed over may hold anything deeper than its header, and blank lines and comments.
With any other such body the document is the same, or the fault is, under its new number. -/
theorem Document.parse_hidden {source source' raw : Text} {above body body' below : List Text}
    (lines : Text.splitOn '\n' source = above ++ raw :: (body ++ below))
    (lines' : Text.splitOn '\n' source' = above ++ raw :: (body' ++ below))
    (deeper : ∀ other ∈ body ++ body',
      (LineKind.ofText (Text.trim other)).isSignificant → indentOf raw < indentOf other)
    (hides : HidesBody (Line.ofSource source) ⟨above.length + 1, raw⟩) :
    Document.Matched
      (fun fault fault' => fault'.cause = fault.cause ∧ fault'.line.raw = fault.line.raw ∧
        Shifted (above.length + 1) body.length body'.length fault.line.number fault'.line.number)
      (Document.parse source) (Document.parse source') := by
  -- the old source with the new body in it, whose lines get a number that no other line has
  let unnumbered := (Line.numberFrom (above.length + 2) body').map Line.unnumbered
  have raws : unnumbered.map Line.raw = body' := by
    rw [List.map_map]
    exact Line.numberFrom_map_raw _ _
  have read : Outline.ofSource source =
      Outline.read (Line.around above raw unnumbered body.length below) := by
    have nodup : (Line.ofSource source).Nodup :=
      (Line.numberFrom_increasing 1 _).imp fun ordered equal => by simp [equal] at ordered
    rw [Line.ofSource_around lines] at hides nodup
    rw [Outline.ofSource, Line.ofSource_around lines]
    refine Outline.read_hidden ?_ hides nodup
    rw [afterBlock_owned, afterBlock_owned]
    · rw [raws]
      exact fun other member => deeper other (List.mem_append_right _ member)
    · rw [Line.numberFrom_map_raw]
      exact fun other member => deeper other (List.mem_append_left _ member)
  have alike := (renumbered_corresponds fun paired => paired.1).outline_alike
    (Line.around_replaced above raw body' below body.length)
  rw [← read, ← Line.ofSource_around lines'] at alike
  refine alike.parse.imp_of_error ?_
  rintro fault fault' failed ⟨⟨raws, numbers⟩, cause⟩
  have member := (Outline.mem_of_fault? (Document.parse_eq_error.mp failed)).1
  have positive := (Line.number_of_mem member).1
  exact ⟨cause.symm, raws.symm, numbers.resolve_left (by omega)⟩

/-- The body of an event handler in an element of an interface, and that of a named section, hold what
would be malformed headers and an open literal elsewhere. -/
theorem Document.parse_hidden_below_handler :
    let source : Text := "interface a:\n  show b:\n    on tap:\n      show\n      text: |\n    show"
    let source' : Text := "interface a:\n  show b:\n    on tap:\n\n# else\n\t\t\t\t\tif\n    show"
    let shallow : Text := "external a:\n  data :\ninterface b"
    let shallow' : Text := "external a:\ninterface b"
    HidesBody (Line.ofSource source) ⟨3, "    on tap:"⟩ ∧
      Document.Matched
        (fun fault fault' => fault'.cause = fault.cause ∧ fault'.line.raw = fault.line.raw ∧
          Shifted 3 2 3 fault.line.number fault'.line.number)
        (Document.parse source) (Document.parse source') ∧
      HidesBody (Line.ofSource shallow) ⟨1, "external a:"⟩ ∧
        Document.Matched
          (fun fault fault' => fault'.cause = fault.cause ∧ fault'.line.raw = fault.line.raw ∧
            Shifted 1 1 0 fault.line.number fault'.line.number)
          (Document.parse shallow) (Document.parse shallow') := by
  intro source source' shallow shallow'
  let handler : Line := ⟨3, "    on tap:"⟩
  let below : List Line := [⟨4, "      show"⟩, ⟨5, "      text: |"⟩, ⟨6, "    show"⟩]
  have reached : Node.Reaches handler (members 1 (⟨2, "  show b:"⟩ :: handler :: below)) := by
    have whole : members 1 (⟨2, "  show b:"⟩ :: handler :: below) =
        ⟨2, "  show b:"⟩ :: handler :: below := by decide +kernel
    have among : handler :: below ∈ Node.parts ⟨2, "  show b:"⟩ (handler :: below) := by
      decide +kernel
    rw [whole]
    exact .part among (.here below)
  have inside : HidesBody (Line.ofSource source) handler :=
    .inside [] (⟨2, "  show b:"⟩ :: handler :: below) ⟨1, "interface a:"⟩ (by decide +kernel)
      (by decide +kernel) (Or.inl (by decide +kernel)) reached
  have top : HidesBody (Line.ofSource shallow) ⟨1, "external a:"⟩ :=
    .top (by decide +kernel) (by decide +kernel) fun kind => by cases kind <;> decide +kernel
  let above : List Text := ["interface a:", "  show b:"]
  let body : List Text := ["      show", "      text: |"]
  let body' : List Text := ["", "# else", "\t\t\t\t\tif"]
  have lines : Text.splitOn '\n' source = above ++ "    on tap:".toList :: (body ++ ["    show".toList]) := by
    decide +kernel
  have lines' : Text.splitOn '\n' source' =
      above ++ "    on tap:".toList :: (body' ++ ["    show".toList]) := by decide +kernel
  have hidden := Document.parse_hidden lines lines' (by decide +kernel) inside
  have shallowLines : Text.splitOn '\n' shallow =
      [] ++ "external a:".toList :: (["  data :".toList] ++ ["interface b".toList]) := by decide +kernel
  have shallowLines' : Text.splitOn '\n' shallow' =
      [] ++ "external a:".toList :: ([] ++ ["interface b".toList]) := by decide +kernel
  have shallowHidden := Document.parse_hidden shallowLines shallowLines' (by decide +kernel) top
  exact ⟨inside, hidden, top, shallowHidden⟩

end AppDescription
