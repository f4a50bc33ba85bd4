import AppDescription.Proofs.SketchReading

namespace AppDescription

theorem Properties.assign_fresh {properties : Properties} {key value : Text}
    (fresh : key ∉ properties.map Prod.fst) :
    assign properties key value = properties ++ [(key, value)] := by
  induction properties with
  | nil => rfl
  | cons entry properties ih =>
    rw [List.map_cons, List.mem_cons, not_or] at fresh
    rw [assign, if_neg (Ne.symm fresh.1), ih fresh.2, List.cons_append]

theorem Properties.foldl_assign (before entries : Properties)
    (distinct : ((before ++ entries).map Prod.fst).Nodup) :
    entries.foldl (fun properties entry => assign properties entry.1 entry.2) before =
      before ++ entries := by
  induction entries generalizing before with
  | nil => simp
  | cons entry entries ih =>
    have whole : before ++ entry :: entries = (before ++ [entry]) ++ entries := by simp
    have fresh : entry.1 ∉ before.map Prod.fst := by
      intro member
      rw [List.map_append, List.nodup_append] at distinct
      exact distinct.2.2 _ member _ (by simp) rfl
    rw [List.foldl_cons, assign_fresh fresh, whole]
    exact ih (before ++ [entry]) (whole ▸ distinct)

/-- Assignments of distinct keys are kept as they are. -/
theorem Properties.ofAssignments_eq {entries : Properties}
    (distinct : (entries.map Prod.fst).Nodup) : ofAssignments entries = entries :=
  foldl_assign [] entries distinct

theorem Display.properties_eq (head : Display) :
    Properties.ofAssignments (Node.headerAssignments (head.name.map Word.text) [] ++
      head.settings.map Assignment.entry) = head.properties := by
  have keys : (head.settings.map Assignment.entry).map Prod.fst =
      head.settings.map fun setting => setting.key.text := by
    rw [List.map_map]
    rfl
  unfold Node.headerAssignments properties
  cases named : head.name with
  | none =>
    apply Properties.ofAssignments_eq
    simpa [keys] using head.distinct
  | some name =>
    have fresh := head.unnamed (by rw [named]; rfl)
    apply Properties.ofAssignments_eq
    simpa [keys, head.distinct] using fresh

namespace Node

/-- Nodes that make elements and assignments, and hold no fault. -/
structure Yields (nodes : List Node) (made : List Element) (entries : List (Text × Text)) : Prop where
  elements : elements nodes = made
  assignments : assignments nodes = entries
  faultless : Finding.firstFault? (allFindings nodes) = none

namespace Yields

variable {nodes body : List Node} {made inner : List Element} {entries : List (Text × Text)}

theorem nil : Yields [] [] [] := ⟨rfl, rfl, rfl⟩

theorem cons {node : Node} {first : List Element} {given : List (Text × Text)}
    (head : Yields [node] first given) (tail : Yields nodes made entries) :
    Yields (node :: nodes) (first ++ made) (given ++ entries) := by
  refine ⟨?_, ?_, ?_⟩
  · rw [elements_cons, head.elements, tail.elements]
  · rw [assignments_cons, head.assignments, tail.assignments]
  · rw [allFindings_cons, Finding.firstFault?_append, head.faultless, tail.faultless]
    rfl

theorem property (key value : Text) : Yields [property key value] [] [(key, value)] :=
  ⟨rfl, rfl, rfl⟩

theorem settings (settings : List Assignment) (tail : Yields nodes made []) :
    Yields (settings.map (fun item => Node.property item.key.text item.value.text) ++ nodes) made
      (settings.map Assignment.entry) := by
  induction settings with
  | nil => exact tail
  | cons item settings ih => exact (property item.key.text item.value.text).cons ih

theorem display (line : Line) (head : Display)
    (yields : Yields body inner (head.settings.map Assignment.entry)) :
    Yields [display line head.kind.text (head.name.map Word.text) [] body]
      [.display head.kind.text head.ownName head.properties inner] [] := by
  have name : (head.name.map Word.text).getD head.kind.text = head.ownName := by
    unfold Display.ownName
    cases head.name <;> rfl
  refine ⟨?_, rfl, by simpa [allFindings, findings] using yields.faultless⟩
  simp [Node.elements, element?, yields.elements, yields.assignments, name, head.properties_eq]

theorem iteration (line : Line) (item collection : Text) (yields : Yields body inner entries) :
    Yields [iteration line item collection body] [.iteration item collection inner] [] :=
  ⟨by simp [Node.elements, element?, yields.elements], rfl,
    by simpa [allFindings, findings] using yields.faultless⟩

theorem conditional (line : Line) (word : ConditionWord) (condition : Text)
    (yields : Yields body inner entries) :
    Yields [conditional line word condition body] [.conditional word condition inner none] [] :=
  ⟨by simp [Node.elements, element?, yields.elements], rfl,
    by simpa [allFindings, findings] using yields.faultless⟩

theorem choice (line elseLine : Line) (word : ConditionWord) (condition : Text)
    {otherwise : List Node} {made' : List Element} {entries' : List (Text × Text)}
    (yields : Yields body inner entries) (yieldsElse : Yields otherwise made' entries') :
    Yields [choice line word condition body elseLine otherwise]
      [.conditional word condition inner (some made')] [] := by
  refine ⟨by simp [Node.elements, element?, yields.elements, yieldsElse.elements], rfl, ?_⟩
  simp [allFindings, findings, Finding.firstFault?_append, yields.faultless, yieldsElse.faultless]

end Yields

end Node

/-- Nothing, or a significant line that is not deeper than a header and is no `else`. -/
def Outside (depth : Nat) (rest : List Line) : Prop :=
  ∀ line ∈ rest.head?, line.isSignificant ∧ line.indent ≤ depth ∧ ¬Header.isElse line.text

namespace Row

theorem display_depth (depth : Nat) (kind : Word) (name : Option Word) :
    (display depth kind name).depth = depth := by
  cases name <;> rfl

theorem outside_line {row : Row} (notElse : row.word.text ≠ "else".toList) (number : Nat)
    (rest : List Line) : Outside row.depth (row.line number :: rest) := by
  rintro _ ⟨⟩
  refine ⟨row.isSignificant_line number, (row.indent_line number).le, ?_⟩
  rw [row.text_line]
  exact fun spelled => notElse (Header.word_of_isElse row.word?_text spelled).1

theorem elseBranch?_otherwise (depth number : Nat) (rest : List Line) :
    elseBranch? depth ((otherwise depth).line number :: rest) =
      some ((otherwise depth).line number, rest) := by
  have spelled : Header.isElse (otherwise depth).text := by
    change Header.isElse ("else".toList ++ [':']) = true
    decide +kernel
  have level : ((otherwise depth).line number).indent = depth := indent_line _ number
  simp [elseBranch?, isSignificant_line, level, text_line, spelled]

end Row

theorem Outside.nil {depth : Nat} : Outside depth [] := by simp [Outside]

theorem Outside.elseBranch?_eq_none {depth : Nat} {rest : List Line} (outside : Outside depth rest) :
    elseBranch? depth rest = none := by
  cases rest with
  | nil => rfl
  | cons line rest =>
    obtain ⟨significant, _, notElse⟩ := outside line rfl
    simp [elseBranch?, significant, notElse]

theorem Outside.outlies {depth : Nat} {rest : List Line} (outside : Outside depth rest) :
    Outlies (depth + 1) rest := by
  intro line first
  obtain ⟨significant, level, _⟩ := outside line first
  exact ⟨significant, Nat.lt_succ_of_le level⟩

namespace Sketch

/-- The row of an element's header stands first, at the element's indentation. -/
theorem rows_eq (sketch : Sketch) (depth : Nat) : ∃ row below, sketch.rows depth = row :: below ∧
    row.depth = depth ∧ row.word.text ≠ "else".toList := by
  have showWord : "show".toList ≠ "else".toList := by decide
  have forWord : "for_each".toList ≠ "else".toList := by decide
  cases sketch with
  | display head children =>
    refine ⟨_, _, by rw [rows], ?_⟩
    cases head.name with
    | none => exact ⟨rfl, showWord⟩
    | some name => exact ⟨rfl, showWord⟩
  | conditional word condition body otherwise =>
    have conditionWord : word.text ≠ "else".toList := by cases word <;> decide
    cases otherwise with
    | none => exact ⟨_, _, by rw [rows], rfl, conditionWord⟩
    | some otherwise => exact ⟨_, _, by rw [rows], rfl, conditionWord⟩
  | iteration item collection body => exact ⟨_, _, by rw [rows], rfl, forWord⟩

theorem rowsOf_outside {forest : List Sketch} {depth : Nat} {rest : List Line} (first : Nat)
    (outside : Outside depth rest) : Outside depth (Row.lines first (rowsOf depth forest) ++ rest) := by
  cases forest with
  | nil => simpa [rowsOf] using outside
  | cons sketch forest =>
    obtain ⟨row, below, same, level, notElse⟩ := sketch.rows_eq depth
    rw [rowsOf, same, List.cons_append, Row.lines_cons, List.cons_append]
    exact level ▸ Row.outside_line notElse first _

theorem settings_laid (settings : List Assignment) (depth : Nat) :
    Laid depth (settings.map (Row.setting depth)) := by
  refine ⟨?_, ?_⟩
  · intro row first
    obtain ⟨item, _, rfl⟩ := Option.map_eq_some_iff.mp ((List.head?_map ..).symm.trans first)
    rfl
  · intro row member
    obtain ⟨item, _, rfl⟩ := List.mem_map.mp member
    exact le_rfl

mutual

theorem rows_laid (sketch : Sketch) (depth : Nat) : Laid depth (sketch.rows depth) := by
  have deeper {rows : List Row} (laid : Laid (depth + 2) rows) : ∀ row ∈ rows, depth ≤ row.depth :=
    fun row member => by have := laid.2 row member; omega
  cases sketch with
  | display head children =>
    rw [rows]
    refine .cons ?_ (deeper ((settings_laid head.settings _).append
      (rowsOf_laid children (depth + 2))))
    cases head.name <;> rfl
  | conditional word condition body otherwise =>
    cases otherwise with
    | none =>
      rw [rows]
      exact .cons rfl (deeper (rowsOf_laid body (depth + 2)))
    | some otherwise =>
      have below := deeper (rowsOf_laid otherwise (depth + 2))
      rw [rows]
      refine .cons rfl fun row member => ?_
      rcases List.mem_append.mp member with inBody | inElse
      · exact deeper (rowsOf_laid body (depth + 2)) row inBody
      · exact (Laid.cons rfl below).2 row inElse
  | iteration item collection body =>
    rw [rows]
    exact .cons rfl (deeper (rowsOf_laid body (depth + 2)))

theorem rowsOf_laid (forest : List Sketch) (depth : Nat) : Laid depth (rowsOf depth forest) := by
  cases forest with
  | nil =>
    rw [rowsOf]
    exact ⟨by simp, by simp⟩
  | cons sketch forest =>
    rw [rowsOf]
    exact (rows_laid sketch depth).append (rowsOf_laid forest depth)

end

/-- A body on its own is read to its end. -/
theorem yields_body {lines : List Line} {made : List Element} {entries : List (Text × Text)}
    (found : ∃ nodes, Node.read (lines ++ []) = nodes ++ Node.read [] ∧
      Node.Yields nodes made entries) : Node.Yields (Node.read lines) made entries := by
  obtain ⟨nodes, read, yields⟩ := found
  rw [List.append_nil, Node.read_nil, List.append_nil] at read
  exact read ▸ yields

theorem read_settings (settings : List Assignment) (depth first : Nat) (rest : List Line) :
    Node.read (Row.lines first (settings.map (Row.setting depth)) ++ rest) =
      settings.map (fun item => Node.property item.key.text item.value.text) ++ Node.read rest := by
  induction settings generalizing first with
  | nil => rfl
  | cons item settings ih =>
    rw [List.map_cons, Row.lines_cons, List.cons_append,
      Node.read_property (Row.role_setting depth first item), ih]
    rfl

mutual

/-- The rows of an element are read as that element, wherever they stand, and the lines that follow
them are read on their own. -/
theorem read_rows (sketch : Sketch) (depth first : Nat) {rest : List Line}
    (outside : Outside depth rest) :
    ∃ node, Node.read (Row.lines first (sketch.rows depth) ++ rest) = node :: Node.read rest ∧
      Node.Yields [node] [sketch.element] [] := by
  -- Induction on the tree. A body is read on its own, with nothing after it, since the rows below a
  -- header are just its members; only what stands beside the element depends on `rest`.
  have deep : depth + 1 ≤ depth + 2 := Nat.le_succ _
  cases sketch with
  | display head children =>
    have children' := yields_body (read_rowsOf children (depth + 2)
      (first + 1 + (head.settings.map (Row.setting (depth + 2))).length) .nil)
    have body : Node.Yields (Node.read (Row.lines (first + 1)
        (head.settings.map (Row.setting (depth + 2)) ++ rowsOf (depth + 2) children)))
          (elements children) (head.settings.map Assignment.entry) := by
      rw [Row.lines_append, read_settings]
      exact .settings head.settings children'
    have laid := (settings_laid head.settings (depth + 2)).append (rowsOf_laid children (depth + 2))
    obtain ⟨inside, after⟩ := laid.members deep (first + 1) outside.outlies
    have inner : ((Row.display depth head.kind head.name).line first).inner = depth + 1 := by
      rw [Row.inner_line, Row.display_depth]
    rw [rows, Row.lines_cons, List.cons_append, Node.read_opens (Row.role_display ..),
      Node.ofHeader, inner, inside, after, element]
    exact ⟨_, rfl, .display _ head body⟩
  | conditional word condition body otherwise =>
    have role := Row.role_condition depth first word condition
    have inner : ((Row.condition depth word condition).line first).inner = depth + 1 :=
      Row.inner_line _ first
    have level : ((Row.condition depth word condition).line first).indent = depth :=
      Row.indent_line _ first
    have laid := rowsOf_laid body (depth + 2)
    have body' := yields_body (read_rowsOf body (depth + 2) (first + 1) .nil)
    cases otherwise with
    | none =>
      obtain ⟨inside, after⟩ := laid.members deep (first + 1) outside.outlies
      rw [rows, Row.lines_cons, List.cons_append, Node.read_opens role, Node.ofHeader, inner, level,
        inside, after, outside.elseBranch?_eq_none, element]
      exact ⟨_, rfl, .conditional _ _ _ body'⟩
    | some otherwise =>
      let next := first + 1 + (rowsOf (depth + 2) body).length
      have otherwise' := yields_body (read_rowsOf otherwise (depth + 2) (next + 1) .nil)
      -- The body ends before the line of the `else`, which stands at the header's own indentation.
      obtain ⟨inside, after⟩ := laid.members deep (first + 1)
        ((Row.otherwise depth).outlies_line next
          (Row.lines (next + 1) (rowsOf (depth + 2) otherwise) ++ rest))
      obtain ⟨insideElse, afterElse⟩ :=
        (rowsOf_laid otherwise (depth + 2)).members deep (next + 1) outside.outlies
      rw [rows, Row.lines_cons, Row.lines_append, Row.lines_cons, List.cons_append,
        List.append_assoc, List.cons_append, Node.read_opens role, Node.ofHeader, inner, level,
        inside, after, Row.elseBranch?_otherwise]
      dsimp only
      rw [insideElse, afterElse, element]
      exact ⟨_, rfl, .choice _ _ _ _ body' otherwise'⟩
  | iteration item collection body =>
    have body' := yields_body (read_rowsOf body (depth + 2) (first + 1) .nil)
    obtain ⟨inside, after⟩ :=
      (rowsOf_laid body (depth + 2)).members deep (first + 1) outside.outlies
    have inner : ((Row.iteration depth item collection).line first).inner = depth + 1 :=
      Row.inner_line _ first
    rw [rows, Row.lines_cons, List.cons_append, Node.read_opens (Row.role_iteration ..),
      Node.ofHeader, inner, inside, after, element]
    exact ⟨_, rfl, .iteration _ _ _ body'⟩

theorem read_rowsOf (forest : List Sketch) (depth first : Nat) {rest : List Line}
    (outside : Outside depth rest) :
    ∃ nodes, Node.read (Row.lines first (rowsOf depth forest) ++ rest) = nodes ++ Node.read rest ∧
      Node.Yields nodes (elements forest) [] := by
  cases forest with
  | nil => exact ⟨[], by rw [rowsOf]; rfl, .nil⟩
  | cons sketch forest =>
    obtain ⟨nodes, readRest, yieldsRest⟩ :=
      read_rowsOf forest depth (first + (sketch.rows depth).length) outside
    obtain ⟨node, read, yields⟩ := read_rows sketch depth first
      (rowsOf_outside (first + (sketch.rows depth).length) outside)
    refine ⟨node :: nodes, ?_, by rw [elements]; exact yields.cons yieldsRest⟩
    rw [rowsOf, Row.lines_append, List.append_assoc, read, readRest, List.cons_append]

end

end Sketch

theorem Sketch.ofSource_source (name : Word) (forest : List Sketch) :
    Line.ofSource (source name forest) =
      (Row.interface name).line 1 :: Row.lines 2 (rowsOf 2 forest) := by
  have split : Text.splitOn '\n' (source name forest) =
      (Row.interface name :: rowsOf 2 forest).map Row.raw := by
    refine Text.splitOn_join (by simp) fun raw member => ?_
    obtain ⟨row, _, rfl⟩ := List.mem_map.mp member
    exact row.oneLine_raw
  rw [Line.ofSource, split]
  rfl

theorem Row.named?_interface (name : Word) :
    Header.named? "interface" (interface name).text = some (name.text, []) := by
  refine Header.named?_eq_some_iff.mpr
    ⟨name.nonempty, name.all, [' '], [], by simp, isBlank_of_mem_space, by simp, rfl⟩

theorem Row.declarationKind?_interface (name : Word) (number : Nat) :
    ((interface name).line number).declarationKind? = some .interface :=
  declarationKind?_line _ number rfl rfl

theorem Row.readInterface_line (name : Word) (number : Nat) (below : List Line) :
    Declaration.read .interface ((interface name).line number) below =
      .ok (.interface ⟨name.text, Node.read (members 1 below)⟩, afterMembers 1 below) := by
  have inner : ((interface name).line number).inner = 1 := inner_line _ number
  simp only [Declaration.read, readInterface, text_line, named?_interface, inner]
  rfl

/-- Reading is a left inverse of layout. The source of an interface is read as that interface alone,
with just the elements that were laid out. -/
theorem Document.parse_source (name : Word) (forest : List Sketch) :
    Document.parse (Sketch.source name forest) = .ok
      { app := none
        data := []
        interfaces := [⟨name.text, Sketch.elements forest⟩]
        logic := []
        computed := []
        stateMachines := []
        realtime := []
        external := []
        integrations := none
        deploy := none
        order := [(.interface, name.text)] } := by
  have yields := Sketch.yields_body (Sketch.read_rowsOf forest 2 2 .nil)
  obtain ⟨inside, after⟩ :=
    (Sketch.rowsOf_laid forest 2).members (Nat.le_succ 1) 2 Outlies.nil
  rw [List.append_nil] at inside after
  have reading := Row.readInterface_line name 1 (Row.lines 2 (Sketch.rowsOf 2 forest))
  rw [inside, after] at reading
  have outline : Outline.ofSource (Sketch.source name forest) =
      [.declared ((Row.interface name).line 1)
        (.interface ⟨name.text, Node.read (Row.lines 2 (Sketch.rowsOf 2 forest))⟩)] := by
    rw [Outline.ofSource, Sketch.ofSource_source, Outline.read_declared (Row.isSignificant_line _ 1)
      (Row.declarationKind?_interface name 1) reading, Outline.read_nil]
  refine Document.parse_eq_ok.mpr ⟨?_, ?_⟩
  · rw [outline, Outline.fault?_declared, Declaration.firstFault?_findings]
    exact congrArg (Option.or · none) yields.faultless
  · rw [outline, ← yields.elements]
    rfl

example :
    Sketch.source (.known "home" (by decide +kernel))
      [.conditional .whenWord ⟨"open", by decide, by decide, by decide⟩
        [.display ⟨.known "card" (by decide +kernel), none, [], .nil, by simp⟩ []] (some [])] =
      "interface home:\n  when open:\n    show card:\n  else:".toList := by
  decide +kernel

end AppDescription
