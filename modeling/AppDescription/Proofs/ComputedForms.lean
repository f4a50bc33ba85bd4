import AppDescription.Proofs.CommonSource
import AppDescription.Proofs.Seam
import AppDescription.Proofs.SketchReading

namespace AppDescription

namespace Row

/-- A computed value on one line: `computed name: expression`. -/
def computedInline (name : Word) (expression : Phrase) : Row where
  depth := 0
  word := .known "computed" (by decide +kernel)
  more := ' ' :: (name.text ++ ':' :: ' ' :: expression.text)
  stops := space_stops _
  ends := by
    obtain ⟨c, last, solid⟩ := expression.ends
    exact ⟨c, by simp [List.getLast?_cons, last], solid⟩
  oneLine := by simp [name.oneLine, expression.oneLine]

/-- The header of a computed value that is written as a block: `computed name:`. -/
def computedHeader (name : Word) : Row :=
  header 0 (.known "computed" (by decide +kernel)) name.text name.oneLine

/-- The line of the block that says what the value is: `  value: expression`. -/
def computedSource (expression : Phrase) : Row where
  depth := 2
  word := .known "value" (by decide +kernel)
  more := ':' :: ' ' :: expression.text
  stops := colon_stops _
  ends := by
    obtain ⟨c, last, solid⟩ := expression.ends
    exact ⟨c, by simp [List.getLast?_cons, last], solid⟩
  oneLine := by simp [expression.oneLine]

variable (name : Word) (expression : Phrase) (number : Nat)

theorem named?_computedInline : Header.named? "computed" (computedInline name expression).text =
    some (name.text, ' ' :: expression.text) :=
  Header.named?_eq_some_iff.mpr
    ⟨name.nonempty, name.all, [' '], [], by simp, isBlank_of_mem_space, by simp, rfl⟩

theorem named?_computedHeader :
    Header.named? "computed" (computedHeader name).text = some (name.text, []) :=
  Header.named?_eq_some_iff.mpr
    ⟨name.nonempty, name.all, [' '], [], by simp, isBlank_of_mem_space, by simp, rfl⟩

theorem kind_computedSource {expression : Phrase} (plain : expression.text ≠ ['|']) :
    ((computedSource expression).line number).kind = .property "value" expression.text := by
  rw [Line.kind, text_line]
  exact LineKind.ofText_property (word?_text (computedSource expression)) expression.trimmed
    expression.oneLine plain

theorem kind_computedSource_of_bar {expression : Phrase} (bar : expression.text = ['|']) :
    ((computedSource expression).line number).kind = .literalMarker "value" := by
  have text : (computedSource expression).text = "value: |".toList :=
    congrArg (fun text => "value".toList ++ ':' :: ' ' :: text) bar
  rw [Line.kind, text_line, text]
  decide +kernel

end Row

/-- The outline of a computed value and what follows it. -/
theorem Outline.read_computed {line : Line} {rest left : List Line} {name more : Text}
    {block : ComputedBlock} (declares : line.declarationKind? = some .computed)
    (named : Header.named? "computed" line.text = some (name, more))
    (body : computedBody line rest name more = (block, left)) :
    read (line :: rest) = .declared line (.computed block) :: read left := by
  refine read_declared (Line.significant_of_declarationKind? declares) declares ?_
  rw [Declaration.read, readComputed_eq, readHeaded, named]
  dsimp only
  rw [body]
  rfl

namespace Phrase

/-- The lines below a computed value that belong to it in either form. Below a `|` these are the lines
of a literal, none of them shallower than the first. Below an expression these are blank lines and
comments. -/
def Owns (expression : Phrase) (lines : List Text) : Prop :=
  if expression.text = ['|'] then
    ∀ first ∈ lines.find? fun raw => !(Text.trim raw).isEmpty,
      3 ≤ indentOf first ∧ ∀ raw ∈ lines, Text.trim raw = [] ∨ indentOf first ≤ indentOf raw
  else ∀ raw ∈ lines, (LineKind.ofText (Text.trim raw)).isSignificant = false

/-- What a computed value says above the lines that belong to it. -/
def sourceAbove (expression : Phrase) (lines : List Text) : Text :=
  if expression.text = ['|'] then literalText 1 (Line.numberFrom 0 lines) else expression.text

variable {expression : Phrase} {own : List Text}

theorem raw_mem {number : Nat} {line : Line} (member : line ∈ Line.numberFrom number own) :
    line.raw ∈ own := by
  rw [← Line.numberFrom_map_raw number own]
  exact List.mem_map_of_mem member

theorem Owns.hidden (owns : expression.Owns own) (plain : expression.text ≠ ['|']) (number : Nat) :
    ∀ line ∈ Line.numberFrom number own, ¬line.isSignificant := by
  rw [Owns, if_neg plain] at owns
  exact fun line member => Bool.not_eq_true _ ▸ owns line.raw (raw_mem member)

/-- The lines of a literal either are all blank, or the first one that is not sets their depth. -/
theorem Owns.literal_cases (owns : expression.Owns own) (bar : expression.text = ['|'])
    (number : Nat) : (∀ line ∈ Line.numberFrom number own, line.isBlank = true) ∨
      ∃ first rest, (Line.numberFrom number own).dropWhile Line.isBlank = first :: rest ∧
        3 ≤ first.indent ∧
        ∀ line ∈ Line.numberFrom number own, line.continues first.indent = true := by
  rw [Owns, if_pos bar] at owns
  cases started : (Line.numberFrom number own).dropWhile Line.isBlank with
  | nil => exact .inl (List.dropWhile_eq_nil_iff.mp started)
  | cons first rest =>
    have found : own.find? (fun raw => !(Text.trim raw).isEmpty) = some first.raw := by
      have head := List.find?_not_eq_head?_dropWhile Line.isBlank (Line.numberFrom number own)
      rw [started] at head
      rw [← Line.numberFrom_map_raw number own, List.find?_map]
      exact congrArg (Option.map Line.raw) head
    obtain ⟨deep, inside⟩ := owns first.raw found
    refine .inr ⟨first, rest, rfl, deep, fun line member => ?_⟩
    rcases inside line.raw (raw_mem member) with blank | deeper
    · simp [Line.continues, Line.isBlank, Line.text, blank]
    · exact Bool.or_eq_true_iff.mpr (.inr (decide_eq_true deeper))

/-- A literal that is deep enough for the block is read there as it is below a header. -/
theorem Owns.literal (owns : expression.Owns own) (bar : expression.text = ['|']) {least : Nat}
    (shallow : least ≤ 3) (number : Nat) :
    literalText least (Line.numberFrom number own) = expression.sourceAbove own ∧
      afterLiteral least (Line.numberFrom number own) = [] := by
  have moved : Line.numberFrom number own = (Line.numberFrom 0 own).map (Line.below number) := by
    rw [← Line.numberFrom_below, Nat.zero_add]
  have same : literalText 1 (Line.numberFrom 0 own) = literalText 1 (Line.numberFrom number own) := by
    rw [moved]
    exact (Padded.map number _).literal.1
  rw [sourceAbove, if_pos bar, same]
  rcases owns.literal_cases bar number with blank | ⟨first, rest, started, deep, inside⟩
  · have nothing : (Line.numberFrom number own).dropWhile Line.isBlank = [] :=
      List.dropWhile_eq_nil_iff.mpr blank
    simp only [literalText, afterLiteral, literalLines?, nothing, and_self]
  · have reaches : least ≤ first.indent := shallow.trans deep
    have reaches' : 1 ≤ first.indent := (by decide : 1 ≤ 3).trans deep
    have part : rest ⊆ Line.numberFrom number own := fun line member =>
      (List.dropWhile_sublist _).mem (started ▸ List.mem_cons_of_mem first member)
    rw [afterLiteral_of_deep started reaches, List.dropWhile_eq_nil_iff]
    simp only [literalText, literalLines?_of_deep started reaches,
      literalLines?_of_deep started reaches', true_and]
    exact fun line member => inside line (part member)

/-- What a computed value owns may lie in its block. -/
theorem Owns.within (owns : expression.Owns own) (number : Nat) :
    ∀ line ∈ Line.numberFrom number own, line.within 2 = true := by
  intro line member
  by_cases bar : expression.text = ['|']
  · rcases owns.literal_cases bar number with blank | ⟨first, rest, started, deep, inside⟩
    · exact Line.within_of_not_significant (Line.isBlank_not_significant (blank line member)) 2
    · exact Line.continues_within ((by decide : 2 ≤ 3).trans deep) (inside line member)
  · exact Line.within_of_not_significant (owns.hidden bar number line member) 2

end Phrase

section

variable {name : Word} {expression : Phrase} {own : List Text} {tail : List Line}

/-- The lines of a computed block that gives a value and nothing else. -/
theorem ComputedEntry.read_computedSource (owns : expression.Owns own) (number : Nat) :
    read ((Row.computedSource expression).line number :: Line.numberFrom (number + 1) own) =
      [.value (expression.sourceAbove own)] := by
  by_cases bar : expression.text = ['|']
  · have inner : ((Row.computedSource expression).line number).inner = 3 := Row.inner_line _ number
    obtain ⟨content, after⟩ := owns.literal bar le_rfl (number + 1)
    rw [read, Row.kind_computedSource_of_bar number bar]
    simp only [if_true, inner, content, after, read]
  · have filled : expression.text.isEmpty = false := by simpa using expression.nonempty
    have setting : ofProperty? "value" expression.text = some (.value expression.text) := by
      rw [ofProperty?, filled]
      rfl
    have nothing : read (Line.numberFrom (number + 1) own) = [] := by
      rw [eq_significantOn read_insignificant, significantOn, List.dropWhile_eq_nil_iff.mpr, read]
      exact fun line member => by simpa using owns.hidden bar (number + 1) line member
    rw [read, Row.kind_computedSource number bar, Phrase.sourceAbove, if_neg bar]
    simp only [setting, nothing]
    rfl

theorem Outline.read_computedInline (owns : expression.Owns own) (outlies : Outlies 1 tail)
    (number : Nat) :
    let line := (Row.computedInline name expression).line number
    read (line :: (Line.numberFrom (number + 1) own ++ tail)) =
      .declared line (.computed (.inline name.text (expression.sourceAbove own))) :: read tail := by
  intro line
  have inner : line.inner = 1 := Row.inner_line _ number
  have declares : line.declarationKind? = some .computed := Row.declarationKind?_line _ number rfl rfl
  have named : Header.named? "computed" line.text = some (name.text, ' ' :: expression.text) := by
    rw [Row.text_line, Row.named?_computedInline]
  have trimmed : Text.trim (' ' :: expression.text) = expression.text := expression.trimmed
  by_cases bar : expression.text = ['|']
  · obtain ⟨content, after⟩ := outlies.literal_append le_rfl (Line.numberFrom (number + 1) own)
    obtain ⟨content', after'⟩ := owns.literal bar (by decide : 1 ≤ 3) (number + 1)
    refine read_computed declares named ?_
    rw [computedBody, trimmed, if_pos bar, inner, content, after, content', after', List.nil_append]
  · have filled : expression.text.isEmpty = false := by simpa using expression.nonempty
    have body : computedBody line (Line.numberFrom (number + 1) own ++ tail) name.text
        (' ' :: expression.text) =
          (.inline name.text expression.text, Line.numberFrom (number + 1) own ++ tail) := by
      rw [computedBody, trimmed, if_neg bar, filled]
      rfl
    rw [read_computed declares named body, Phrase.sourceAbove, if_neg bar,
      read_insignificant_append (owns.hidden bar (number + 1))]

theorem Outline.read_computedHeader (owns : expression.Owns own) (outlies : Outlies 1 tail)
    (number : Nat) :
    let line := (Row.computedHeader name).line number
    read (line :: (Row.computedSource expression).line (number + 1) ::
        (Line.numberFrom (number + 2) own ++ tail)) =
      .declared line (.computed (.block name.text [.value (expression.sourceAbove own)])) ::
        read tail := by
  intro line
  have inner : line.inner = 1 := Row.inner_line _ number
  have declares : line.declarationKind? = some .computed := Row.declarationKind?_line _ number rfl rfl
  have named : Header.named? "computed" line.text = some (name.text, []) := by
    rw [Row.text_line, Row.named?_computedHeader]
  let first := (Row.computedSource expression).line (number + 1)
  have depth : first.indent = 2 := Row.indent_line _ (number + 1)
  have inside : ∀ line ∈ Line.numberFrom (number + 2) own, line.within first.indent = true :=
    depth ▸ owns.within (number + 2)
  obtain ⟨members, after⟩ := outlies.members_cons (Row.isSignificant_line _ (number + 1))
    (depth ▸ by decide) inside
  refine read_computed declares named ?_
  have noBar : Text.trim [] ≠ ['|'] := by decide
  have empty : (Text.trim []).isEmpty := rfl
  rw [computedBody, if_neg noBar, if_pos empty, inner, members, after,
    ComputedEntry.read_computedSource owns]

end

namespace Document

/-- Two results that no finding and no generated file can tell apart: interchangeable documents, or
one fault, perhaps a line further down. -/
inductive Interchanged : Except Fault Document → Except Fault Document → Prop
  | ok {document other : Document} (alike : document.Interchangeable other) :
      Interchanged (.ok document) (.ok other)
  | error {fault fault' : Fault} (same : fault' = fault ∨ fault' = fault.below 1) :
      Interchanged (.error fault) (.error fault')

/-- The two forms of a computed value come to the same among other declarations. -/
theorem inlined_forms {before after after' : List Declaration}
    (same : ofDeclarations after' = ofDeclarations after) (name source : Text) :
    (ofDeclarations (before ++ .computed (.inline name source) :: after)).inlined =
      (ofDeclarations (before ++ .computed (.block name [.value source]) :: after')).inlined := by
  have split (declaration : Declaration) (rest : List Declaration) :
      (ofDeclarations (before ++ declaration :: rest)).inlined =
        (ofDeclarations before).inlined.followedBy
          ((ofDeclarations [declaration]).inlined.followedBy (ofDeclarations rest).inlined) := by
    rw [← inlined_followedBy, ← ofDeclarations_append, ← inlined_followedBy,
      ← ofDeclarations_append]
    rfl
  -- alone, the two forms differ in where they keep the source, which inlining forgets
  rw [split, split, same]
  rfl

theorem interchanged_of_outlines {source source' name value : Text} {before after after' : Outline}
    {line header : Line}
    (outline : Outline.ofSource source =
      before ++ .declared line (.computed (.inline name value)) :: after)
    (outline' : Outline.ofSource source' =
      before ++ .declared header (.computed (.block name [.value value])) :: after')
    (same : ofDeclarations after'.declarations = ofDeclarations after.declarations)
    (fault : after'.fault? = after.fault?.map (Fault.below 1)) :
    Interchanged (parse source) (parse source') := by
  have declared (line : Line) (declaration : Declaration) (rest : Outline) :
      Outline.declarations (before ++ .declared line declaration :: rest) =
        before.declarations ++ declaration :: rest.declarations := by
    simp [Outline.declarations]
  rw [parse_eq, parse_eq, outline, outline', Outline.fault?_append, Outline.fault?_append,
    Outline.fault?_declared, Outline.fault?_declared, Declaration.firstFault?_findings,
    Declaration.firstFault?_findings, Option.none_or, Option.none_or, fault]
  cases above : before.fault? with
  | some cause => exact .error (.inl rfl)
  | none =>
    cases below : after.fault? with
    | some cause => exact .error (.inr rfl)
    | none =>
      refine .ok (.of_inlined ?_)
      rw [declared, declared]
      exact inlined_forms same name value

end Document

/-- Lines that start with a significant one at the left margin, wherever they are counted from. -/
theorem Outlies.numberFrom {rest : List Text}
    (margin : ∀ raw ∈ rest.head?,
      (LineKind.ofText (Text.trim raw)).isSignificant = true ∧ indentOf raw = 0) (first : Nat) :
    Outlies 1 (Line.numberFrom first rest) := by
  cases rest with
  | nil => exact .nil
  | cons raw rest =>
    rintro _ ⟨⟩
    obtain ⟨significant, left⟩ := margin raw rfl
    exact ⟨significant, Nat.lt_one_iff.mpr left⟩

/-- A computed value may be written on one line or as a block, with a literal or without, wherever it
stands in a source. -/
theorem Document.parse_computedForms {name : Word} {expression : Phrase} {source source' : Text}
    {above own rest : List Text}
    (inline : Text.splitOn '\n' source =
      above ++ (Row.computedInline name expression).raw :: (own ++ rest))
    (block : Text.splitOn '\n' source' = above ++ (Row.computedHeader name).raw ::
      (Row.computedSource expression).raw :: (own ++ rest))
    (owns : expression.Owns own)
    (margin : ∀ raw ∈ rest.head?,
      (LineKind.ofText (Text.trim raw)).isSignificant = true ∧ indentOf raw = 0) :
    Document.Interchanged (Document.parse source) (Document.parse source') := by
  let number := 1 + above.length
  let lines := Line.numberFrom 1 above
  let tail := Line.numberFrom (number + 1 + own.length) rest
  have outlies := Outlies.numberFrom margin
  have moved : Line.numberFrom (number + 2 + own.length) rest = tail.map (Line.below 1) := by
    rw [← Line.numberFrom_below]
    congr 1
    omega
  have whole : Line.ofSource source = lines ++ (Row.computedInline name expression).line number ::
      (Line.numberFrom (number + 1) own ++ tail) := by
    rw [Line.ofSource, inline, Line.numberFrom_append, Line.numberFrom_cons, Line.numberFrom_append]
    rfl
  have whole' : Line.ofSource source' = lines ++ (Row.computedHeader name).line number ::
      (Row.computedSource expression).line (number + 1) ::
        (Line.numberFrom (number + 2) own ++ tail.map (Line.below 1)) := by
    rw [Line.ofSource, block, Line.numberFrom_append, Line.numberFrom_cons, Line.numberFrom_cons,
      Line.numberFrom_append, ← moved]
    rfl
  -- either reading stops above the computed value, or the value and what follows are read on their own
  rcases Outline.read_above_seam lines with ⟨stopped, stays⟩ | goes
  · obtain ⟨cause, found⟩ := Option.isSome_iff_exists.mp stopped
    rw [parse_eq, parse_eq, Outline.ofSource, Outline.ofSource, whole, whole',
      stays _ (Row.outlies_line _ number _), stays _ (Row.outlies_line _ number _), found]
    exact .error (.inl rfl)
  · obtain ⟨same, fault⟩ := (Padded.map 1 tail).outline
    have outline : Outline.ofSource source = Outline.read lines ++
        .declared ((Row.computedInline name expression).line number)
          (.computed (.inline name.text (expression.sourceAbove own))) :: Outline.read tail := by
      rw [Outline.ofSource, whole, goes _ (Row.outlies_line _ number _),
        Outline.read_computedInline owns (outlies _)]
    have outline' : Outline.ofSource source' = Outline.read lines ++
        .declared ((Row.computedHeader name).line number)
          (.computed (.block name.text [.value (expression.sourceAbove own)])) ::
            Outline.read (tail.map (Line.below 1)) := by
      rw [Outline.ofSource, whole', goes _ (Row.outlies_line _ number _),
        Outline.read_computedHeader owns (moved ▸ outlies _)]
    exact interchanged_of_outlines outline outline' same fault

/-- An expression that looks like a comment, above a declaration, and a literal at the end of a
source. -/
theorem Document.parse_computedForms_beside_comments :
    let inline : Text := "app Shop:\ncomputed total: # a: b\n\n # sum\nlogic Cart:"
    let block : Text := "app Shop:\ncomputed total:\n  value: # a: b\n\n # sum\nlogic Cart:"
    let inline' : Text := "app Shop:\ncomputed total: |\n\n   # a\n     b"
    let block' : Text := "app Shop:\ncomputed total:\n  value: |\n\n   # a\n     b"
    Interchanged (parse inline) (parse block) ∧ Interchanged (parse inline') (parse block') := by
  intro inline block inline' block'
  let total := Word.known "total" (by decide +kernel)
  let sum : Phrase := ⟨"# a: b", by decide, by decide, by decide⟩
  let bar : Phrase := ⟨"|", by decide, by decide, by decide⟩
  have comments : sum.Owns ["", " # sum"] := by
    unfold Phrase.Owns
    decide +kernel
  have literal : bar.Owns ["", "   # a", "     b"] := by
    unfold Phrase.Owns
    decide +kernel
  have first := @parse_computedForms total sum inline block ["app Shop:"] ["", " # sum"]
    ["logic Cart:"] (by decide +kernel) (by decide +kernel) comments (by decide +kernel)
  have second := @parse_computedForms total bar inline' block' ["app Shop:"]
    ["", "   # a", "     b"] [] (by decide +kernel) (by decide +kernel) literal (by simp)
  exact ⟨first, second⟩

end AppDescription
