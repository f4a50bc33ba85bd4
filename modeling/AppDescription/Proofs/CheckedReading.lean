import AppDescription.Proofs.FaultLine
import AppDescription.Proofs.LineRecord
import AppDescription.Proofs.TokenReading

namespace AppDescription

/-- A value, unless a fault was met on the way to it. -/
def judged (fault? : Option Fault) (value : α) : Except Mishap α :=
  match fault? with
  | some fault => .error (.malformed fault)
  | none => .ok value

theorem judged_then (fault? : Option Fault) (value : α) (f : α → β) :
    (judged fault? value >>= fun found => return f found) = judged fault? (f value) := by
  cases fault? <;> rfl

/-- Of two readings in turn the first fault counts. -/
theorem judged_bind {first second : Option Fault} {value : α} {result : β}
    {next : α → Except Mishap β} (later : next value = judged second result) :
    (judged first value >>= next) = judged (first.or second) result := by
  cases first with
  | some fault => rfl
  | none => exact later

/-- The key under which what a line says is kept. -/
def Line.storedKey (line : Line) : Except Mishap Text :=
  match (LineRecord.ofText line.text).key with
  | some key => .ok key
  | none => .error (.keyless line)

/-- A line has a key whenever something is kept under it, and it is the key of its role. -/
theorem Line.storedKey_eq {line : Line} {key : Text}
    (keeps : (∃ value, BodyRole.ofLine line = .property key value) ∨
      BodyRole.ofLine line = .literal key) : line.storedKey = .ok key := by
  have record := LineRecord.ofText_eq line.text
  rcases keeps with ⟨value, property⟩ | literal
  · have kind : LineKind.ofText line.text = .property key value :=
      (BodyRole.ofLine_property property).1
    rw [storedKey, record, kind]
    rfl
  · have kind : LineKind.ofText line.text = .literalMarker key := BodyRole.ofLine_literal literal
    rw [storedKey, record, kind]
    rfl

namespace DataEntry

/-- Reads the lines of a data block, and the definitions of fields word by word. -/
def readChecked : List Line → Except Mishap (List DataEntry)
  | [] => return []
  | line :: rest =>
    if line.isSignificant then
      if line.text = "relationships:".toList then do
        let more ← readChecked (afterBlock line.inner rest)
        return (significantTexts (block line.inner rest)).map relationship ++ more
      else
        match Header.field? line.text with
        | some (name, definition) => do
          let f ← Field.readWords name definition
          let more ← readChecked rest
          return .field f :: more
        | none => do
          let more ← readChecked rest
          return .ignored line.text :: more
    else readChecked rest
termination_by lines => lines.length
decreasing_by
  all_goals
    have := afterBlock_length_le line.inner rest
    simp only [List.length_cons]
    omega

theorem readChecked_eq (lines : List Line) : readChecked lines = .ok (read lines) := by
  induction lines using read.induct with
  | case1 => rw [readChecked, read]; rfl
  | case2 line rest significant opens ih =>
    rw [readChecked, if_pos significant, if_pos opens, ih, read, if_pos significant, if_pos opens]
    rfl
  | case3 line rest significant plain f found ih =>
    obtain ⟨⟨name, definition⟩, header, defined⟩ := Option.bind_eq_some_iff.mp found
    obtain ⟨field, reads, whole⟩ := Field.readWords_of_line header
    cases Option.some.inj (reads.symm.trans defined)
    rw [readChecked, if_pos significant, if_neg plain, header, read, if_pos significant,
      if_neg plain, found]
    dsimp only
    rw [whole, ih]
    rfl
  | case4 line rest significant plain missing ih =>
    have other : Header.field? line.text = none := by
      by_contra header
      obtain ⟨⟨name, definition⟩, header⟩ := Option.ne_none_iff_exists'.mp header
      obtain ⟨field, reads, _⟩ := Field.readWords_of_line header
      rw [field?, header, Option.bind_some, reads] at missing
      cases missing
    rw [readChecked, if_pos significant, if_neg plain, other, read, if_pos significant, if_neg plain,
      missing]
    dsimp only
    rw [ih]
    rfl
  | case5 line rest hidden ih => rw [readChecked, if_neg hidden, ih, read, if_neg hidden]

end DataEntry

namespace Node

/-- Reads the lines of a body and stops at once at a malformed one. What a line says is kept under
the key that the line has. -/
def readChecked : List Line → Except Mishap (List Node)
  | [] => return []
  | line :: rest =>
    match BodyRole.ofLine line with
    | .ignored => readChecked rest
    | .closed => readChecked (afterBlock line.inner rest)
    | .looseElse => do
      let more ← readChecked (afterBlock line.inner rest)
      return .looseElse line :: more
    | .property _ value => do
      let key ← line.storedKey
      let more ← readChecked rest
      return .property key value :: more
    | .literal _ => do
      let key ← line.storedKey
      let more ← readChecked (afterLiteral line.inner rest)
      return .property key (literalText line.inner rest) :: more
    | .malformed cause => throw (.malformed ⟨line, cause⟩)
    | .opens (.display kind name content) => do
      let body ← readChecked (members line.inner rest)
      let more ← readChecked (afterMembers line.inner rest)
      return .display line kind name content body :: more
    | .opens (.iteration item collection) => do
      let body ← readChecked (members line.inner rest)
      let more ← readChecked (afterMembers line.inner rest)
      return .iteration line item collection body :: more
    | .opens (.conditional word condition) => do
      let body ← readChecked (members line.inner rest)
      match _found : elseBranch? line.indent (afterMembers line.inner rest) with
      | none =>
        let more ← readChecked (afterMembers line.inner rest)
        return .conditional line word condition body :: more
      | some (elseLine, below) =>
        let otherwise ← readChecked (members line.inner below)
        let more ← readChecked (afterMembers line.inner below)
        return .choice line word condition body elseLine otherwise :: more
termination_by lines => lines.length
decreasing_by
  all_goals
    have := members_length_le line.inner rest
    have := afterMembers_length_le line.inner rest
    have := afterBlock_length_le line.inner rest
    have := afterLiteral_length_le line.inner rest
    simp only [List.length_cons]
    first
    | omega
    | have := elseBranch?_length_lt _found
      have := members_length_le line.inner below
      have := afterMembers_length_le line.inner below
      omega

theorem fault?_cons_of_findings {node : Node} {body : List Node}
    (same : node.findings = allFindings body) (more : List Node) :
    fault? (node :: more) = (fault? body).or (fault? more) := by
  rw [fault?_cons, fault?_singleton, same]
  rfl

/-- Reading that stops at a malformed line gives the nodes of the body, unless there is a fault among
them. -/
theorem readChecked_eq (lines : List Line) :
    readChecked lines = judged (fault? (read lines)) (read lines) := by
  fun_induction readChecked lines with
  | case1 => rw [read_nil]; rfl
  | case2 line rest role ih => rw [read_ignored role, ih]
  | case3 line rest role ih => rw [read_closed role, ih]
  | case4 line rest role ih =>
    rw [read_looseElse role, ih, judged_then]
    rfl
  | case5 line rest key value role ih =>
    rw [read_property role, Line.storedKey_eq (.inl ⟨value, role⟩), ih]
    exact judged_then _ _ _
  | case6 line rest key role ih =>
    rw [read_literal role, Line.storedKey_eq (.inr role), ih]
    exact judged_then _ _ _
  | case7 line rest cause role =>
    rw [read_malformed role]
    rfl
  | case8 line rest kind name content role ihBody ih =>
    rw [read_opens role, ofHeader, fault?_cons_of_findings rfl, ihBody, ih]
    exact judged_bind (judged_then _ _ _)
  | case9 line rest item collection role ihBody ih =>
    rw [read_opens role, ofHeader, fault?_cons_of_findings rfl, ihBody, ih]
    exact judged_bind (judged_then _ _ _)
  | case10 line rest word condition role ihBody ih ihElse ihBelow =>
    rw [read_opens role, ofHeader, ihBody]
    split
    · rename_i alone
      simp only [alone]
      rw [fault?_cons_of_findings rfl, ih]
      exact judged_bind (judged_then _ _ _)
    · rename_i elseLine below found
      simp only [found]
      have faults : fault? (.choice line word condition (read (members line.inner rest)) elseLine
            (read (members line.inner below)) :: read (afterMembers line.inner below)) =
          (fault? (read (members line.inner rest))).or
            ((fault? (read (members line.inner below))).or
              (fault? (read (afterMembers line.inner below)))) := by
        rw [fault?_cons, fault?_singleton, findings, Finding.firstFault?_append, Option.or_assoc]
        rfl
      rw [faults, ihElse elseLine below found, ihBelow elseLine below found]
      exact judged_bind (judged_bind (judged_then _ _ _))

end Node

/-- A header with its keyword and a name. -/
def Line.nameUnder (header : Line) (keyword : Text) : Except Mishap Text :=
  match Header.named? keyword header.text with
  | some (name, _) => return name
  | none => throw (.malformed ⟨header, .declaration (some keyword) header.text⟩)

namespace Declaration

/-- Reads the construct of a known kind. The bodies of data models and interfaces are where words are
taken by their position and settings are kept under keys. -/
def readChecked (kind : DeclarationKind) (header : Line) (below : List Line) :
    Except Mishap (Declaration × List Line) :=
  match kind with
  | .data => do
    let name ← header.nameUnder "data"
    let entries ← DataEntry.readChecked (block header.inner below)
    return (.data ⟨name, entries⟩, afterBlock header.inner below)
  | .interface => do
    let name ← header.nameUnder "interface"
    let body ← Node.readChecked (members header.inner below)
    return (.interface ⟨name, body⟩, afterMembers header.inner below)
  | kind => (read kind header below).mapError fun cause => .malformed ⟨header, cause⟩

section

variable {kind : DeclarationKind} {header : Line} {below : List Line}

theorem readChecked_of_error {cause : HeaderFault} (failed : read kind header below = .error cause) :
    readChecked kind header below = .error (.malformed ⟨header, cause⟩) := by
  cases kind with
  | data | interface =>
    have inner := Except.map_eq_error_iff.mp failed
    first
    | rw [readData, readOwner_eq, readHeaded] at inner
    | rw [readInterface_eq, readHeaded] at inner
    split at inner
    · cases inner
    · rename_i unnamed
      cases inner
      rw [readChecked, Line.nameUnder, unnamed]
      rfl
  | _ =>
    simp only [readChecked, failed]
    rfl

theorem readChecked_of_ok {declaration : Declaration} {rest : List Line}
    (reading : read kind header below = .ok (declaration, rest)) :
    readChecked kind header below =
      judged (Finding.firstFault? declaration.findings) (declaration, rest) := by
  have faults := fault?_of_read reading
  cases kind with
  | data =>
    obtain ⟨⟨block, left⟩, inner, same⟩ := Except.map_eq_ok_iff.mp reading
    cases same
    rw [readData, readOwner_eq] at inner
    obtain ⟨name, more, named, taken⟩ := readHeaded_eq_ok.mp inner
    cases taken
    simp only [faults, inside, Node.read_nil, readChecked, Line.nameUnder, named,
      DataEntry.readChecked_eq]
    rfl
  | interface =>
    obtain ⟨⟨block, left⟩, inner, same⟩ := Except.map_eq_ok_iff.mp reading
    cases same
    rw [readInterface_eq] at inner
    obtain ⟨name, more, named, taken⟩ := readHeaded_eq_ok.mp inner
    cases taken
    rw [faults, readChecked, Line.nameUnder, named, Node.readChecked_eq]
    exact judged_then _ _ _
  | _ =>
    simp only [faults, inside, Node.read_nil, readChecked, reading]
    rfl

end

end Declaration

/-- Whatever is read and checked is what is read without the checks. -/
theorem Declaration.read_of_readChecked {kind : DeclarationKind} {header : Line}
    {below rest : List Line} {declaration : Declaration}
    (reading : readChecked kind header below = .ok (declaration, rest)) :
    read kind header below = .ok (declaration, rest) := by
  cases plain : read kind header below with
  | error cause =>
    rw [readChecked_of_error plain] at reading
    cases reading
  | ok found =>
    rw [readChecked_of_ok plain] at reading
    unfold judged at reading
    split at reading <;> cases reading
    rfl

namespace Outline

/-- Reads a source from the top and stops at once at a fault. -/
def readChecked : List Line → Except Mishap Outline
  | [] => return []
  | line :: rest =>
    if line.isSignificant then
      match line.declarationKind? with
      | none => do
        let more ← readChecked (afterBlock line.inner rest)
        return .unknown line :: more
      | some kind =>
        match _reading : Declaration.readChecked kind line rest with
        | .error mishap => throw mishap
        | .ok (declaration, below) => do
          let more ← readChecked below
          return .declared line declaration :: more
    else readChecked rest
termination_by lines => lines.length
decreasing_by
  all_goals
    have := afterBlock_length_le line.inner rest
    simp only [List.length_cons]
    first
    | omega
    | have plain := Declaration.read_of_readChecked _reading
      have := Declaration.read_shrinks _ _ _ _ _ plain
      omega

theorem readChecked_eq (lines : List Line) :
    readChecked lines = judged (read lines).fault? (read lines) := by
  fun_induction readChecked lines with
  | case1 => rw [read_nil]; rfl
  | case2 line rest significant unknown ih =>
    rw [read_unknown significant unknown, ih]
    exact judged_then _ _ _
  | case3 line rest significant kind declares mishap failed =>
    cases plain : Declaration.read kind line rest with
    | error cause =>
      rw [Declaration.readChecked_of_error plain] at failed
      cases failed
      rw [read_malformed significant declares plain]
      rfl
    | ok found =>
      rw [Declaration.readChecked_of_ok plain] at failed
      rw [read_declared significant declares plain, fault?_declared]
      cases fault : Finding.firstFault? found.1.findings with
      | none =>
        rw [fault] at failed
        cases failed
      | some first =>
        rw [fault] at failed
        cases failed
        rfl
  | case4 line rest significant kind declares declaration below reading ih =>
    have plain := Declaration.read_of_readChecked reading
    rw [Declaration.readChecked_of_ok plain] at reading
    rw [read_declared significant declares plain, fault?_declared, ih]
    cases fault : Finding.firstFault? declaration.findings with
    | none => exact judged_then _ _ _
    | some first =>
      rw [fault] at reading
      cases reading
  | case5 line rest hidden ih => rw [read_insignificant hidden, ih]

end Outline

namespace Document

/-- Reads a source with every check made where it is due. -/
def parseChecked (source : Text) : Except Mishap Document := do
  let outline ← Outline.readChecked (Line.ofSource source)
  return ofDeclarations outline.declarations

/-- Reading a source ends with a document, or with the fault of a malformed header, and in no other
way. Whatever line is taken for a field, there is a word in its definition, however its white space is
split; from there on each word that is asked for is there, and each step through the words gets
further. A line that is said to hold a setting has a key for it. -/
theorem parse_checked :
    (∀ source, parseChecked source = (parse source).mapError Mishap.malformed) ∧
    (∀ (line : Line) (name definition : Text), Header.Splits name definition line.text →
      Text.words definition ≠ []) ∧
    (∀ (words : List Text) (index : Nat), index < words.length →
      (∃ type next, FieldType.readAt words index = .ok (type, next) ∧ index < next ∧
        next ≤ words.length) ∧
      ∃ found next, Modifier.turn words index = .ok (found, next) ∧ index < next ∧
        next ≤ words.length) ∧
    ∀ text, (LineRecord.ofText text).shape = .literalMarker ∨
      (LineRecord.ofText text).shape = .property → (LineRecord.ofText text).key.isSome := by
  refine ⟨fun source => ?_, fun line name definition splits => splits.words_ne_nil,
    fun words index inside => ⟨?_, ?_⟩, fun text keeps => LineRecord.key_isSome keeps⟩
  · rw [parseChecked, Outline.readChecked_eq, judged_then, parse_eq, Outline.ofSource]
    cases (Outline.read (Line.ofSource source)).fault? <;> rfl
  · obtain ⟨type, next, reads, grows, ends, _⟩ := FieldType.readAt_eq inside
    exact ⟨type, next, reads, grows, ends⟩
  · obtain ⟨found, next, turns, grows, ends, _⟩ := Modifier.turn_eq inside
    exact ⟨found, next, turns, grows, ends⟩

end Document

end AppDescription
