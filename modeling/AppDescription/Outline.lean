import AppDescription.Outline.Declaration

namespace AppDescription

/-- A line at the top of a source that stands for itself and the lines that belong to it. -/
inductive OutlineEntry where
  | declared (line : Line) (declaration : Declaration)
  /-- Starts no declaration; it is passed over with everything deeper. -/
  | unknown (line : Line)
  | malformed (line : Line) (cause : HeaderFault)

/-- The outline of a source: its top lines in order, down to the first malformed one. -/
abbrev Outline := List OutlineEntry

/-- The declaration that a line starts. Only a line at the left margin starts one. -/
def Line.declarationKind? (line : Line) : Option DeclarationKind :=
  if line.indent = 0 then line.keyword?.bind DeclarationKind.ofKeyword? else none

namespace Outline

def read : List Line → Outline
  | [] => []
  | line :: rest =>
    if line.isSignificant then
      match line.declarationKind? with
      | none => .unknown line :: read (afterBlock line.inner rest)
      | some kind =>
        match _reading : Declaration.read kind line rest with
        | .ok (declaration, below) => .declared line declaration :: read below
        | .error cause => [.malformed line cause]
    else read rest
termination_by lines => lines.length
decreasing_by
  all_goals
    have := afterBlock_length_le line.inner rest
    simp only [List.length_cons]
    first
    | omega
    | have := Declaration.read_shrinks _ _ _ _ _ _reading
      omega

def ofSource (source : Text) : Outline :=
  read (Line.ofSource source)

def declarations (outline : Outline) : List Declaration :=
  outline.filterMap fun
    | .declared _ declaration => some declaration
    | _ => none

def findings (outline : Outline) : List Finding :=
  outline.flatMap fun
    | .declared _ declaration => declaration.findings
    | .unknown line => [.note (.unknownLine line.number line.text)]
    | .malformed line cause => [.fault ⟨line, cause⟩]

end Outline

namespace Document

/-- Sorts declarations into sections. Of several app, integrations or deploy declarations the last
one counts. -/
def ofDeclarations (declarations : List Declaration) : Document :=
  { app := (declarations.filterMap fun
      | .app app => some app
      | _ => none).getLast?
    data := declarations.filterMap fun
      | .data block => some block.model
      | _ => none
    interfaces := declarations.filterMap fun
      | .interface block => some block.interface
      | _ => none
    logic := declarations.filterMap fun
      | .logic name => some name
      | _ => none
    computed := declarations.filterMap fun
      | .computed block => some block.computed
      | _ => none
    stateMachines := declarations.filterMap fun
      | .stateMachine name => some name
      | _ => none
    realtime := declarations.filterMap fun
      | .realtime name => some name
      | _ => none
    external := declarations.filterMap fun
      | .external name => some name
      | _ => none
    integrations := (declarations.filterMap fun
      | .integrations sections => some sections
      | _ => none).getLast?
    deploy := (declarations.filterMap fun
      | .deploy config => some config
      | _ => none).getLast?
    order := declarations.map Declaration.entry }

/-- Reads a source. The first malformed header, in reading order, is the fault of the whole. -/
def parse (source : Text) : Except Fault Document :=
  let outline := Outline.ofSource source
  match Finding.firstFault? outline.findings with
  | some fault => .error fault
  | none => .ok (ofDeclarations outline.declarations)

/-- What reading a source passes over, up to its fault if it has one. -/
def parseNotes (source : Text) : List Note :=
  Finding.notes (Outline.ofSource source).findings

end Document

end AppDescription
