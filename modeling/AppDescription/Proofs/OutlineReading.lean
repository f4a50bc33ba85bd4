import AppDescription.Proofs.DeclarationReading

namespace AppDescription

namespace Finding

@[simp]
theorem firstFault?_nil : firstFault? [] = none := rfl

theorem firstFault?_append (left right : List Finding) :
    firstFault? (left ++ right) = (firstFault? left).or (firstFault? right) :=
  List.findSome?_append

theorem firstFault?_notes {α : Type} (items : List α) (note : α → Note) :
    firstFault? (items.map fun item => .note (note item)) = none := by
  simp [firstFault?, fault?]

end Finding

/-- Only an interface holds headers that may be malformed. -/
theorem Declaration.firstFault?_findings (declaration : Declaration) :
    Finding.firstFault? declaration.findings =
      match declaration with
      | .interface block => Finding.firstFault? (Node.allFindings block.body)
      | _ => none := by
  cases declaration with
  | data block => exact Finding.firstFault?_notes _ _
  | computed block => exact Finding.firstFault?_notes _ _
  | _ => rfl

namespace Outline

variable {line : Line} {rest : List Line}

@[simp]
theorem read_nil : read [] = [] := by rw [read]

theorem read_insignificant (hidden : ¬line.isSignificant) : read (line :: rest) = read rest := by
  rw [read, if_neg hidden]

theorem read_unknown (significant : line.isSignificant) (unknown : line.declarationKind? = none) :
    read (line :: rest) = .unknown line :: read (afterBlock line.inner rest) := by
  rw [read, if_pos significant, unknown]

theorem read_declared {kind : DeclarationKind} {declaration : Declaration} {below : List Line}
    (significant : line.isSignificant) (declares : line.declarationKind? = some kind)
    (reading : Declaration.read kind line rest = .ok (declaration, below)) :
    read (line :: rest) = .declared line declaration :: read below := by
  rw [read, if_pos significant, declares]
  dsimp only
  split
  · rename_i found left same
    cases same.symm.trans reading
    rfl
  · rename_i cause same
    cases same.symm.trans reading

theorem read_malformed {kind : DeclarationKind} {cause : HeaderFault}
    (significant : line.isSignificant) (declares : line.declarationKind? = some kind)
    (reading : Declaration.read kind line rest = .error cause) :
    read (line :: rest) = [.malformed line cause] := by
  rw [read, if_pos significant, declares]
  dsimp only
  split
  · rename_i found left same
    cases same.symm.trans reading
  · rename_i found same
    cases same.symm.trans reading
    rfl

/-- The first fault of an outline, where reading its source stops. -/
def fault? (outline : Outline) : Option Fault :=
  Finding.firstFault? outline.findings

@[simp]
theorem fault?_nil : fault? [] = none := rfl

@[simp]
theorem fault?_unknown (line : Line) (outline : Outline) :
    fault? (.unknown line :: outline) = fault? outline := rfl

@[simp]
theorem fault?_declared (line : Line) (declaration : Declaration) (outline : Outline) :
    fault? (.declared line declaration :: outline) =
      (Finding.firstFault? declaration.findings).or (fault? outline) :=
  Finding.firstFault?_append _ _

@[simp]
theorem fault?_malformed (line : Line) (cause : HeaderFault) (outline : Outline) :
    fault? (.malformed line cause :: outline) = some ⟨line, cause⟩ := rfl

end Outline

theorem Document.parse_eq (source : Text) :
    Document.parse source =
      match (Outline.ofSource source).fault? with
      | some fault => .error fault
      | none => .ok (Document.ofDeclarations (Outline.ofSource source).declarations) := rfl

theorem Document.parse_eq_error {source : Text} {fault : Fault} :
    Document.parse source = .error fault ↔ (Outline.ofSource source).fault? = some fault := by
  rw [Document.parse_eq]
  cases (Outline.ofSource source).fault? <;> simp

theorem Document.parse_eq_ok {source : Text} {document : Document} :
    Document.parse source = .ok document ↔ (Outline.ofSource source).fault? = none ∧
      Document.ofDeclarations (Outline.ofSource source).declarations = document := by
  rw [Document.parse_eq]
  cases (Outline.ofSource source).fault? <;> simp

end AppDescription
