import AppDescription.Outline.Computed
import AppDescription.Outline.Data
import AppDescription.Outline.Node
import AppDescription.Outline.Sections

namespace AppDescription

/-- The outcome of reading a construct from its header line and the lines below it: the construct
and the lines it leaves, or what is wrong with the header. -/
abbrev Reading (α : Type) := Except HeaderFault (α × List Line)

/-- An interface declaration with the outline of its body. -/
structure InterfaceBlock where
  name : Text
  body : List Node

namespace InterfaceBlock

def interface (block : InterfaceBlock) : Interface :=
  ⟨block.name, Node.elements block.body⟩

end InterfaceBlock

/-- A construct that is named on its header line and owns everything deeper. -/
def readOwner (keyword : Text) (ofBody : Text → List Line → α) (header : Line) (below : List Line) :
    Reading α :=
  match Header.named? keyword header.text with
  | some (name, _) => .ok (ofBody name (block header.inner below), afterBlock header.inner below)
  | none => .error (.declaration (some keyword) header.text)

def readApp : Line → List Line → Reading App :=
  readOwner "app" App.ofLines

def readData : Line → List Line → Reading DataBlock :=
  readOwner "data" fun name lines => ⟨name, DataEntry.read lines⟩

def readLogic : Line → List Line → Reading Text :=
  readOwner "logic" fun name _ => name

/-- Any keyword and a name. -/
def readNamed (header : Line) (below : List Line) : Reading Text :=
  match Header.anyNamed? header.text with
  | some name => .ok (name, afterBlock header.inner below)
  | none => .error (.declaration header.keyword? header.text)

def readInterface (header : Line) (below : List Line) : Reading InterfaceBlock :=
  match Header.named? "interface" header.text with
  | some (name, _) =>
    .ok (⟨name, Node.read (members header.inner below)⟩, afterMembers header.inner below)
  | none => .error (.declaration (some "interface") header.text)

/-- A computed value. An expression on the header line leaves every line below it to others. -/
def readComputed (header : Line) (below : List Line) : Reading ComputedBlock :=
  match Header.named? "computed" header.text with
  | none => .error (.declaration (some "computed") header.text)
  | some (name, rest) =>
    let expression := Text.trim rest
    if expression = ['|'] then
      .ok (.inline name (literalText header.inner below), afterLiteral header.inner below)
    else if expression.isEmpty then
      .ok (.block name (ComputedEntry.read (members header.inner below)),
        afterMembers header.inner below)
    else .ok (.inline name expression, below)

/-- A keyword alone, with a body that it owns. -/
def readUnnamed (ofBody : List Line → α) (header : Line) (below : List Line) : Reading α :=
  if Header.isUnnamed header.text then
    .ok (ofBody (block header.inner below), afterBlock header.inner below)
  else .error (.declaration header.keyword? header.text)

def readIntegrations : Line → List Line → Reading (List Text) :=
  readUnnamed (namesOf sectionName?)

def readDeploy : Line → List Line → Reading DeployConfig :=
  readUnnamed fun lines => .ofEntries (DeployEntry.read lines)

/-- A reading leaves at most the lines that were below the header. -/
def Reading.Shrinks (below : List Line) (reading : Reading α) : Prop :=
  ∀ value rest, reading = .ok (value, rest) → rest.length ≤ below.length

theorem Reading.Shrinks.map {below : List Line} {reading : Reading α}
    (shrinks : reading.Shrinks below) (f : α → β) :
    Reading.Shrinks below (reading.map (Prod.map f id)) := by
  intro value rest mapped
  match reading with
  | .error cause => simp [Except.map] at mapped
  | .ok (found, left) =>
    simp only [Except.map, Prod.map, id_eq, Except.ok.injEq, Prod.mk.injEq] at mapped
    exact mapped.2 ▸ shrinks found left rfl

theorem readOwner_shrinks (keyword : Text) (ofBody : Text → List Line → α) (header : Line)
    (below : List Line) : (readOwner keyword ofBody header below).Shrinks below := by
  intro value rest reading
  unfold readOwner at reading
  split at reading
  · simp only [Except.ok.injEq, Prod.mk.injEq] at reading
    exact reading.2 ▸ afterBlock_length_le _ _
  · simp at reading

theorem readNamed_shrinks (header : Line) (below : List Line) :
    (readNamed header below).Shrinks below := by
  intro value rest reading
  unfold readNamed at reading
  split at reading
  · simp only [Except.ok.injEq, Prod.mk.injEq] at reading
    exact reading.2 ▸ afterBlock_length_le _ _
  · simp at reading

theorem readInterface_shrinks (header : Line) (below : List Line) :
    (readInterface header below).Shrinks below := by
  intro value rest reading
  unfold readInterface at reading
  split at reading
  · simp only [Except.ok.injEq, Prod.mk.injEq] at reading
    exact reading.2 ▸ afterMembers_length_le _ _
  · simp at reading

theorem readComputed_shrinks (header : Line) (below : List Line) :
    (readComputed header below).Shrinks below := by
  intro value rest reading
  unfold readComputed at reading
  split at reading
  · simp at reading
  · dsimp only at reading
    split at reading
    · simp only [Except.ok.injEq, Prod.mk.injEq] at reading
      exact reading.2 ▸ afterLiteral_length_le _ _
    · split at reading
      · simp only [Except.ok.injEq, Prod.mk.injEq] at reading
        exact reading.2 ▸ afterMembers_length_le _ _
      · simp only [Except.ok.injEq, Prod.mk.injEq] at reading
        exact reading.2 ▸ Nat.le_refl _

theorem readUnnamed_shrinks (ofBody : List Line → α) (header : Line) (below : List Line) :
    (readUnnamed ofBody header below).Shrinks below := by
  intro value rest reading
  unfold readUnnamed at reading
  split at reading
  · simp only [Except.ok.injEq, Prod.mk.injEq] at reading
    exact reading.2 ▸ afterBlock_length_le _ _
  · simp at reading

/-- A declaration as it stands in the source. -/
inductive Declaration where
  | app (app : App)
  | data (block : DataBlock)
  | interface (block : InterfaceBlock)
  | computed (block : ComputedBlock)
  | logic (name : Text)
  | stateMachine (name : Text)
  | realtime (name : Text)
  | external (name : Text)
  | integrations (sections : List Text)
  | deploy (config : DeployConfig)

namespace Declaration

/-- Reads the construct of a known kind. -/
def read (kind : DeclarationKind) (header : Line) (below : List Line) : Reading Declaration :=
  match kind with
  | .app => (readApp header below).map (Prod.map app id)
  | .data => (readData header below).map (Prod.map data id)
  | .interface => (readInterface header below).map (Prod.map interface id)
  | .computed => (readComputed header below).map (Prod.map computed id)
  | .logic => (readLogic header below).map (Prod.map logic id)
  | .stateMachine => (readNamed header below).map (Prod.map stateMachine id)
  | .realtime => (readNamed header below).map (Prod.map realtime id)
  | .external => (readNamed header below).map (Prod.map external id)
  | .integrations => (readIntegrations header below).map (Prod.map integrations id)
  | .deploy => (readDeploy header below).map (Prod.map deploy id)

theorem read_shrinks (kind : DeclarationKind) (header : Line) (below : List Line) :
    (read kind header below).Shrinks below := by
  cases kind with
  | app => exact (readOwner_shrinks _ _ header below).map _
  | data => exact (readOwner_shrinks _ _ header below).map _
  | interface => exact (readInterface_shrinks header below).map _
  | computed => exact (readComputed_shrinks header below).map _
  | logic => exact (readOwner_shrinks _ _ header below).map _
  | stateMachine => exact (readNamed_shrinks header below).map _
  | realtime => exact (readNamed_shrinks header below).map _
  | external => exact (readNamed_shrinks header below).map _
  | integrations => exact (readUnnamed_shrinks _ header below).map _
  | deploy => exact (readUnnamed_shrinks _ header below).map _

/-- The kind and the name under which a declaration is listed. -/
def entry : Declaration → DeclarationKind × Text
  | app a => (.app, a.name)
  | data block => (.data, block.name)
  | interface block => (.interface, block.name)
  | computed block => (.computed, block.name)
  | logic name => (.logic, name)
  | stateMachine name => (.stateMachine, name)
  | realtime name => (.realtime, name)
  | external name => (.external, name)
  | integrations _ => (.integrations, DeclarationKind.integrations.keyword)
  | deploy _ => (.deploy, DeclarationKind.deploy.keyword)

def findings : Declaration → List Finding
  | data block =>
    (DataEntry.ignoredTexts block.entries).map fun text => .note (.ignoredFieldLine block.name text)
  | interface block => Node.allFindings block.body
  | computed block =>
    block.unknownFormats.map fun format => .note (.unknownFormat block.name format)
  | _ => []

end Declaration

end AppDescription
