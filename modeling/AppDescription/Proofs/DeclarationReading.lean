import AppDescription.Proofs.Passage

namespace AppDescription

theorem Except.map_eq_ok_iff {ε α β : Type} {f : α → β} {x : Except ε α} {value : β} :
    x.map f = .ok value ↔ ∃ found, x = .ok found ∧ f found = value := by
  cases x <;> simp [Except.map]

theorem Except.map_eq_error_iff {ε α β : Type} {f : α → β} {x : Except ε α} {cause : ε} :
    x.map f = .error cause ↔ x = .error cause := by
  cases x <;> simp [Except.map]

theorem Except.bind_eq_ok_iff {ε α β : Type} {f : α → Except ε β} {x : Except ε α} {value : β} :
    x.bind f = .ok value ↔ ∃ found, x = .ok found ∧ f found = .ok value := by
  cases x <;> simp [Except.bind]

/-- A construct with its keyword and its name on the header line. What it stands for and what it
leaves may depend on the name and on the text after the colon. -/
def readHeaded (keyword : Text) (take : Text → Text → α × List Line) (header : Line) : Reading α :=
  match Header.named? keyword header.text with
  | some (name, more) => .ok (take name more)
  | none => .error (.declaration (some keyword) header.text)

/-- What a computed declaration with a well-formed header stands for, and what it leaves. -/
def computedBody (header : Line) (below : List Line) (name more : Text) :
    ComputedBlock × List Line :=
  if Text.trim more = ['|'] then
    (.inline name (literalText header.inner below), afterLiteral header.inner below)
  else if (Text.trim more).isEmpty then
    (.block name (ComputedEntry.read (members header.inner below)),
      afterMembers header.inner below)
  else (.inline name (Text.trim more), below)

section

variable {header : Line} {below rest : List Line}

theorem readHeaded_eq_ok {keyword : Text} {take : Text → Text → α × List Line} {value : α} :
    readHeaded keyword take header = .ok (value, rest) ↔
      ∃ name more, Header.named? keyword header.text = some (name, more) ∧
        take name more = (value, rest) := by
  unfold readHeaded
  cases Header.named? keyword header.text with
  | none => simp
  | some parts =>
    obtain ⟨name, more⟩ := parts
    simp only [Except.ok.injEq, Option.some.injEq, Prod.mk.injEq]
    constructor
    · exact fun taken => ⟨name, more, ⟨rfl, rfl⟩, taken⟩
    · rintro ⟨_, _, ⟨rfl, rfl⟩, taken⟩
      exact taken

theorem readOwner_eq (keyword : Text) (ofBody : Text → List Line → α) :
    readOwner keyword ofBody header below = readHeaded keyword
      (fun name _ => (ofBody name (block header.inner below), afterBlock header.inner below))
      header := by
  unfold readOwner readHeaded
  cases Header.named? keyword header.text <;> rfl

theorem readInterface_eq :
    readInterface header below = readHeaded "interface"
      (fun name _ => (⟨name, Node.read (members header.inner below)⟩,
        afterMembers header.inner below)) header := by
  unfold readInterface readHeaded
  cases Header.named? "interface" header.text <;> rfl

theorem readComputed_eq :
    readComputed header below = readHeaded "computed" (computedBody header below) header := by
  unfold readComputed readHeaded computedBody
  cases Header.named? "computed" header.text with
  | none => rfl
  | some parts =>
    dsimp only
    split
    · rfl
    · split <;> rfl

theorem readNamed_eq_ok {name : Text} :
    readNamed header below = .ok (name, rest) ↔
      Header.anyNamed? header.text = some name ∧ afterBlock header.inner below = rest := by
  unfold readNamed
  split
  · rename_i found
    simp [found]
  · rename_i missing
    simp [missing]

theorem readUnnamed_eq_ok {ofBody : List Line → α} {value : α} :
    readUnnamed ofBody header below = .ok (value, rest) ↔
      Header.isUnnamed header.text = true ∧ ofBody (block header.inner below) = value ∧
        afterBlock header.inner below = rest := by
  unfold readUnnamed
  split
  · rename_i bare
    simp [bare]
  · rename_i other
    simp [other]

end

/-- A reading goes over nothing but what may lie in a block at the level `least`. -/
def Reading.Within (least : Nat) (below : List Line) (reading : Reading α) : Prop :=
  ∀ value rest, reading = .ok (value, rest) → Passes least below rest

theorem Reading.Within.map {least : Nat} {below : List Line} {reading : Reading α}
    (within : reading.Within least below) (f : α → β) :
    Reading.Within least below (reading.map (Prod.map f id)) := by
  intro value rest mapped
  obtain ⟨⟨found, left⟩, read, same⟩ := Except.map_eq_ok_iff.mp mapped
  cases same
  exact within found left read

section

variable (header : Line) (below : List Line)

theorem readHeaded_within {keyword : Text} {take : Text → Text → α × List Line}
    (passes : ∀ name more, Passes header.inner below (take name more).2) :
    (readHeaded keyword take header).Within header.inner below := by
  intro value rest reading
  obtain ⟨name, more, _, taken⟩ := readHeaded_eq_ok.mp reading
  have left := passes name more
  rw [taken] at left
  exact left

theorem readOwner_within (keyword : Text) (ofBody : Text → List Line → α) :
    (readOwner keyword ofBody header below).Within header.inner below := by
  rw [readOwner_eq]
  exact readHeaded_within header below fun _ _ => afterBlock_passes _ _

theorem readInterface_within : (readInterface header below).Within header.inner below := by
  rw [readInterface_eq]
  exact readHeaded_within header below fun _ _ => afterMembers_passes _ _

theorem computedBody_passes (name more : Text) :
    Passes header.inner below (computedBody header below name more).2 := by
  unfold computedBody
  split
  · exact afterLiteral_passes _ _
  · split
    · exact afterMembers_passes _ _
    · exact .refl _ _

theorem readComputed_within : (readComputed header below).Within header.inner below := by
  rw [readComputed_eq]
  exact readHeaded_within header below (computedBody_passes header below)

theorem readNamed_within : (readNamed header below).Within header.inner below := by
  intro value rest reading
  obtain ⟨_, rfl⟩ := readNamed_eq_ok.mp reading
  exact afterBlock_passes _ _

theorem readUnnamed_within (ofBody : List Line → α) :
    (readUnnamed ofBody header below).Within header.inner below := by
  intro value rest reading
  obtain ⟨_, _, rfl⟩ := readUnnamed_eq_ok.mp reading
  exact afterBlock_passes _ _

/-- No declaration reaches past the block of everything deeper than its header. -/
theorem Declaration.read_within (kind : DeclarationKind) :
    (Declaration.read kind header below).Within header.inner below := by
  cases kind with
  | app => exact (readOwner_within header below _ _).map _
  | data => exact (readOwner_within header below _ _).map _
  | interface => exact (readInterface_within header below).map _
  | computed => exact (readComputed_within header below).map _
  | logic => exact (readOwner_within header below _ _).map _
  | stateMachine => exact (readNamed_within header below).map _
  | realtime => exact (readNamed_within header below).map _
  | external => exact (readNamed_within header below).map _
  | integrations => exact (readUnnamed_within header below _).map _
  | deploy => exact (readUnnamed_within header below _).map _

end

end AppDescription
