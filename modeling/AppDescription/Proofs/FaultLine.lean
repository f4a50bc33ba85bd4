import AppDescription.Proofs.Announcement
import AppDescription.Proofs.Parts

namespace AppDescription

/-- A malformed line is told by the element keyword it starts with. -/
theorem BodyRole.ofLine_malformed_cause {line : Line} {cause : HeaderFault}
    (role : ofLine line = .malformed cause) :
    Text.wordRun line.text ∈ elementWords ∧
      cause = .statement (Text.wordRun line.text) line.text := by
  obtain ⟨keyword, word, malformed⟩ := Option.bind_eq_some_iff.mp (ofLine_malformed role)
  rw [(Line.keyword?_eq_some_iff.mp word).1]
  exact ElementHeader.read?_eq_error malformed

/-- A reading whose header alone decides whether there is anything to read. What it leaves is given
by `leave`. -/
def Reading.FromHeader (leave : List Line → List Line) (reading : List Line → Reading α) : Prop :=
  (∃ cause, ∀ below, reading below = .error cause) ∨
    ∀ below, ∃ value, reading below = .ok (value, leave below)

theorem Reading.FromHeader.map {leave : List Line → List Line} {reading : List Line → Reading α}
    (decided : FromHeader leave reading) (f : α → β) :
    FromHeader leave fun below => Except.map (Prod.map f id) (reading below) := by
  rcases decided with ⟨cause, fails⟩ | reads
  · exact Or.inl ⟨cause, fun below => congrArg (Except.map (Prod.map f id)) (fails below)⟩
  · right
    intro below
    obtain ⟨value, same⟩ := reads below
    exact ⟨f value, congrArg (Except.map (Prod.map f id)) same⟩

section

variable (header : Line)

theorem readOwner_fromHeader (keyword : Text) (ofBody : Text → List Line → α) :
    Reading.FromHeader (afterBlock header.inner) (readOwner keyword ofBody header) := by
  unfold readOwner
  cases Header.named? keyword header.text with
  | none => exact Or.inl ⟨_, fun _ => rfl⟩
  | some parts => exact Or.inr fun _ => ⟨_, rfl⟩

theorem readInterface_fromHeader :
    Reading.FromHeader (afterMembers header.inner) (readInterface header) := by
  unfold readInterface
  cases Header.named? "interface" header.text with
  | none => exact Or.inl ⟨_, fun _ => rfl⟩
  | some parts => exact Or.inr fun _ => ⟨_, rfl⟩

theorem readNamed_fromHeader : Reading.FromHeader (afterBlock header.inner) (readNamed header) := by
  unfold readNamed
  cases Header.anyNamed? header.text with
  | none => exact Or.inl ⟨_, fun _ => rfl⟩
  | some name => exact Or.inr fun _ => ⟨_, rfl⟩

theorem readUnnamed_fromHeader (ofBody : List Line → α) :
    Reading.FromHeader (afterBlock header.inner) (readUnnamed ofBody header) := by
  unfold readUnnamed
  cases Header.isUnnamed header.text with
  | false => exact Or.inl ⟨_, fun _ => rfl⟩
  | true => exact Or.inr fun _ => ⟨_, rfl⟩

end

section

variable {header : Line} {below : List Line} {cause : HeaderFault}

theorem readHeaded_eq_error {keyword : Text} {take : Text → Text → α × List Line}
    (reading : readHeaded keyword take header = .error cause) :
    cause = .declaration (some keyword) header.text := by
  unfold readHeaded at reading
  split at reading <;> cases reading
  rfl

theorem readNamed_eq_error (reading : readNamed header below = .error cause) :
    cause = .declaration header.keyword? header.text := by
  unfold readNamed at reading
  split at reading <;> cases reading
  rfl

theorem readUnnamed_eq_error {ofBody : List Line → α}
    (reading : readUnnamed ofBody header below = .error cause) :
    cause = .declaration header.keyword? header.text := by
  unfold readUnnamed at reading
  split at reading <;> cases reading
  rfl

end

namespace Declaration

/-- What a declaration with a well-formed header leaves to others. -/
def leave (kind : DeclarationKind) (header : Line) (below : List Line) : List Line :=
  match kind with
  | .interface => afterMembers header.inner below
  | .computed =>
    match Header.named? "computed" header.text with
    | some (name, more) => (computedBody header below name more).2
    | none => below
  | _ => afterBlock header.inner below

theorem read_fromHeader (kind : DeclarationKind) (header : Line) :
    Reading.FromHeader (leave kind header) (read kind header) := by
  cases kind with
  | app => exact (readOwner_fromHeader header _ _).map _
  | data => exact (readOwner_fromHeader header _ _).map _
  | interface => exact (readInterface_fromHeader header).map _
  | computed =>
    have decided : Reading.FromHeader (leave .computed header) (readComputed header) := by
      unfold Reading.FromHeader
      simp only [readComputed_eq, readHeaded, leave]
      cases Header.named? "computed" header.text with
      | none => exact Or.inl ⟨_, fun _ => rfl⟩
      | some parts => exact Or.inr fun _ => ⟨_, rfl⟩
    exact decided.map _
  | logic => exact (readOwner_fromHeader header _ _).map _
  | stateMachine | realtime | external => exact (readNamed_fromHeader header).map _
  | integrations | deploy => exact (readUnnamed_fromHeader header _).map _

theorem leave_suffix (kind : DeclarationKind) (header : Line) (below : List Line) :
    leave kind header below <:+ below := by
  cases kind with
  | interface => exact afterMembers_suffix _ _
  | computed =>
    unfold leave
    dsimp only
    split
    · obtain ⟨passed, whole, _⟩ := computedBody_passes header below _ _
      exact ⟨passed, whole.symm⟩
    · exact List.suffix_refl below
  | _ => exact afterBlock_suffix _ _

/-- The lines of a declaration among which a header may be malformed. -/
def inside (kind : DeclarationKind) (header : Line) (below : List Line) : List Line :=
  match kind with
  | .interface => members header.inner below
  | _ => []

theorem fault?_of_read {kind : DeclarationKind} {header : Line} {below rest : List Line}
    {declaration : Declaration} (reading : read kind header below = .ok (declaration, rest)) :
    Finding.firstFault? declaration.findings =
      Node.fault? (Node.read (inside kind header below)) := by
  rw [Declaration.firstFault?_findings]
  cases kind <;> obtain ⟨⟨value, left⟩, inner, same⟩ := Except.map_eq_ok_iff.mp reading <;>
    cases same
  case interface =>
    rw [readInterface_eq] at inner
    obtain ⟨name, more, _, taken⟩ := readHeaded_eq_ok.mp inner
    cases taken
    rfl
  all_goals simp [inside]

/-- The fault of a header names its keyword and quotes its text. -/
theorem read_eq_error {kind : DeclarationKind} {header : Line} {below : List Line}
    {cause : HeaderFault} (declares : header.declarationKind? = some kind)
    (reading : read kind header below = .error cause) :
    cause = .declaration (some kind.keyword) header.text := by
  have word := Line.keyword?_of_declarationKind? declares
  cases kind <;> have failed := Except.map_eq_error_iff.mp reading
  case app | data | logic => exact readHeaded_eq_error ((readOwner_eq _ _).symm.trans failed)
  case interface => exact readHeaded_eq_error (readInterface_eq.symm.trans failed)
  case computed => exact readHeaded_eq_error (readComputed_eq.symm.trans failed)
  case stateMachine | realtime | external => exact word ▸ readNamed_eq_error failed
  case integrations | deploy => exact word ▸ readUnnamed_eq_error failed

end Declaration

/-- A malformed declaration stands at the left margin and a malformed element deeper. The cause names
the keyword that the line starts with, and quotes the line. -/
def Fault.NamesKeyword (fault : Fault) : Prop :=
  let word := Text.wordRun fault.line.text
  (fault.line.indent = 0 ∧ (∃ kind : DeclarationKind, word = kind.keyword) ∧
      fault.cause = .declaration (some word) fault.line.text) ∨
    (0 < fault.line.indent ∧ word ∈ elementWords ∧ fault.cause = .statement word fault.line.text)

/-- The fault of a declaration that is not read. -/
theorem Fault.namesKeyword_of_header {kind : DeclarationKind} {header : Line} {below : List Line}
    {cause : HeaderFault} (declares : header.declarationKind? = some kind)
    (reading : Declaration.read kind header below = .error cause) :
    NamesKeyword ⟨header, cause⟩ := by
  obtain ⟨margin, run⟩ := Line.declarationKind?_eq_some_iff.mp declares
  refine Or.inl ⟨margin, ⟨kind, run⟩, ?_⟩
  dsimp only
  rw [run]
  exact Declaration.read_eq_error declares reading

/-- What an interface holds is deeper than its header. -/
theorem Declaration.fault_inside {kind : DeclarationKind} {header : Line} {below : List Line}
    {fault : Fault} (found : Node.fault? (Node.read (inside kind header below)) = some fault) :
    fault.line ∈ below ∧ fault.line.isSignificant ∧ fault.NamesKeyword := by
  obtain ⟨member, role⟩ := Node.mem_of_fault? found
  have significant : fault.line.isSignificant := BodyRole.significant_of_ofLine (by simp [role])
  have spelled := BodyRole.ofLine_malformed_cause role
  cases kind <;> unfold inside at member
  case interface =>
    have deeper : header.inner ≤ fault.line.indent := le_indent_of_mem_members significant member
    have among : fault.line ∈ below := by
      rw [← members_append_afterMembers header.inner below]
      exact List.mem_append_left _ member
    exact ⟨among, significant, Or.inr ⟨Nat.lt_of_lt_of_le (Nat.succ_pos _) deeper, spelled⟩⟩
  all_goals simp at member

/-- The fault of an outline stands on one of its lines. -/
theorem Outline.mem_of_fault? {lines : List Line} {fault : Fault}
    (found : (read lines).fault? = some fault) :
    fault.line ∈ lines ∧ fault.line.isSignificant ∧ fault.NamesKeyword := by
  induction size : lines.length using Nat.strong_induction_on generalizing lines with
  | _ size ih =>
    cases lines with
    | nil => simp at found
    | cons line rest =>
      simp only [List.length_cons] at size
      have later {left : List Line} (suffix : left <:+ rest)
          (found : (read left).fault? = some fault) :
          fault.line ∈ line :: rest ∧ fault.line.isSignificant ∧ fault.NamesKeyword := by
        have shorter := suffix.length_le
        obtain ⟨member, told⟩ := ih left.length (by omega) found rfl
        exact ⟨List.mem_cons_of_mem _ (suffix.subset member), told⟩
      by_cases significant : line.isSignificant
      · cases declares : line.declarationKind? with
        | none =>
          rw [read_unknown significant declares, fault?_unknown] at found
          exact later (afterBlock_suffix _ _) found
        | some kind =>
          cases reading : Declaration.read kind line rest with
          | error cause =>
            rw [read_malformed significant declares reading, fault?_malformed] at found
            cases found
            exact ⟨List.mem_cons_self, significant, Fault.namesKeyword_of_header declares reading⟩
          | ok parts =>
            obtain ⟨declaration, left⟩ := parts
            rw [read_declared significant declares reading, fault?_declared,
              Declaration.fault?_of_read reading] at found
            rcases Option.or_eq_some_iff.mp found with inner | ⟨_, after⟩
            · obtain ⟨member, told⟩ := Declaration.fault_inside inner
              exact ⟨List.mem_cons_of_mem _ member, told⟩
            · obtain ⟨passed, whole, _⟩ := Declaration.read_within line rest kind declaration left reading
              exact later ⟨passed, whole.symm⟩ after
      · rw [read_insignificant significant] at found
        exact later (List.suffix_refl rest) found

end AppDescription
