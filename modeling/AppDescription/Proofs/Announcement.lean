import AppDescription.Outline
import AppDescription.Proofs.DeclarationReading
import AppDescription.Proofs.HeaderForm

namespace AppDescription

/-- The keyword of a line is the word it starts with, whatever its kind. -/
theorem LineKind.keyword?_ofText (text : Text) :
    (ofText text).keyword? = (Text.word? text).map Prod.fst := by
  have hash : isWord '#' = false := by decide +kernel
  unfold ofText
  split
  · simp [keyword?, Text.word?, Text.wordRun]
  · simp [keyword?, Text.word?, Text.wordRun, hash]
  · split
    · rename_i missing
      simp [keyword?, missing]
    · rename_i word rest found
      rw [found]
      dsimp only
      split
      · rfl
      · split <;> rfl
    · rename_i word rest _ found
      rw [found]
      split <;> rfl

theorem LineKind.isSignificant_of_keyword? {kind : LineKind} {keyword : Text}
    (named : kind.keyword? = some keyword) : kind.isSignificant := by
  cases kind with
  | blank | comment => cases named
  | _ => rfl

theorem Line.keyword?_eq_some_iff {line : Line} {word : Text} :
    line.keyword? = some word ↔ Text.wordRun line.text = word ∧ word ≠ [] := by
  rw [keyword?, kind, LineKind.keyword?_ofText, Text.word?]
  split
  · rename_i empty
    have none : Text.wordRun line.text = [] := List.isEmpty_iff.mp empty
    rw [none]
    constructor
    · simp
    · rintro ⟨rfl, nonempty⟩
      exact absurd rfl nonempty
  · rename_i nonempty
    constructor
    · rintro found
      cases found
      exact ⟨rfl, fun empty => nonempty (List.isEmpty_iff.mpr empty)⟩
    · rintro ⟨rfl, _⟩
      rfl

namespace DeclarationKind

theorem keyword_ne_nil (kind : DeclarationKind) : kind.keyword ≠ [] := by
  cases kind <;> decide

theorem ofKeyword?_eq_some_iff {keyword : Text} {kind : DeclarationKind} :
    ofKeyword? keyword = some kind ↔ keyword = kind.keyword := by
  constructor
  · intro found
    have same := List.find?_some found
    exact (of_decide_eq_true same).symm
  · rintro rfl
    cases kind <;> decide

theorem keyword_injective {kind other : DeclarationKind} (same : kind.keyword = other.keyword) :
    kind = other := by
  have found := ofKeyword?_eq_some_iff.mpr same
  rw [ofKeyword?_eq_some_iff.mpr rfl] at found
  exact Option.some.inj found

/-- The form of a header that declares something of a kind under a name. The integrations and the
deployment of an app have no other name than their keyword. -/
def Headed (kind : DeclarationKind) (name text : Text) : Prop :=
  match kind with
  | .integrations | .deploy => name = kind.keyword ∧ Header.Bare kind.keyword text
  | _ => ∃ more, Header.Named kind.keyword name more text

end DeclarationKind

namespace Line

/-- Whether a line stands at the left margin and starts with the keyword of a declaration. -/
def declares (line : Line) : Bool :=
  line.isSignificant && line.indent == 0 &&
    DeclarationKind.all.any fun kind => Text.wordRun line.text = kind.keyword

theorem declarationKind?_eq_some_iff {line : Line} {kind : DeclarationKind} :
    line.declarationKind? = some kind ↔ line.indent = 0 ∧ Text.wordRun line.text = kind.keyword := by
  unfold declarationKind?
  split
  · rename_i margin
    simp only [margin, true_and, keyword?, Line.kind, LineKind.keyword?_ofText, Text.word?]
    split
    · rename_i empty
      have none : Text.wordRun line.text = [] := by simpa using empty
      simpa [none] using kind.keyword_ne_nil.symm
    · simp [DeclarationKind.ofKeyword?_eq_some_iff]
  · rename_i inside
    simp [inside]

theorem keyword?_of_declarationKind? {line : Line} {kind : DeclarationKind}
    (declares : line.declarationKind? = some kind) : line.keyword? = some kind.keyword :=
  keyword?_eq_some_iff.mpr ⟨(declarationKind?_eq_some_iff.mp declares).2, kind.keyword_ne_nil⟩

theorem significant_of_declarationKind? {line : Line} {kind : DeclarationKind}
    (declares : line.declarationKind? = some kind) : line.isSignificant :=
  LineKind.isSignificant_of_keyword? (keyword?_of_declarationKind? declares)

theorem declares_iff {line : Line} :
    line.declares ↔ line.isSignificant ∧ ∃ kind, line.declarationKind? = some kind := by
  have every (kind : DeclarationKind) : kind ∈ DeclarationKind.all := by cases kind <;> decide
  simp only [declares, Bool.and_eq_true, beq_iff_eq, List.any_eq_true, decide_eq_true_eq,
    declarationKind?_eq_some_iff]
  constructor
  · rintro ⟨⟨significant, margin⟩, kind, _, run⟩
    exact ⟨significant, kind, margin, run⟩
  · rintro ⟨significant, kind, margin, run⟩
    exact ⟨⟨significant, margin⟩, kind, every kind, run⟩

/-- What a line announces by the form of its header: a declaration of a kind under a name. -/
def Announces (line : Line) (entry : DeclarationKind × Text) : Prop :=
  Text.wordRun line.text = entry.1.keyword ∧ entry.1.Headed entry.2 line.text

theorem Announces.unique {line : Line} {entry other : DeclarationKind × Text}
    (first : line.Announces entry) (second : line.Announces other) : entry = other := by
  obtain ⟨kind, name⟩ := entry
  obtain ⟨kind', name'⟩ := other
  obtain ⟨run, form⟩ := first
  obtain ⟨run', form'⟩ := second
  cases DeclarationKind.keyword_injective (run.symm.trans run')
  have same : name = name' := by
    cases kind with
    | integrations | deploy => exact form.1.trans form'.1.symm
    | _ =>
      obtain ⟨_, named⟩ := form
      obtain ⟨_, named'⟩ := form'
      exact named.unique named'
  rw [same]

end Line

/-- A reading accepts the headers of a form, and the name it gives is the name in the form. -/
structure Reading.Accepts (reading : Reading α) (name : α → Text) (form : Text → Prop) : Prop where
  ok : ∀ value rest, reading = .ok (value, rest) → form (name value)
  error : ∀ cause, reading = .error cause → ∀ name, ¬form name

theorem Reading.Accepts.map {reading : Reading α} {name : α → Text} {form : Text → Prop}
    {declare : α → Declaration} {kind : DeclarationKind} (accepts : reading.Accepts name form)
    (entry : ∀ value, (declare value).entry = (kind, name value)) :
    Reading.Accepts (reading.map (Prod.map declare id)) (fun declaration => declaration.entry.2) form ∧
      ∀ declaration rest, reading.map (Prod.map declare id) = .ok (declaration, rest) →
        declaration.entry.1 = kind := by
  refine ⟨⟨?_, ?_⟩, ?_⟩
  · intro declaration rest read
    obtain ⟨⟨value, left⟩, reads, same⟩ := Except.map_eq_ok_iff.mp read
    cases same
    rw [entry value]
    exact accepts.ok value left reads
  · intro cause read
    cases reads : reading with
    | error found => exact accepts.error found reads
    | ok parts => simp [reads, Except.map] at read
  · intro declaration rest read
    obtain ⟨⟨value, left⟩, _, same⟩ := Except.map_eq_ok_iff.mp read
    cases same
    rw [entry value]

section

variable {header : Line} {below : List Line}

theorem readHeaded_accepts {keyword : Text} {take : Text → Text → α × List Line} {name : α → Text}
    (named : ∀ found more, name (take found more).1 = found) :
    (readHeaded keyword take header).Accepts name
      fun found => ∃ more, Header.Named keyword found more header.text := by
  constructor
  · intro value rest read
    obtain ⟨found, more, parts, taken⟩ := readHeaded_eq_ok.mp read
    have same := named found more
    rw [taken] at same
    exact ⟨more, same ▸ Header.named?_eq_some_iff.mp parts⟩
  · rintro cause read found ⟨more, form⟩
    rw [readHeaded, Header.named?_eq_some_iff.mpr form] at read
    simp at read

theorem readNamed_accepts {keyword : Text} (run : Text.wordRun header.text = keyword)
    (nonempty : keyword ≠ []) :
    (readNamed header below).Accepts id
      fun found => ∃ more, Header.Named keyword found more header.text := by
  constructor
  · intro value rest read
    have found := (readNamed_eq_ok.mp read).1
    rw [Header.anyNamed?_eq run nonempty] at found
    obtain ⟨⟨name, more⟩, parts, rfl⟩ := Option.map_eq_some_iff.mp found
    exact ⟨more, Header.named?_eq_some_iff.mp parts⟩
  · rintro cause read found ⟨more, form⟩
    rw [readNamed, Header.anyNamed?_eq run nonempty, Header.named?_eq_some_iff.mpr form] at read
    simp at read

theorem readUnnamed_accepts {keyword : Text} {ofBody : List Line → α}
    (run : Text.wordRun header.text = keyword) (nonempty : keyword ≠ []) :
    (readUnnamed ofBody header below).Accepts (fun _ => keyword)
      fun found => found = keyword ∧ Header.Bare keyword header.text := by
  have form := Header.isUnnamed_iff run nonempty fun _ => Text.getLast?_trim
  constructor
  · intro value rest read
    exact ⟨rfl, form.mp (readUnnamed_eq_ok.mp read).1⟩
  · rintro cause read found ⟨_, bare⟩
    rw [readUnnamed, if_pos (form.mpr bare)] at read
    simp at read

end

/-- A declaration is read if and only if its header has the form of its kind, and it is listed under
the name in its header. -/
theorem Declaration.read_accepts {kind : DeclarationKind} {header : Line}
    (run : Text.wordRun header.text = kind.keyword) (below : List Line) :
    (Declaration.read kind header below).Accepts (fun declaration => declaration.entry.2)
        (kind.Headed · header.text) ∧
      ∀ declaration rest, Declaration.read kind header below = .ok (declaration, rest) →
        declaration.entry.1 = kind := by
  have owner {α : Type} (keyword : Text) (ofBody : Text → List Line → α) (name : α → Text)
      (named : ∀ found lines, name (ofBody found lines) = found) :
      (readOwner keyword ofBody header below).Accepts name
        fun found => ∃ more, Header.Named keyword found more header.text := by
    rw [readOwner_eq]
    exact readHeaded_accepts fun found _ => named found _
  cases kind with
  | app => exact (owner _ _ App.name fun _ _ => rfl).map fun _ => rfl
  | data => exact (owner _ _ DataBlock.name fun _ _ => rfl).map fun _ => rfl
  | interface =>
    have accepts : (readInterface header below).Accepts InterfaceBlock.name
        fun found => ∃ more, Header.Named "interface" found more header.text := by
      rw [readInterface_eq]
      exact readHeaded_accepts fun _ _ => rfl
    exact accepts.map fun _ => rfl
  | computed =>
    have named (found more : Text) : (computedBody header below found more).1.name = found := by
      unfold computedBody
      split
      · rfl
      · split <;> rfl
    have accepts : (readComputed header below).Accepts ComputedBlock.name
        fun found => ∃ more, Header.Named "computed" found more header.text := by
      rw [readComputed_eq]
      exact readHeaded_accepts named
    exact accepts.map fun _ => rfl
  | logic => exact (owner _ _ id fun _ _ => rfl).map fun _ => rfl
  | stateMachine | realtime | external =>
    exact (readNamed_accepts run (DeclarationKind.keyword_ne_nil _)).map fun _ => rfl
  | integrations | deploy =>
    exact (readUnnamed_accepts run (DeclarationKind.keyword_ne_nil _)).map fun _ => rfl

end AppDescription
