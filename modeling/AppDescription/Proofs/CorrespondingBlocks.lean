import AppDescription.Proofs.Correspondence

namespace AppDescription

theorem namesOf_insignificant (name? : LineKind → Option Text) (line : Line) (rest : List Line)
    (hidden : ¬line.isSignificant) : namesOf name? (line :: rest) = namesOf name? rest := by
  rw [namesOf, if_neg hidden]

theorem DataEntry.read_insignificant (line : Line) (rest : List Line)
    (hidden : ¬line.isSignificant) : read (line :: rest) = read rest := by
  rw [read, if_neg hidden]

theorem DeployEntry.read_insignificant (line : Line) (rest : List Line)
    (hidden : ¬line.isSignificant) : read (line :: rest) = read rest := by
  rw [read, if_neg hidden]

theorem ComputedEntry.read_insignificant (line : Line) (rest : List Line)
    (hidden : ¬line.isSignificant) : read (line :: rest) = read rest := by
  rw [read]
  cases kind : line.kind with
  | blank | comment => rfl
  | _ => simp [Line.isSignificant, kind, LineKind.isSignificant] at hidden

theorem significantTexts_insignificant (line : Line) (rest : List Line)
    (hidden : ¬line.isSignificant) : significantTexts (line :: rest) = significantTexts rest := by
  simp [significantTexts, hidden]

theorem App.valuesOf_insignificant (key : Text) (line : Line) (rest : List Line)
    (hidden : ¬line.isSignificant) : valuesOf key (line :: rest) = valuesOf key rest := by
  cases kind : line.kind with
  | blank | comment => simp [valuesOf, kind]
  | _ => simp [Line.isSignificant, kind, LineKind.isSignificant] at hidden

namespace Correspondence

variable {same : Line → Line → Prop} {alike : List Line → List Line → Prop}
  (corresponds : Correspondence same alike) {lines lines' : List Line}

include corresponds

/-- Two alike lists give one result to a reader that passes over blank and comment lines, when they
do so from a pair of the same lines on. -/
theorem read_eq {read : List Line → α}
    (skips : ∀ line rest, ¬line.isSignificant → read (line :: rest) = read rest)
    (cons : ∀ line line' rest rest', same line line' → line.isSignificant → alike rest rest' →
      (∀ below below', alike below below' → below.length ≤ rest.length → read below = read below') →
        read (line :: rest) = read (line' :: rest'))
    (matched : alike lines lines') : read lines = read lines' := by
  refine corresponds.induction (motive := fun lines lines' => read lines = read lines')
    ?_ rfl cons matched
  intro lines lines' equal
  rw [eq_significantOn skips lines, eq_significantOn skips lines', equal]

theorem significantTexts_eq (matched : alike lines lines') :
    significantTexts lines = significantTexts lines' := by
  refine corresponds.read_eq significantTexts_insignificant ?_ matched
  intro line line' rest rest' paired significant matchedRest ih
  have significant' := significant
  rw [corresponds.significant paired] at significant'
  have tail := ih rest rest' matchedRest le_rfl
  unfold significantTexts at tail ⊢
  rw [List.filter_cons_of_pos significant, List.filter_cons_of_pos significant', List.map_cons,
    List.map_cons, tail, corresponds.text paired]

theorem valuesOf_eq (key : Text) (matched : alike lines lines') :
    App.valuesOf key lines = App.valuesOf key lines' := by
  refine corresponds.read_eq (App.valuesOf_insignificant key) ?_ matched
  intro line line' rest rest' paired _ matchedRest ih
  have tail := ih rest rest' matchedRest le_rfl
  unfold App.valuesOf at tail ⊢
  rw [List.filterMap_cons, List.filterMap_cons, tail, corresponds.kind paired]

theorem app_eq (name : Text) (matched : alike lines lines') :
    App.ofLines name lines = App.ofLines name lines' := by
  simp only [App.ofLines, corresponds.valuesOf_eq _ matched]

theorem namesOf_eq (name? : LineKind → Option Text) (matched : alike lines lines') :
    namesOf name? lines = namesOf name? lines' := by
  refine corresponds.read_eq (namesOf_insignificant name?) ?_ matched
  intro line line' rest rest' paired significant matchedRest ih
  have significant' := significant
  rw [corresponds.significant paired] at significant'
  have after := corresponds.afterBlock (corresponds.inner paired) matchedRest
  rw [namesOf, namesOf, if_pos significant, if_pos significant', corresponds.kind paired,
    ih _ _ after (afterBlock_length_le _ _)]

theorem fields_eq (matched : alike lines lines') : DataEntry.read lines = DataEntry.read lines' := by
  refine corresponds.read_eq DataEntry.read_insignificant ?_ matched
  intro line line' rest rest' paired significant matchedRest ih
  have significant' := significant
  rw [corresponds.significant paired] at significant'
  have levels := corresponds.inner paired
  have owned := corresponds.significantTexts_eq (corresponds.block levels matchedRest)
  have after := corresponds.afterBlock levels matchedRest
  rw [DataEntry.read, DataEntry.read, if_pos significant, if_pos significant', owned,
    ih _ _ after (afterBlock_length_le _ _), ih _ _ matchedRest le_rfl]
  simp only [DataEntry.field?, corresponds.text paired]

theorem deployment_eq (matched : alike lines lines') :
    DeployEntry.read lines = DeployEntry.read lines' := by
  refine corresponds.read_eq DeployEntry.read_insignificant ?_ matched
  intro line line' rest rest' paired significant matchedRest ih
  have significant' := significant
  rw [corresponds.significant paired] at significant'
  have levels := corresponds.inner paired
  have owned := corresponds.namesOf_eq LineKind.key? (corresponds.block levels matchedRest)
  have after := corresponds.afterBlock levels matchedRest
  rw [DeployEntry.read, DeployEntry.read, if_pos significant, if_pos significant', owned,
    ih _ _ after (afterBlock_length_le _ _), ih _ _ matchedRest le_rfl, corresponds.kind paired]

theorem settings_eq (matched : alike lines lines') :
    ComputedEntry.read lines = ComputedEntry.read lines' := by
  refine corresponds.read_eq ComputedEntry.read_insignificant ?_ matched
  intro line line' rest rest' paired _ matchedRest ih
  have tail := ih rest rest' matchedRest le_rfl
  rw [ComputedEntry.read, ComputedEntry.read, ← corresponds.kind paired, tail]
  cases kind : line.kind with
  | literalMarker key =>
    obtain ⟨content, after⟩ := corresponds.literal paired (Or.inl ⟨key, kind⟩) matchedRest
    have below := ih _ _ after (afterLiteral_length_le _ _)
    simp only [content, below]
  | _ => rfl

end Correspondence

end AppDescription
