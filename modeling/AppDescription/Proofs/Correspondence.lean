import AppDescription.Proofs.Passage

namespace AppDescription

/-- The lines from the first one on that is neither blank nor a comment. -/
def significantOn (lines : List Line) : List Line :=
  lines.dropWhile fun line => !line.isSignificant

/-- Two levels that the same lines reach. -/
def Levels (same : Line → Line → Prop) (least least' : Nat) : Prop :=
  ∀ line line', same line line' → (least ≤ line.indent ↔ least' ≤ line'.indent)

/-- A line with the same text lies in a block when the line it is paired with lies in the other. -/
theorem Levels.within {same : Line → Line → Prop} {least least' : Nat} {line line' : Line}
    (levels : Levels same least least') (paired : same line line') (text : line.text = line'.text) :
    line.within least = line'.within least' := by
  have reach := levels line line' paired
  simp only [Line.within, Line.isSignificant, Line.kind, text, decide_eq_decide.mpr reach]

/-- A line that may have a literal below it. Only at the left margin a `computed` line is a header. -/
def Line.opensLiteral (line : Line) : Prop :=
  (∃ key, line.kind = .literalMarker key) ∨
    line.indent = 0 ∧ ∃ name more,
      Header.named? "computed" line.text = some (name, more) ∧ Text.trim more = ['|']

/-- Which lines are the same and which lists of lines are alike for every reader. Such lists have
the same significant lines, and they are cut into blocks and literals at the same ones. -/
structure Correspondence (same : Line → Line → Prop) (alike : List Line → List Line → Prop) :
    Prop where
  text {line line'} : same line line' → line.text = line'.text
  margin {line line'} : same line line' → (line.indent = 0 ↔ line'.indent = 0)
  ordered {line line'} : same line line' → Levels same line.indent line'.indent
  nil : alike [] []
  next {lines lines'} : alike lines lines' →
    (significantOn lines = [] ∧ significantOn lines' = []) ∨
      ∃ line line' rest rest', significantOn lines = line :: rest ∧
        significantOn lines' = line' :: rest' ∧ same line line' ∧ alike rest rest'
  block {least least' lines lines'} : Levels same least least' → alike lines lines' →
    alike (block least lines) (block least' lines')
  afterBlock {least least' lines lines'} : Levels same least least' → alike lines lines' →
    alike (afterBlock least lines) (afterBlock least' lines')
  literal {line line' lines lines'} : same line line' → line.opensLiteral → alike lines lines' →
    literalText line.inner lines = literalText line'.inner lines' ∧
      alike (afterLiteral line.inner lines) (afterLiteral line'.inner lines')

theorem significantOn_cons {line : Line} {lines rest : List Line}
    (next : significantOn lines = line :: rest) : line.isSignificant ∧ rest.length < lines.length := by
  have shorter :=
    (List.dropWhile_suffix (l := lines) fun line : Line => !line.isSignificant).length_le
  have head := List.head?_dropWhile_not (fun line : Line => !line.isSignificant) lines
  unfold significantOn at next
  rw [next] at shorter head
  exact ⟨by simpa using head, shorter⟩

/-- A reader that passes over blank and comment lines starts at the first significant one. -/
theorem eq_significantOn {read : List Line → α}
    (skips : ∀ line rest, ¬line.isSignificant → read (line :: rest) = read rest)
    (lines : List Line) : read lines = read (significantOn lines) := by
  induction lines with
  | nil => rfl
  | cons line lines ih =>
    by_cases significant : line.isSignificant
    · simp [significantOn, significant]
    · rw [skips line lines significant, ih]
      simp [significantOn, significant]

namespace Correspondence

variable {same : Line → Line → Prop} {alike : List Line → List Line → Prop}
  (corresponds : Correspondence same alike) {line line' : Line} {lines lines' : List Line}

include corresponds

theorem kind (paired : same line line') : line.kind = line'.kind := by
  simp only [Line.kind, corresponds.text paired]

theorem significant (paired : same line line') : line.isSignificant = line'.isSignificant := by
  simp only [Line.isSignificant, corresponds.kind paired]

theorem inner (paired : same line line') : Levels same line.inner line'.inner := by
  intro other other' pairedOther
  have order := corresponds.ordered pairedOther line line' paired
  unfold Line.inner
  omega

theorem indent_eq {other other' : Line} (paired : same line line') (pairedOther : same other other') :
    line.indent = other.indent ↔ line'.indent = other'.indent := by
  have below := corresponds.ordered pairedOther line line' paired
  have above := corresponds.ordered paired other other' pairedOther
  omega

theorem baseline {least least' : Nat} (levels : Levels same least least')
    (matched : alike lines lines') :
    (baseline? least lines = none ∧ baseline? least' lines' = none) ∨
      ∃ base base', baseline? least lines = some base ∧ baseline? least' lines' = some base' ∧
        Levels same base base' := by
  have heads := corresponds.next matched
  unfold significantOn at heads
  unfold baseline? nextSignificant?
  rw [List.find?_eq_head?_dropWhile_not, List.find?_eq_head?_dropWhile_not]
  rcases heads with
    ⟨ended, ended'⟩ | ⟨line, line', rest, rest', next, next', paired, _⟩
  · rw [ended, ended']
    exact Or.inl ⟨rfl, rfl⟩
  · rw [next, next']
    have reach := levels line line' paired
    by_cases deep : least ≤ line.indent
    · right
      exact ⟨line.indent, line'.indent, if_pos deep, if_pos (reach.mp deep),
        corresponds.ordered paired⟩
    · exact Or.inl ⟨if_neg deep, if_neg (mt reach.mpr deep)⟩

theorem afterMembers {least least' : Nat} (levels : Levels same least least')
    (matched : alike lines lines') :
    alike (afterMembers least lines) (afterMembers least' lines') := by
  unfold AppDescription.afterMembers
  rcases corresponds.baseline levels matched with ⟨found, found'⟩ | ⟨_, _, found, found', bases⟩
  · rw [found, found']
    exact matched
  · rw [found, found']
    exact corresponds.afterBlock bases matched

theorem members {least least' : Nat} (levels : Levels same least least')
    (matched : alike lines lines') : alike (members least lines) (members least' lines') := by
  unfold AppDescription.members
  rcases corresponds.baseline levels matched with ⟨found, found'⟩ | ⟨_, _, found, found', bases⟩
  · rw [found, found']
    exact corresponds.nil
  · rw [found, found']
    exact corresponds.block bases matched

theorem elseBranch (paired : same line line') (matched : alike lines lines') :
    (elseBranch? line.indent lines = none ∧ elseBranch? line'.indent lines' = none) ∨
      ∃ elseLine elseLine' more more', elseBranch? line.indent lines = some (elseLine, more) ∧
        elseBranch? line'.indent lines' = some (elseLine', more') ∧ alike more more' := by
  have heads := corresponds.next matched
  unfold significantOn at heads
  unfold elseBranch?
  rcases heads with ⟨ended, ended'⟩ |
    ⟨elseLine, elseLine', more, more', next, next', pairedElse, matchedMore⟩
  · rw [ended, ended']
    exact Or.inl ⟨rfl, rfl⟩
  · rw [next, next']
    have level := corresponds.indent_eq pairedElse paired
    have spelled := corresponds.text pairedElse
    by_cases fits : elseLine.indent = line.indent ∧ Header.isElse elseLine.text
    · right
      refine ⟨elseLine, elseLine', more, more', if_pos fits, if_pos ?_, matchedMore⟩
      exact ⟨level.mp fits.1, spelled ▸ fits.2⟩
    · refine Or.inl ⟨if_neg fits, if_neg ?_⟩
      rintro ⟨at', else'⟩
      exact fits ⟨level.mpr at', spelled ▸ else'⟩

/-- What holds of two lists when it holds of their significant parts holds of lists that are alike,
by induction on what is left after a pair of the same lines. -/
theorem induction {motive : List Line → List Line → Prop}
    (skip : ∀ lines lines', motive (significantOn lines) (significantOn lines') → motive lines lines')
    (nil : motive [] [])
    (cons : ∀ line line' rest rest', same line line' → line.isSignificant → alike rest rest' →
      (∀ below below', alike below below' → below.length ≤ rest.length → motive below below') →
        motive (line :: rest) (line' :: rest'))
    (matched : alike lines lines') : motive lines lines' := by
  induction size : lines.length using Nat.strong_induction_on generalizing lines lines' with
  | _ size ih =>
    apply skip
    rcases corresponds.next matched with
      ⟨ended, ended'⟩ | ⟨line, line', rest, rest', next, next', paired, matchedRest⟩
    · rw [ended, ended']
      exact nil
    · rw [next, next']
      obtain ⟨significant, shorter⟩ := significantOn_cons next
      refine cons line line' rest rest' paired significant matchedRest ?_
      intro below below' matchedBelow size'
      exact ih below.length (by omega) matchedBelow rfl

end Correspondence

end AppDescription
