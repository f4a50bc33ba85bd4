import Mathlib.Data.List.Forall2
import AppDescription.Proofs.Padding

namespace AppDescription

/-- A cut that goes by what paired entries share is made at the same pair. -/
theorem forall₂_cut {rel : α → β → Prop} {keep : α → Bool} {keep' : β → Bool}
    {list : List α} {list' : List β} (paired : List.Forall₂ rel list list')
    (agree : ∀ x y, rel x y → keep x = keep' y) :
    List.Forall₂ rel (list.takeWhile keep) (list'.takeWhile keep') ∧
      List.Forall₂ rel (list.dropWhile keep) (list'.dropWhile keep') := by
  induction paired with
  | nil => exact ⟨.nil, .nil⟩
  | @cons x y rest rest' related pairedRest ih =>
    have agreed := agree x y related
    cases kept : keep x with
    | true =>
      rw [kept] at agreed
      simp only [List.takeWhile_cons_of_pos kept, List.takeWhile_cons_of_pos agreed.symm,
        List.dropWhile_cons_of_pos kept, List.dropWhile_cons_of_pos agreed.symm]
      exact ⟨.cons related ih.1, ih.2⟩
    | false =>
      rw [kept] at agreed
      simp only [List.takeWhile_cons, List.dropWhile_cons, kept, ← agreed, Bool.false_eq_true,
        if_false]
      exact ⟨.nil, .cons related pairedRest⟩

theorem map_eq_of_forall₂ {rel : α → β → Prop} {f : α → γ} {g : β → γ}
    {list : List α} {list' : List β} (paired : List.Forall₂ rel list list')
    (agree : ∀ x y, rel x y → f x = g y) : list.map f = list'.map g := by
  induction paired with
  | nil => rfl
  | cons related _ ih => rw [List.map_cons, List.map_cons, agree _ _ related, ih]

/-- A literal does not depend on the numbers of its lines. -/
theorem literal_paired {same : Line → Line → Prop}
    (raw : ∀ {line line'}, same line line' → line.raw = line'.raw) {least : Nat}
    {lines lines' : List Line} (paired : List.Forall₂ same lines lines') :
    literalText least lines = literalText least lines' ∧
      List.Forall₂ same (afterLiteral least lines) (afterLiteral least lines') := by
  have blank {line line' : Line} (related : same line line') : line.isBlank = line'.isBlank := by
    simp only [Line.isBlank, Line.text, raw related]
  have indent {line line' : Line} (related : same line line') : line.indent = line'.indent := by
    simp only [Line.indent, raw related]
  have started := (forall₂_cut paired fun _ _ => blank).2
  rcases literal_cases least lines with ⟨first, rest, start, deep⟩ | shallow
  · rw [start] at started
    obtain ⟨first', rest', related, pairedRest, start'⟩ := List.forall₂_cons_left_iff.mp started
    have depth := indent related
    have deep' : least ≤ first'.indent := depth ▸ deep
    have stays (line line' : Line) (inside : same line line') :
        line.continues first.indent = line'.continues first'.indent := by
      simp only [Line.continues, blank inside, indent inside, depth]
    have piece (line line' : Line) (inside : same line line') :
        literalPiece first.indent line = literalPiece first'.indent line' := by
      simp only [literalPiece, blank inside, raw inside, depth]
    have content := forall₂_cut pairedRest stays
    rw [afterLiteral_of_deep start deep, afterLiteral_of_deep start' deep']
    simp only [literalText, literalLines?_of_deep start deep, literalLines?_of_deep start' deep']
    exact ⟨congrArg (fun texts => Text.trim (Text.join ['\n'] texts))
      (map_eq_of_forall₂ (.cons related content.1) piece), content.2⟩
  · have shallow' : ∀ first' rest', lines'.dropWhile Line.isBlank = first' :: rest' →
        first'.indent < least := by
      intro first' rest' start'
      rw [start'] at started
      obtain ⟨first, rest, related, _, start⟩ := List.forall₂_cons_right_iff.mp started
      exact indent related ▸ shallow first rest start
    rw [afterLiteral_of_shallow shallow, afterLiteral_of_shallow shallow']
    simp only [literalText, literalLines?_of_shallow shallow, literalLines?_of_shallow shallow']
    exact ⟨trivial, started⟩

theorem eq_nil_of_forall₂ {rel : α → β → Prop} {list : List β} (paired : List.Forall₂ rel [] list) :
    list = [] := by
  cases paired; rfl

/-- Lines are read alike whatever their numbers are. -/
theorem renumbered_corresponds {same : Line → Line → Prop}
    (raw : ∀ {line line'}, same line line' → line.raw = line'.raw) :
    Correspondence same (List.Forall₂ same) where
  text := by
    intro line line' related
    simp only [Line.text, raw related]
  margin := by
    intro line line' related
    simp only [Line.indent, raw related]
  ordered := by
    intro line line' related other other' relatedOther
    simp only [Line.indent, raw related, raw relatedOther]
  nil := .nil
  next := by
    intro lines lines' paired
    have hidden (line line' : Line) (related : same line line') :
        (!line.isSignificant) = !line'.isSignificant := by
      simp only [Line.isSignificant, Line.kind, Line.text, raw related]
    have front : List.Forall₂ same (significantOn lines) (significantOn lines') :=
      (forall₂_cut paired hidden).2
    cases next : significantOn lines with
    | nil =>
      rw [next] at front
      exact Or.inl ⟨rfl, eq_nil_of_forall₂ front⟩
    | cons line rest =>
      rw [next] at front
      obtain ⟨line', rest', related, pairedRest, next'⟩ := List.forall₂_cons_left_iff.mp front
      exact Or.inr ⟨line, line', rest, rest', rfl, next', related, pairedRest⟩
  block := by
    intro least least' lines lines' levels paired
    exact (forall₂_cut paired fun _ _ related => levels.within related (by
      simp only [Line.text, raw related])).1
  afterBlock := by
    intro least least' lines lines' levels paired
    exact (forall₂_cut paired fun _ _ related => levels.within related (by
      simp only [Line.text, raw related])).2
  literal := by
    intro line line' lines lines' related _ paired
    have inner : line'.inner = line.inner := by simp only [Line.inner, Line.indent, raw related]
    rw [inner]
    exact literal_paired raw paired

/-- What may lie in every block is never where one ends. -/
theorem filter_block (least : Nat) (lines : List Line) :
    (block least lines).filter Line.isSignificant =
        block least (lines.filter Line.isSignificant) ∧
      (afterBlock least lines).filter Line.isSignificant =
        afterBlock least (lines.filter Line.isSignificant) := by
  induction lines with
  | nil => exact ⟨rfl, rfl⟩
  | cons line lines ih =>
    unfold block afterBlock at ih ⊢
    by_cases significant : line.isSignificant
    · cases inside : line.within least with
      | true => simp [significant, inside, ih]
      | false => simp [significant, inside]
    · simp [significant, Line.within_of_not_significant significant, ih]

theorem filter_significantOn (lines : List Line) :
    (significantOn lines).filter Line.isSignificant = lines.filter Line.isSignificant :=
  (eq_significantOn (fun _ _ hidden => List.filter_cons_of_neg hidden) lines).symm

theorem significantOn_of_filter_eq_nil {lines : List Line}
    (none : lines.filter Line.isSignificant = []) : significantOn lines = [] := by
  cases next : significantOn lines with
  | nil => rfl
  | cons line rest =>
    have significant := (significantOn_cons next).1
    have same := filter_significantOn lines
    rw [next, none, List.filter_cons_of_pos significant] at same
    cases same

/-- Without literals only the significant lines are read. They may change as long as each keeps its
text, and its place among the others in the order of indentations. -/
theorem significant_corresponds {same : Line → Line → Prop}
    (text : ∀ {line line'}, same line line' → line.text = line'.text)
    (margin : ∀ {line line'}, same line line' → (line.indent = 0 ↔ line'.indent = 0))
    (ordered : ∀ {line line'}, same line line' → Levels same line.indent line'.indent)
    (plain : ∀ {line line'}, same line line' → ¬line.opensLiteral) :
    Correspondence same fun lines lines' =>
      List.Forall₂ same (lines.filter Line.isSignificant) (lines'.filter Line.isSignificant) where
  text := text
  margin := margin
  ordered := ordered
  nil := .nil
  next := by
    intro lines lines' paired
    cases next : significantOn lines with
    | nil =>
      have same := filter_significantOn lines
      rw [next] at same
      rw [← same] at paired
      exact Or.inl ⟨rfl, significantOn_of_filter_eq_nil (eq_nil_of_forall₂ paired)⟩
    | cons line rest =>
      have significant := (significantOn_cons next).1
      rw [← filter_significantOn lines, next, List.filter_cons_of_pos significant] at paired
      obtain ⟨line', rest', related, pairedRest, same'⟩ := List.forall₂_cons_left_iff.mp paired
      cases next' : significantOn lines' with
      | nil =>
        have same := filter_significantOn lines'
        rw [next', same'] at same
        cases same
      | cons first others =>
        have significant' := (significantOn_cons next').1
        rw [← filter_significantOn lines', next', List.filter_cons_of_pos significant'] at same'
        obtain ⟨rfl, rfl⟩ := List.cons.inj same'
        exact Or.inr ⟨line, first, rest, others, rfl, rfl, related, pairedRest⟩
  block := by
    intro least least' lines lines' levels paired
    rw [(filter_block least lines).1, (filter_block least' lines').1]
    exact (forall₂_cut paired fun _ _ related => levels.within related (text related)).1
  afterBlock := by
    intro least least' lines lines' levels paired
    rw [(filter_block least lines).2, (filter_block least' lines').2]
    exact (forall₂_cut paired fun _ _ related => levels.within related (text related)).2
  literal := by
    intro line line' lines lines' related opens _
    exact absurd opens (plain related)

instance (line : Line) : Decidable line.opensLiteral :=
  decidable_of_iff
    (line.kind = .literalMarker (line.kind.key?.getD []) ∨ line.indent = 0 ∧
      ((Header.named? "computed" line.text).any fun parts => Text.trim parts.2 = ['|']) = true) <| by
    unfold Line.opensLiteral
    cases line.kind <;> simp [LineKind.key?, Option.any_eq_true]

/-- No line of the source is the marker of a literal or announces one as a computed value. -/
def LiteralFree (source : Text) : Prop :=
  ∀ line ∈ Line.ofSource source, ¬line.opensLiteral

instance (source : Text) : Decidable (LiteralFree source) :=
  inferInstanceAs (Decidable (∀ line ∈ _, _))

theorem numberFrom_paired {rel : Text → Text → Prop} {raws raws' : List Text}
    (paired : List.Forall₂ rel raws raws') (first : Nat) :
    List.Forall₂ (fun line line' => line'.number = line.number ∧ rel line.raw line'.raw)
      (Line.numberFrom first raws) (Line.numberFrom first raws') := by
  induction paired generalizing first with
  | nil => exact .nil
  | cons related _ ih => exact .cons ⟨rfl, related⟩ (ih (first + 1))

end AppDescription
