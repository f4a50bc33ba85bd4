import Mathlib.Data.List.Forall2
import AppDescription.Proofs.FaultLine

namespace AppDescription

/-- Pairs of which one side decides what is kept of the other. -/
theorem forall₂_filterMap {rel : α → β → Prop} {rel' : α → γ → Prop} {keep : α → Bool}
    {pick : β → Option γ} {list : List α} {list' : List β} (paired : List.Forall₂ rel list list')
    (kept : ∀ x y, rel x y → keep x = true → ∃ z, pick y = some z ∧ rel' x z)
    (dropped : ∀ x y, rel x y → keep x = false → pick y = none) :
    List.Forall₂ rel' (list.filter keep) (list'.filterMap pick) := by
  induction paired with
  | nil => exact .nil
  | @cons x y _ _ first _ ih =>
    cases keeps : keep x with
    | true =>
      obtain ⟨z, picked, related⟩ := kept x y first keeps
      rw [List.filter_cons_of_pos keeps, List.filterMap_cons_some picked]
      exact .cons related ih
    | false =>
      rw [List.filter_cons_of_neg (by simp [keeps]), List.filterMap_cons_none (dropped x y first keeps)]
      exact ih

theorem exists_of_mem_forall₂ {rel : α → β → Prop} {list : List α} {list' : List β}
    (paired : List.Forall₂ rel list list') {x : α} (member : x ∈ list) : ∃ y ∈ list', rel x y := by
  induction paired with
  | nil => cases member
  | @cons a b _ _ first _ ih =>
    rcases List.mem_cons.mp member with rfl | later
    · exact ⟨b, List.mem_cons_self, first⟩
    · obtain ⟨y, among, related⟩ := ih later
      exact ⟨y, List.mem_cons_of_mem b among, related⟩

/-- Each line that starts a declaration, with all the lines below it. -/
def declarationPlaces : List Line → List (Line × List Line)
  | [] => []
  | line :: rest =>
    if line.declarationKind?.isSome then (line, rest) :: declarationPlaces rest
    else declarationPlaces rest

/-- Nothing is declared among what a header is deeper than. -/
theorem Passes.declarationPlaces_eq {header : Line} {lines rest : List Line}
    (passes : Passes header.inner lines rest) : declarationPlaces lines = declarationPlaces rest := by
  obtain ⟨passed, rfl, inside⟩ := passes
  induction passed with
  | nil => rfl
  | cons line passed ih =>
    obtain ⟨first, later⟩ := List.forall_mem_cons.mp inside
    have plain : ¬line.declarationKind?.isSome := by
      rw [Option.isSome_iff_exists]
      rintro ⟨kind, declares⟩
      have significant := Line.significant_of_declarationKind? declares
      have margin := (Line.declarationKind?_eq_some_iff.mp declares).1
      have deep := (Line.within_iff significant).mp first
      rw [Line.inner, margin] at deep
      omega
    rw [List.cons_append, declarationPlaces, if_neg plain, ih later]

/-- A declaration that is read without a fault from its header and the lines below. -/
structure ReadsAs (place : Line × List Line) (declaration : Declaration) : Prop where
  declares : place.1.declarationKind? = some declaration.entry.1
  reading : ∃ left, Declaration.read declaration.entry.1 place.1 place.2 = .ok (declaration, left)
  faultless : Finding.firstFault? declaration.findings = none

namespace ReadsAs

variable {place : Line × List Line} {declaration : Declaration} (reads : ReadsAs place declaration)

include reads

theorem margin : place.1.inner = 1 := by
  rw [Line.inner, (Line.declarationKind?_eq_some_iff.mp reads.declares).1]

theorem announces : place.1.Announces declaration.entry := by
  have run := (Line.declarationKind?_eq_some_iff.mp reads.declares).2
  obtain ⟨left, reading⟩ := reads.reading
  exact ⟨run, (Declaration.read_accepts run place.2).1.ok declaration left reading⟩

theorem interface {block : InterfaceBlock} (same : declaration = .interface block) :
    block.body = Node.read (members 1 place.2) ∧
      Node.fault? (Node.read (members 1 place.2)) = none := by
  subst same
  have margin := reads.margin
  have faultless := reads.faultless
  obtain ⟨left, reading⟩ := reads.reading
  rw [Declaration.fault?_of_read reading, Declaration.entry, Declaration.inside, margin] at faultless
  obtain ⟨⟨found, rest⟩, inner, same⟩ := Except.map_eq_ok_iff.mp reading
  cases same
  rw [readInterface_eq, margin] at inner
  obtain ⟨name, more, _, taken⟩ := readHeaded_eq_ok.mp inner
  cases taken
  exact ⟨rfl, faultless⟩

theorem data {block : DataBlock} (same : declaration = .data block) :
    block.entries = DataEntry.read (AppDescription.block 1 place.2) := by
  subst same
  have margin := reads.margin
  obtain ⟨left, reading⟩ := reads.reading
  obtain ⟨⟨found, rest⟩, inner, same⟩ := Except.map_eq_ok_iff.mp reading
  cases same
  rw [readData, readOwner_eq, margin] at inner
  obtain ⟨name, more, _, taken⟩ := readHeaded_eq_ok.mp inner
  cases taken
  rfl

end ReadsAs

/-- The declarations of a source are those that its lines start, each read from the lines below its
header. -/
theorem Outline.declarations_readsAs {lines : List Line} (faultless : (read lines).fault? = none) :
    List.Forall₂ ReadsAs (declarationPlaces lines) (read lines).declarations := by
  induction size : lines.length using Nat.strong_induction_on generalizing lines with
  | _ size ih =>
    cases lines with
    | nil => simp [declarationPlaces, declarations]
    | cons line rest =>
      rw [List.length_cons] at size
      by_cases significant : line.isSignificant
      · cases declares : line.declarationKind? with
        | none =>
          have passes := afterBlock_passes line.inner rest
          have shorter := passes.length_le
          rw [read_unknown significant declares] at faultless ⊢
          rw [declarationPlaces, if_neg (by simp [declares]), passes.declarationPlaces_eq]
          exact ih _ (by omega) faultless rfl
        | some kind =>
          cases reading : Declaration.read kind line rest with
          | error cause =>
            rw [read_malformed significant declares reading] at faultless
            simp at faultless
          | ok parts =>
            obtain ⟨declaration, below⟩ := parts
            have passes := Declaration.read_within line rest kind declaration below reading
            have shorter := passes.length_le
            have run := (Line.declarationKind?_eq_some_iff.mp declares).2
            obtain rfl := (Declaration.read_accepts run rest).2 declaration below reading
            rw [read_declared significant declares reading] at faultless ⊢
            rw [fault?_declared, Option.or_eq_none_iff] at faultless
            rw [declarationPlaces, if_pos (by simp [declares]), passes.declarationPlaces_eq]
            exact .cons ⟨declares, ⟨below, reading⟩, faultless.1⟩
              (ih below.length (by omega) faultless.2 rfl)
      · have plain : ¬line.declarationKind?.isSome := by
          rw [Option.isSome_iff_exists]
          exact fun ⟨kind, declares⟩ =>
            significant (Line.significant_of_declarationKind? declares)
        rw [read_insignificant significant] at faultless ⊢
        rw [declarationPlaces, if_neg plain]
        exact ih rest.length (by omega) faultless rfl

end AppDescription
