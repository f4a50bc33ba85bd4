import Mathlib.Data.List.Forall2
import AppDescription.Proofs.Announcement
import AppDescription.Proofs.OutlineReading

namespace AppDescription

/-- The lines of a source that start a declaration at its left margin. -/
def declarationLines (source : Text) : List Line :=
  (Line.ofSource source).filter Line.declares

/-- An outline accounts for the declaration lines of a source, up to the first one whose header
announces nothing. -/
inductive Outline.Covers : Outline → List Line → Prop
  | nil : Covers [] []
  | unknown {line outline lines} : Covers outline lines → Covers (.unknown line :: outline) lines
  | declared {line declaration outline lines} : line.Announces declaration.entry →
      Covers outline lines → Covers (.declared line declaration :: outline) (line :: lines)
  | malformed {line cause lines} : (∀ entry, ¬line.Announces entry) →
      Covers [.malformed line cause] (line :: lines)

/-- What is passed below a header declares nothing. -/
theorem Passes.filter_declares {header : Line} {lines rest : List Line}
    (passes : Passes header.inner lines rest) :
    lines.filter Line.declares = rest.filter Line.declares := by
  obtain ⟨passed, rfl, inside⟩ := passes
  have none : passed.filter Line.declares = [] := by
    rw [List.filter_eq_nil_iff]
    intro line member declares
    obtain ⟨significant, kind, atMargin⟩ := Line.declares_iff.mp declares
    have margin := (Line.declarationKind?_eq_some_iff.mp atMargin).1
    have deep := (Line.within_iff significant).mp (inside line member)
    unfold Line.inner at deep
    omega
  rw [List.filter_append, none, List.nil_append]

theorem Outline.read_covers (lines : List Line) :
    Covers (read lines) (lines.filter Line.declares) := by
  induction size : lines.length using Nat.strong_induction_on generalizing lines with
  | _ size ih =>
    cases lines with
    | nil => simpa using Covers.nil
    | cons line rest =>
      simp only [List.length_cons] at size
      by_cases significant : line.isSignificant
      · cases declares : line.declarationKind? with
        | none =>
          have plain : ¬line.declares := by
            rw [Line.declares_iff]
            rintro ⟨_, kind, found⟩
            rw [declares] at found
            simp at found
          have passes := afterBlock_passes line.inner rest
          rw [read_unknown significant declares, List.filter_cons_of_neg plain,
            passes.filter_declares]
          exact .unknown (ih _ (by have := passes.length_le; omega) _ rfl)
        | some kind =>
          have run := (Line.declarationKind?_eq_some_iff.mp declares).2
          have starts : line.declares := Line.declares_iff.mpr ⟨significant, kind, declares⟩
          obtain ⟨accepts, kept⟩ := Declaration.read_accepts run rest
          rw [List.filter_cons_of_pos starts]
          cases reading : Declaration.read kind line rest with
          | error cause =>
            rw [read_malformed significant declares reading]
            refine .malformed ?_
            rintro ⟨other, name⟩ ⟨run', form⟩
            cases DeclarationKind.keyword_injective (run.symm.trans run')
            exact accepts.error cause reading name form
          | ok parts =>
            obtain ⟨declaration, below⟩ := parts
            have passes := Declaration.read_within _ _ kind _ _ reading
            rw [read_declared significant declares reading, passes.filter_declares]
            refine .declared ⟨?_, ?_⟩ (ih _ (by have := passes.length_le; omega) _ rfl)
            · rw [kept declaration below reading, run]
            · rw [kept declaration below reading]
              exact accepts.ok declaration below reading
      · have plain : ¬line.declares := fun starts => significant (Line.declares_iff.mp starts).1
        rw [read_insignificant significant, List.filter_cons_of_neg plain]
        exact ih _ (by omega) _ rfl

theorem Outline.Covers.announced {outline : Outline} {lines : List Line}
    (covers : outline.Covers lines) (faultless : outline.fault? = none) :
    List.Forall₂ Line.Announces lines (outline.declarations.map Declaration.entry) := by
  induction covers with
  | nil => exact .nil
  | unknown _ ih => exact ih faultless
  | declared announces _ ih =>
    rw [fault?_declared, Option.or_eq_none_iff] at faultless
    exact .cons announces (ih faultless.2)
  | malformed => simp at faultless

/-- Without interfaces a fault stands on the first declaration line that announces nothing. -/
theorem Outline.Covers.fault_cases {outline : Outline} {lines : List Line}
    (covers : outline.Covers lines)
    (plain : ∀ line ∈ lines, Text.wordRun line.text ≠ DeclarationKind.interface.keyword) :
    (outline.fault? = none ∧ ∀ line ∈ lines, ∃ entry, line.Announces entry) ∨
      ∃ fault before after, outline.fault? = some fault ∧ lines = before ++ fault.line :: after ∧
        (∀ line ∈ before, ∃ entry, line.Announces entry) ∧
        ∀ entry, ¬fault.line.Announces entry := by
  induction covers with
  | nil => exact Or.inl ⟨rfl, by simp⟩
  | unknown _ ih => exact ih plain
  | @declared line declaration outline lines announces _ ih =>
    have silent : Finding.firstFault? declaration.findings = none := by
      rw [Declaration.firstFault?_findings]
      cases declaration with
      | interface block => exact absurd announces.1 (plain line List.mem_cons_self)
      | _ => rfl
    rcases ih fun other member => plain other (List.mem_cons_of_mem line member) with
      ⟨faultless, all⟩ | ⟨fault, before, after, found, same, all, bad⟩
    · refine Or.inl ⟨by rw [fault?_declared, silent, faultless]; rfl, ?_⟩
      intro other member
      rcases List.mem_cons.mp member with rfl | later
      · exact ⟨_, announces⟩
      · exact all other later
    · refine Or.inr ⟨fault, line :: before, after, by rw [fault?_declared, silent, found]; rfl,
        by rw [same]; rfl, ?_, bad⟩
      intro other member
      rcases List.mem_cons.mp member with rfl | later
      · exact ⟨_, announces⟩
      · exact all other later
  | @malformed line cause lines silent =>
    exact Or.inr ⟨⟨line, cause⟩, [], lines, rfl, rfl, by simp, silent⟩

theorem ComputedBlock.computed_name (block : ComputedBlock) : block.computed.name = block.name := by
  cases block <;> rfl

namespace Document

/-- The names listed under a kind, in source order. -/
def names (document : Document) (kind : DeclarationKind) : List Text :=
  (document.order.filter fun entry => entry.1 = kind).map Prod.snd

/-- The sections of a document hold what its order lists, and nothing else. -/
structure Agrees (document : Document) : Prop where
  app : document.app.map App.name = (document.names .app).getLast?
  data : document.data.map DataModel.name = document.names .data
  interfaces : document.interfaces.map Interface.name = document.names .interface
  computed : document.computed.map ComputedValue.name = document.names .computed
  logic : document.logic = document.names .logic
  stateMachines : document.stateMachines = document.names .stateMachine
  realtime : document.realtime = document.names .realtime
  external : document.external = document.names .external
  integrations : document.integrations.isSome ↔ document.names .integrations ≠ []
  deploy : document.deploy.isSome ↔ document.names .deploy ≠ []

/-- A section that picks the declarations of one kind has their names. -/
theorem map_filterMap_names {pick : Declaration → Option α} {name : α → Text}
    {kind : DeclarationKind} (picks : ∀ declaration, (pick declaration).map name =
      if declaration.entry.1 = kind then some declaration.entry.2 else none)
    (declarations : List Declaration) :
    (declarations.filterMap pick).map name = (ofDeclarations declarations).names kind := by
  unfold names ofDeclarations
  dsimp only
  induction declarations with
  | nil => rfl
  | cons declaration declarations ih =>
    have picked := picks declaration
    by_cases fits : declaration.entry.1 = kind
    · rw [if_pos fits] at picked
      obtain ⟨value, found, same⟩ := Option.map_eq_some_iff.mp picked
      simp [found, same, fits, ih]
    · rw [if_neg fits, Option.map_eq_none_iff] at picked
      simp [picked, fits, ih]

/-- Of a section that keeps its last declaration only, the name is the last one listed. -/
theorem map_getLast?_names {pick : Declaration → Option α} {name : α → Text}
    {kind : DeclarationKind} (picks : ∀ declaration, (pick declaration).map name =
      if declaration.entry.1 = kind then some declaration.entry.2 else none)
    (declarations : List Declaration) :
    (declarations.filterMap pick).getLast?.map name =
      ((ofDeclarations declarations).names kind).getLast? := by
  rw [← map_filterMap_names picks, List.getLast?_map]

theorem getLast?_isSome_iff {pick : Declaration → Option α} {kind : DeclarationKind}
    (picks : ∀ declaration, (pick declaration).map (fun _ => kind.keyword) =
      if declaration.entry.1 = kind then some declaration.entry.2 else none)
    (declarations : List Declaration) :
    (declarations.filterMap pick).getLast?.isSome ↔ (ofDeclarations declarations).names kind ≠ [] := by
  rw [← map_filterMap_names picks, ne_eq, List.map_eq_nil_iff, List.getLast?_isSome]

theorem ofDeclarations_agrees (declarations : List Declaration) :
    (ofDeclarations declarations).Agrees where
  app := map_getLast?_names (fun declaration => by cases declaration <;> rfl) _
  data := map_filterMap_names (fun declaration => by cases declaration <;> rfl) _
  interfaces := map_filterMap_names (fun declaration => by cases declaration <;> rfl) _
  computed := map_filterMap_names (fun declaration => by
    cases declaration with
    | computed block => exact congrArg some block.computed_name
    | _ => rfl) _
  logic := (List.map_id _).symm.trans
    (map_filterMap_names (fun declaration => by cases declaration <;> rfl) _)
  stateMachines := (List.map_id _).symm.trans
    (map_filterMap_names (fun declaration => by cases declaration <;> rfl) _)
  realtime := (List.map_id _).symm.trans
    (map_filterMap_names (fun declaration => by cases declaration <;> rfl) _)
  external := (List.map_id _).symm.trans
    (map_filterMap_names (fun declaration => by cases declaration <;> rfl) _)
  integrations := getLast?_isSome_iff (fun declaration => by cases declaration <;> rfl) _
  deploy := getLast?_isSome_iff (fun declaration => by cases declaration <;> rfl) _

end Document

/-- The top of a source is read exactly. Every line at the left margin that starts with the keyword
of a declaration is the header of one, in order, and nothing else is; where no interface may hold a
malformed line of its own, the source is read if and only if each of those lines has the form of its
kind, and the first one that has not is the fault. -/
theorem Document.parse_declarations (source : Text) :
    (∀ document, Document.parse source = .ok document →
      (∀ order, List.Forall₂ Line.Announces (declarationLines source) order ↔
        order = document.order) ∧ document.Agrees) ∧
    ((∀ line ∈ declarationLines source,
        Text.wordRun line.text ≠ DeclarationKind.interface.keyword) →
      ((∃ document, Document.parse source = .ok document) ↔
        ∀ line ∈ declarationLines source, ∃ entry, line.Announces entry) ∧
      ∀ fault, Document.parse source = .error fault →
        ∃ before after, declarationLines source = before ++ fault.line :: after ∧
          (∀ line ∈ before, ∃ entry, line.Announces entry) ∧
            ∀ entry, ¬fault.line.Announces entry) := by
  have covers : (Outline.ofSource source).Covers (declarationLines source) := Outline.read_covers _
  constructor
  · intro document parsed
    obtain ⟨faultless, rfl⟩ := Document.parse_eq_ok.mp parsed
    have announced := covers.announced faultless
    have single : Relator.RightUnique Line.Announces := fun _ _ _ => Line.Announces.unique
    refine ⟨fun order => ⟨fun other => ?_, ?_⟩, Document.ofDeclarations_agrees _⟩
    · exact List.right_unique_forall₂' single other announced
    · rintro rfl
      exact announced
  · intro plain
    simp only [Document.parse_eq_ok, Document.parse_eq_error, exists_and_left, exists_eq', and_true]
    rcases covers.fault_cases plain with
      ⟨faultless, all⟩ | ⟨fault, before, after, found, same, all, bad⟩
    · rw [faultless]
      exact ⟨iff_of_true rfl all, by simp⟩
    · rw [found]
      refine ⟨iff_of_false (by simp) ?_, ?_⟩
      · intro every
        obtain ⟨entry, announces⟩ := every fault.line (by rw [same]; simp)
        exact bad entry announces
      · rintro _ ⟨⟩
        exact ⟨before, after, same, all, bad⟩

end AppDescription
