import AppDescription.Proofs.FaultLine
import AppDescription.Proofs.Standing

namespace AppDescription

/-- A fault that is found above what follows, so that it is found whatever follows, or else one that
is only ever found on a line of what follows. -/
def Settled (found : List Line → Option Fault) : Prop :=
  (∃ fault, ∀ tail, found tail = some fault) ∨ ∀ tail, ∀ fault ∈ found tail, fault.line ∈ tail

namespace Settled

variable {found later : List Line → Option Fault}

theorem const (fault? : Option Fault) : Settled fun _ => fault? := by
  cases fault? with
  | none => exact Or.inr fun _ _ none => by cases none
  | some fault => exact Or.inl ⟨fault, fun _ => rfl⟩

/-- What is found first is found whatever follows. -/
theorem after (first : Option Fault) (settled : Settled found) :
    Settled fun tail => first.or (found tail) := by
  cases first with
  | none => simpa using settled
  | some fault => exact Or.inl ⟨fault, fun _ => rfl⟩

theorem before (settled : Settled found)
    (inTail : ∀ tail, ∀ fault ∈ later tail, fault.line ∈ tail) :
    Settled fun tail => (found tail).or (later tail) := by
  rcases settled with ⟨fault, always⟩ | never
  · exact Or.inl ⟨fault, fun tail => by simp only [always tail, Option.some_or]⟩
  · right
    intro tail fault which
    rcases Option.or_eq_some_iff.mp which with early | ⟨_, late⟩
    · exact never tail fault early
    · exact inTail tail fault late

theorem cut (settled : Settled found) {take : List Line → List Line} (part : ∀ tail, take tail ⊆ tail) :
    Settled fun tail => found (take tail) := by
  rcases settled with ⟨fault, always⟩ | never
  · exact Or.inl ⟨fault, fun tail => always (take tail)⟩
  · exact Or.inr fun tail fault which => part tail (never (take tail) fault which)

end Settled

section

variable {last : Line} {above : List Line}

/-- The lines that are left start above a line, wherever they start, or they are lines below it.
What follows the line has no say in that. -/
def LeftAt (last : Line) (above : List Line) (left : List Line → List Line) : Prop :=
  (∃ above', above'.length ≤ above.length ∧
      ∀ tail, left (above ++ last :: tail) = above' ++ last :: tail) ∨
    ∀ tail, (left (above ++ last :: tail)).Sublist tail

theorem afterBlock_leftAt (significant : last.isSignificant) (above : List Line) (least : Nat) :
    LeftAt last above (afterBlock least) := by
  rcases block_cases significant above least with ⟨_, above', shorter, cut⟩ | ⟨_, cut⟩
  · exact Or.inl ⟨above', shorter, fun tail => (cut tail).2⟩
  · exact Or.inr fun tail => (cut tail).2 ▸ (afterBlock_suffix _ _).sublist

theorem afterMembers_leftAt (significant : last.isSignificant) (above : List Line) (least : Nat) :
    LeftAt last above (afterMembers least) := by
  rcases members_cases significant above least with ⟨_, above', shorter, cut⟩ | ⟨_, _, _, cut⟩
  · exact Or.inl ⟨above', shorter, fun tail => (cut tail).2⟩
  · exact Or.inr fun tail => (cut tail).2 ▸ (afterBlock_suffix _ _).sublist

theorem afterLiteral_leftAt (significant : last.isSignificant) (above : List Line) (least : Nat) :
    LeftAt last above (afterLiteral least) := by
  rcases literal_standing significant above least with ⟨_, above', shorter, cut⟩ | ⟨_, cut⟩
  · exact Or.inl ⟨above', shorter, fun tail => (cut tail).2⟩
  · exact Or.inr fun tail => cut tail ▸ (List.dropWhile_suffix _).sublist

/-- A reader that finds faults on the lines it reads is settled on what is left when it is settled
on all that starts no further up. -/
theorem LeftAt.settled {left : List Line → List Line} (cut : LeftAt last above left)
    {find : List Line → Option Fault} (mem : ∀ lines, ∀ fault ∈ find lines, fault.line ∈ lines)
    (ih : ∀ above' : List Line, above'.length ≤ above.length →
      Settled fun tail => find (above' ++ last :: tail)) :
    Settled fun tail => find (left (above ++ last :: tail)) := by
  rcases cut with ⟨above', shorter, cut⟩ | cut
  · simp only [cut]
    exact ih above' shorter
  · exact Or.inr fun tail fault found => (cut tail).subset (mem _ fault found)

end

namespace Node

theorem line_mem (lines : List Line) : ∀ fault ∈ fault? (read lines), fault.line ∈ lines :=
  fun _ found => (mem_of_fault? found).1

theorem mem_of_parts {parts : List (List Line)} {lines : List Line}
    (inside : parts.flatten.Sublist lines) :
    ∀ fault ∈ parts.findSome? fun part => fault? (read part), fault.line ∈ lines := by
  intro fault found
  obtain ⟨part, among, found⟩ := List.exists_of_findSome?_eq_some found
  exact ((List.sublist_flatten_of_mem among).trans inside).subset (line_mem _ fault found)

theorem settled_parts {last : Line} (significant : last.isSignificant) {above : List Line}
    (ih : ∀ above' : List Line, above'.length ≤ above.length →
      Settled fun tail => fault? (read (above' ++ last :: tail)))
    (header : ElementHeader) (line : Line) :
    Settled fun tail => (header.parts line (above ++ last :: tail)).findSome? fun part =>
      fault? (read part) := by
  have inBlock {above' : List Line} (shorter : above'.length ≤ above.length) (base : Nat) :
      Settled fun tail => fault? (read (above' ++ last :: block base tail)) :=
    (ih above' shorter).cut fun tail => List.takeWhile_subset _
  cases standing significant header line above with
  | after node above' shorter standing =>
    simp only [← fault?_ofHeader, standing]
    exact (ih above' shorter).after _
  | body base _ standing =>
    simp only [ElementHeader.parts, standing, findSome?_cons_eq_or]
    exact (inBlock le_rfl base).before fun tail => mem_of_parts <|
      (header.further_flatten line _).trans (afterBlock_suffix base tail).sublist
  | elseLine word condition body opens standing =>
    -- an `else` has no fault of its own, so that only the body above it is sure
    have split (tail : List Line) := findSome?_cons_eq_or (fun part => fault? (read part)) body
      [members line.inner tail, afterMembers line.inner tail]
    simp only [ElementHeader.parts, opens, ElementHeader.further, standing, split]
    exact (Settled.const _).before fun tail => mem_of_parts <| by
      simp [members_append_afterMembers]
  | otherwise word condition body elseLine above' base opens shorter _ standing =>
    simp only [ElementHeader.parts, opens, ElementHeader.further, standing, findSome?_cons_eq_or,
      List.findSome?_nil, Option.or_none]
    refine ((inBlock shorter.le base).before fun tail fault found => ?_).after _
    exact (afterBlock_suffix base tail).subset (line_mem _ fault found)

/-- The first line of a body is malformed whatever follows it, or it never is. -/
theorem settled_first (last : Line) : Settled fun tail => fault? (read (last :: tail)) := by
  cases role : BodyRole.ofLine last with
  | malformed cause =>
    exact Or.inl ⟨⟨last, cause⟩, fun tail => by simp only [fault?_read_cons, role]⟩
  | _ =>
    right
    intro tail fault found
    obtain ⟨member, malformed⟩ := mem_of_fault? found
    rcases List.mem_cons.mp member with own | among
    · rw [own, role] at malformed
      cases malformed
    · exact among

/-- Whether the fault of a body stands at or above a line does not depend on what follows the
line. -/
theorem settled {last : Line} (significant : last.isSignificant) (above : List Line) :
    Settled fun tail => fault? (read (above ++ last :: tail)) := by
  induction size : above.length using Nat.strong_induction_on generalizing above with
  | _ size ih =>
    cases above with
    | nil => exact settled_first last
    | cons line above =>
      -- after `line` reading goes on above `last`, which is shorter, or below it, where all is open
      have shorter (above' : List Line) (bound : above'.length ≤ above.length) :
          Settled fun tail => fault? (read (above' ++ last :: tail)) := by
        simp only [List.length_cons] at size
        exact ih above'.length (by omega) above' rfl
      simp only [List.cons_append, fault?_read_cons]
      cases role : BodyRole.ofLine line with
      | malformed cause => exact .const _
      | ignored | property key value =>
        simp only [parts, role, List.findSome?_singleton]
        exact shorter above le_rfl
      | closed | looseElse =>
        simp only [parts, role, List.findSome?_singleton]
        exact (afterBlock_leftAt significant above line.inner).settled line_mem shorter
      | literal key =>
        simp only [parts, role, List.findSome?_singleton]
        exact (afterLiteral_leftAt significant above line.inner).settled line_mem shorter
      | opens header =>
        simp only [parts, role]
        exact settled_parts significant shorter header line

end Node

namespace Outline

theorem line_mem (lines : List Line) : ∀ fault ∈ (read lines).fault?, fault.line ∈ lines :=
  fun _ found => (mem_of_fault? found).1

/-- What a top line of a known kind adds to the faults of an outline. -/
theorem fault?_read_declared {line : Line} {kind : DeclarationKind} (significant : line.isSignificant)
    (declares : line.declarationKind? = some kind) :
    (∃ fault, ∀ rest, (read (line :: rest)).fault? = some fault) ∨
      ∀ rest, (read (line :: rest)).fault? =
        (Node.fault? (Node.read (Declaration.inside kind line rest))).or
          (read (Declaration.leave kind line rest)).fault? := by
  rcases Declaration.read_fromHeader kind line with ⟨cause, fails⟩ | reads
  · left
    exact ⟨⟨line, cause⟩, fun rest => by
      rw [read_malformed significant declares (fails rest), fault?_malformed]⟩
  · right
    intro rest
    obtain ⟨declaration, reading⟩ := reads rest
    rw [read_declared significant declares reading, fault?_declared,
      Declaration.fault?_of_read reading]

theorem leave_leftAt {last : Line} (significant : last.isSignificant) (above : List Line)
    (kind : DeclarationKind) (header : Line) : LeftAt last above (Declaration.leave kind header) := by
  cases kind with
  | interface => exact afterMembers_leftAt significant above header.inner
  | computed =>
    have stays : LeftAt last above id := Or.inl ⟨above, le_rfl, fun _ => rfl⟩
    unfold Declaration.leave computedBody
    dsimp only
    cases Header.named? "computed" header.text with
    | none => exact stays
    | some parts =>
      dsimp only
      by_cases marker : Text.trim parts.2 = ['|']
      · simp only [if_pos marker]
        exact afterLiteral_leftAt significant above header.inner
      · by_cases empty : (Text.trim parts.2).isEmpty
        · simp only [if_neg marker, if_pos empty]
          exact afterMembers_leftAt significant above header.inner
        · simp only [if_neg marker, if_neg empty]
          exact stays
  | _ => exact afterBlock_leftAt significant above header.inner

theorem settled_declared {last : Line} (significant : last.isSignificant) {above : List Line}
    (ih : ∀ above' : List Line, above'.length ≤ above.length →
      Settled fun tail => (read (above' ++ last :: tail)).fault?)
    (kind : DeclarationKind) (header : Line) :
    Settled fun tail =>
      (Node.fault? (Node.read (Declaration.inside kind header (above ++ last :: tail)))).or
        (read (Declaration.leave kind header (above ++ last :: tail))).fault? := by
  have after := (leave_leftAt significant above kind header).settled line_mem ih
  cases kind with
  | interface =>
    simp only [Declaration.inside, Declaration.leave] at after ⊢
    rcases members_cases significant above header.inner with
      ⟨body, above', shorter, cut⟩ | ⟨base, _, _, cut⟩
    · simp only [cut]
      exact (ih above' shorter).after _
    · simp only [cut]
      refine ((Node.settled significant above).cut fun tail => List.takeWhile_subset _).before ?_
      exact fun tail fault found => (afterBlock_suffix base tail).subset (line_mem _ fault found)
  | _ => simpa [Declaration.inside] using after

/-- The first line of an outline is malformed whatever follows it, or it never is. -/
theorem settled_first {last : Line} (significant : last.isSignificant) :
    Settled fun tail => (read (last :: tail)).fault? := by
  cases declares : last.declarationKind? with
  | none =>
    simp only [read_unknown significant declares, fault?_unknown]
    exact Or.inr fun tail fault found =>
      (afterBlock_suffix last.inner tail).subset (line_mem _ fault found)
  | some kind =>
    rcases fault?_read_declared significant declares with ⟨fault, always⟩ | goes
    · exact Or.inl ⟨fault, always⟩
    · simp only [goes]
      refine Or.inr fun tail fault found => ?_
      rcases Option.or_eq_some_iff.mp found with inside | ⟨_, after⟩
      · exact (Declaration.fault_inside inside).1
      · exact (Declaration.leave_suffix kind last tail).subset (line_mem _ fault after)

/-- Whether the fault of an outline stands at or above a line does not depend on what follows the
line. -/
theorem settled {last : Line} (significant : last.isSignificant) (above : List Line) :
    Settled fun tail => (read (above ++ last :: tail)).fault? := by
  induction size : above.length using Nat.strong_induction_on generalizing above with
  | _ size ih =>
    cases above with
    | nil => exact settled_first significant
    | cons line above =>
      have shorter (above' : List Line) (bound : above'.length ≤ above.length) :
          Settled fun tail => (read (above' ++ last :: tail)).fault? := by
        simp only [List.length_cons] at size
        exact ih above'.length (by omega) above' rfl
      simp only [List.cons_append]
      by_cases shown : line.isSignificant
      · cases declares : line.declarationKind? with
        | none =>
          simp only [read_unknown shown declares, fault?_unknown]
          exact (afterBlock_leftAt significant above line.inner).settled line_mem shorter
        | some kind =>
          rcases fault?_read_declared shown declares with ⟨fault, always⟩ | goes
          · exact Or.inl ⟨fault, fun tail => always _⟩
          · simp only [goes]
            exact settled_declared significant shorter kind line
      · simp only [read_insignificant shown]
        exact shorter above le_rfl

end Outline

end AppDescription
