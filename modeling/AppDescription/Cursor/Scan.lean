import AppDescription.Cursor

namespace AppDescription

universe u

/-- How the lines of a block lie to its base. -/
inductive ScopePolicy where
  /-- The base is the header, and its lines are deeper. -/
  | owned
  /-- The base is the first of the lines, and none is shallower. -/
  | sibling
  deriving Repr, DecidableEq

/-- The least indentation of a line in the scope of a base. -/
def ScopePolicy.least (base : Int) : ScopePolicy → Nat
  | owned => (base + 1).toNat
  | sibling => base.toNat

/-- Whoever takes the lines of a scan. It keeps a state of its own, and it shares the cursor, which
stands at a line when the line is given to it. It leaves the cursor there or further on, at most at
the end of the source, and either goes on or breaks the scan off. -/
structure Consumer (σ : Type u) where
  take : σ → Cursor → ForInStep (σ × Nat)
  forward : ∀ state cursor, cursor.hasMore → cursor.current.isSignificant →
    cursor.position ≤ (take state cursor).value.2 ∧
      (take state cursor).value.2 ≤ cursor.lines.length

namespace Consumer

/-- Leaves the cursor where it is, and breaks off when it has counted up to a limit. -/
def upTo (limit : Option Nat) : Consumer Nat where
  take count cursor :=
    if limit.any (· ≤ count + 1) then .done (count + 1, cursor.position)
    else .yield (count + 1, cursor.position)
  forward count cursor more _ := by
    have inside : cursor.position < cursor.lines.length := by simpa [Cursor.hasMore] using more
    cases limit.any (· ≤ count + 1) <;> exact ⟨Nat.le_refl _, Nat.le_of_lt inside⟩

end Consumer

/-- A line that a scan gave away, and the position where its consumer left the cursor. -/
structure Taken where
  line : Line
  left : Nat
  deriving Repr, DecidableEq

/-- What comes of a scan. It is complete unless its consumer broke it off. -/
structure ScanRun (σ : Type u) where
  taken : List Taken
  state : σ
  cursor : Cursor
  complete : Bool

namespace ScanRun

variable {σ : Type u}

def lines (run : ScanRun σ) : List Line :=
  run.taken.map Taken.line

/-- The same run with a line given away before all others. -/
def after (first : Taken) (run : ScanRun σ) : ScanRun σ :=
  { run with taken := first :: run.taken }

end ScanRun

namespace Cursor

/-- The position where a scan goes on when it has given a line and its consumer has left the cursor. A
line that was left alone is passed. -/
def resumeAt (given left : Nat) : Nat :=
  if left = given then left + 1 else left

theorem lt_resumeAt {given left : Nat} (forward : given ≤ left) : given < resumeAt given left := by
  unfold resumeAt
  split <;> omega

/-- Gives the significant lines at the cursor to a consumer, one after another, down to the first one
that is indented by less than `least`. -/
def scan {σ : Type u} (least : Nat) (consumer : Consumer σ) (state : σ) (cursor : Cursor) :
    ScanRun σ :=
  if _more : cursor.hasMore then
    if _significant : cursor.current.isSignificant then
      if least ≤ cursor.current.indent then
        match _taking : consumer.take state cursor with
        | .done (last, left) =>
          ⟨[⟨cursor.current, left⟩], last, { cursor with position := left }, false⟩
        | .yield (next, left) =>
          (scan least consumer next { cursor with position := resumeAt cursor.position left }).after
            ⟨cursor.current, left⟩
      else ⟨[], state, cursor, true⟩
    else scan least consumer state cursor.advance
  else ⟨[], state, cursor, true⟩
termination_by cursor.lines.length - cursor.position
decreasing_by
  all_goals have inside : cursor.position < cursor.lines.length := by simpa [hasMore] using _more
  -- A line that is given is passed at the latest when the scan goes on.
  · have forward := (consumer.forward state cursor _more _significant).1
    rw [_taking] at forward
    have later : cursor.position < resumeAt cursor.position left := lt_resumeAt forward
    omega
  · simp only [advance, advanceBy]
    omega

/-- Passes over what is deeper than a header and gives back its texts. -/
def skipBlock (header : Int) (cursor : Cursor) : List Text × Cursor :=
  let run := cursor.scan (ScopePolicy.owned.least header) (.upTo none) 0
  (run.lines.map Line.text, run.cursor)

end Cursor

end AppDescription
