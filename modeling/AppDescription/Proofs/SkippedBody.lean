import Mathlib.Data.List.Nodup
import Mathlib.Data.List.Pairwise
import AppDescription.Proofs.Parts
import AppDescription.Proofs.Standing

namespace AppDescription

/-- A cut of what does not start with anything of a class does not either. -/
theorem Stops.takeWhile {p : α → Bool} {list : List α} (stops : Stops p list) (keep : α → Bool) :
    Stops p (list.takeWhile keep) := by
  cases list with
  | nil => simp
  | cons x list => cases kept : keep x <;> simp [kept, cons_iff.mp stops]

section

variable {lower upper : Nat} (ordered : lower ≤ upper) (lines : List Line)

include ordered

theorem afterBlock_of_deeper :
    afterBlock lower lines = afterBlock lower (afterBlock upper lines) :=
  ((afterBlock_passes upper lines).mono ordered).afterBlock_eq

/-- Cutting off what lies deep and cutting off what follows the block go together. -/
theorem afterBlock_block :
    afterBlock upper (block lower lines) = block lower (afterBlock upper lines) := by
  have deep : ∀ line ∈ block upper lines, line.within upper = true :=
    fun line member => List.mem_takeWhile_imp member
  have shallow : ∀ line ∈ block upper lines, line.within lower = true :=
    fun line member => Line.within_mono ordered (deep line member)
  have stops : Stops (Line.within upper) (block lower (afterBlock upper lines)) :=
    (Stops.of_dropWhile (Line.within upper) lines).takeWhile _
  calc afterBlock upper (block lower lines)
      = afterBlock upper (block lower (block upper lines ++ afterBlock upper lines)) := by
        rw [block_append_afterBlock]
    _ = afterBlock upper (block upper lines ++ block lower (afterBlock upper lines)) := by
        rw [show block lower (block upper lines ++ afterBlock upper lines) = _ from
          List.takeWhile_append_of_pos shallow]
        rfl
    _ = block lower (afterBlock upper lines) := stops.dropWhile_append deep

theorem same_of_shallower {tail tail' : List Line}
    (same : afterBlock upper tail = afterBlock upper tail') :
    afterBlock upper (block lower tail) = afterBlock upper (block lower tail') ∧
      afterBlock lower tail = afterBlock lower tail' := by
  constructor
  · rw [afterBlock_block ordered, afterBlock_block ordered, same]
  · rw [afterBlock_of_deeper ordered tail, afterBlock_of_deeper ordered tail', same]

end

namespace Node

/-- A line that the reading of a body comes to, whether it belongs to the body itself or to an element
in it. -/
inductive Reaches (target : Line) : List Line → Prop
  | here (rest : List Line) : Reaches target (target :: rest)
  | part {line : Line} {rest part : List Line} : part ∈ parts line rest → Reaches target part →
      Reaches target (line :: rest)

theorem Reaches.mem {target : Line} {lines : List Line} (reached : Reaches target lines) :
    target ∈ lines := by
  induction reached with
  | here => exact List.mem_cons_self
  | part among _ ih => exact List.mem_cons_of_mem _ ((part_sublist among).subset ih)

/-- Lines that do not repeat are read in one part of an element only. -/
theorem part_unique {header : ElementHeader} {line target : Line} {rest part part' : List Line}
    (nodup : rest.Nodup) (among : part ∈ header.parts line rest)
    (among' : part' ∈ header.parts line rest) (member : target ∈ part) (member' : target ∈ part') :
    part = part' := by
  have apart := (List.nodup_flatten.mp (nodup.sublist (header.parts_flatten line rest))).2
  have symmetric : Std.Symm (List.Disjoint (α := Line)) := ⟨fun _ _ apart _ right left => apart left right⟩
  by_contra other
  have disjoint := apart.forall among among' other
  exact disjoint member member'

theorem ofHeader_left_mem (header : ElementHeader) (line : Line) (below : List Line) :
    (ofHeader header line below).2 ∈ header.parts line below := by
  cases header with
  | display kind name content => simp [ofHeader, ElementHeader.parts, ElementHeader.further]
  | iteration item collection => simp [ofHeader, ElementHeader.parts, ElementHeader.further]
  | conditional word condition =>
    simp only [ofHeader, ElementHeader.parts, ElementHeader.further]
    cases elseBranch? line.indent (afterMembers line.inner below) <;> simp

theorem ofHeader_congr {line : Line} {below below' : List Line} (header : ElementHeader)
    (body : read (members line.inner below) = read (members line.inner below'))
    (after : afterMembers line.inner below = afterMembers line.inner below') :
    ofHeader header line below = ofHeader header line below' := by
  cases header <;> simp only [ofHeader, body, after]

/-- A line whose own body is passed over. -/
def Skips (line : Line) : Prop :=
  BodyRole.ofLine line = .closed ∨ BodyRole.ofLine line = .looseElse

theorem Skips.read_eq {target : Line} {tail tail' : List Line} (skips : Skips target)
    (same : afterBlock target.inner tail = afterBlock target.inner tail') :
    read (target :: tail) = read (target :: tail') := by
  rcases skips with role | role
  · rw [read_closed role, read_closed role, same]
  · rw [read_looseElse role, read_looseElse role, same]

theorem Skips.significant {line : Line} (skips : Skips line) : line.isSignificant :=
  BodyRole.significant_of_ofLine (by rcases skips with role | role <;> simp [role])

/-- The block below a line does not matter when these lines are read. -/
structure HiddenBelow (target : Line) (lines : List Line) : Prop where
  read_eq {above tail tail' : List Line} : lines = above ++ target :: tail →
    afterBlock target.inner tail = afterBlock target.inner tail' →
      read (above ++ target :: tail) = read (above ++ target :: tail')

/-- An element is read alike when the part that a skipped line is reached in is. -/
theorem ofHeader_skips {header : ElementHeader} {line target : Line} {above tail tail' part : List Line}
    (skips : Skips target) (nodup : (above ++ target :: tail).Nodup)
    (same : afterBlock target.inner tail = afterBlock target.inner tail')
    (among : part ∈ header.parts line (above ++ target :: tail)) (member : target ∈ part)
    (hidden : HiddenBelow target part) :
    (ofHeader header line (above ++ target :: tail)).1 ::
        read (ofHeader header line (above ++ target :: tail)).2 =
      (ofHeader header line (above ++ target :: tail')).1 ::
        read (ofHeader header line (above ++ target :: tail')).2 := by
  have fresh : target ∉ tail := (List.nodup_cons.mp (List.nodup_append.mp nodup).2.1).1
  cases standing skips.significant header line above with
  | after node above' _ standing =>
    have left := ofHeader_left_mem header line (above ++ target :: tail)
    rw [standing tail] at left
    have whole := part_unique nodup among left member (by simp)
    rw [standing tail, standing tail', hidden.read_eq whole same]
  | body base shallow standing =>
    have first : above ++ target :: block base tail ∈ header.parts line (above ++ target :: tail) := by
      rw [ElementHeader.parts, (standing tail).1]
      exact List.mem_cons_self
    have whole := part_unique nodup among first member (by simp)
    obtain ⟨inBlock, after⟩ := same_of_shallower (shallow.trans (Nat.le_succ _)) same
    have inside : read (members line.inner (above ++ target :: tail)) =
        read (members line.inner (above ++ target :: tail')) := by
      rw [(standing tail).1, (standing tail').1, hidden.read_eq whole inBlock]
    have outside : afterMembers line.inner (above ++ target :: tail) =
        afterMembers line.inner (above ++ target :: tail') := by
      rw [(standing tail).2, (standing tail').2, after]
    rw [ofHeader_congr header inside outside]
  | elseLine word condition body opens standing =>
    -- the `else` of a conditional is read with it and never reached
    obtain ⟨members, found⟩ := standing tail
    have own : target ∈ afterMembers line.inner (above ++ target :: tail) :=
      (elseBranch?_suffix found).subset List.mem_cons_self
    rw [← members_append_afterMembers line.inner (above ++ target :: tail), members] at nodup
    have notInBody : target ∉ body := fun inBody => (List.nodup_append.mp nodup).2.2 _ inBody _ own rfl
    simp only [opens, ElementHeader.parts, ElementHeader.further, members, found, List.mem_cons,
      List.not_mem_nil, or_false] at among
    rcases among with rfl | rfl | rfl
    · exact absurd member notInBody
    · exact absurd ((members_sublist _ _).subset member) fresh
    · exact absurd ((afterMembers_suffix _ _).subset member) fresh
  | otherwise word condition body elseLine above' base opens _ shallow standing =>
    obtain ⟨_, found, inside, _⟩ := standing tail
    have second : above' ++ target :: block base tail ∈
        header.parts line (above ++ target :: tail) := by
      simp only [opens, ElementHeader.parts, ElementHeader.further, found, inside]
      simp
    have whole := part_unique nodup among second member (by simp)
    obtain ⟨inBlock, after⟩ := same_of_shallower (shallow.trans (Nat.le_succ _)) same
    simp only [opens, ofHeader, standing, hidden.read_eq whole inBlock, after]

theorem read_skips {line target : Line} {above tail tail' part : List Line} (skips : Skips target)
    (nodup : (above ++ target :: tail).Nodup)
    (same : afterBlock target.inner tail = afterBlock target.inner tail')
    (among : part ∈ parts line (above ++ target :: tail)) (member : target ∈ part)
    (hidden : HiddenBelow target part) :
    read (line :: (above ++ target :: tail)) = read (line :: (above ++ target :: tail')) := by
  have fresh : target ∉ tail := (List.nodup_cons.mp (List.nodup_append.mp nodup).2.1).1
  have skipped (own : part = afterBlock line.inner (above ++ target :: tail)) :
      read (afterBlock line.inner (above ++ target :: tail)) =
        read (afterBlock line.inner (above ++ target :: tail')) := by
    rcases block_cases skips.significant above line.inner with ⟨_, above', _, cut⟩ | ⟨_, cut⟩
    · rw [(cut tail).2, (cut tail').2]
      exact hidden.read_eq (own.trans (cut tail).2) same
    · rw [own, (cut tail).2] at member
      exact absurd ((afterBlock_suffix _ _).subset member) fresh
  unfold parts at among
  cases role : BodyRole.ofLine line <;> rw [role] at among
  case ignored =>
    rw [read_ignored role, read_ignored role]
    exact hidden.read_eq (List.mem_singleton.mp among) same
  case closed =>
    rw [read_closed role, read_closed role]
    exact skipped (List.mem_singleton.mp among)
  case looseElse =>
    rw [read_looseElse role, read_looseElse role, skipped (List.mem_singleton.mp among)]
  case property key value =>
    rw [read_property role, read_property role, hidden.read_eq (List.mem_singleton.mp among) same]
  case literal key =>
    have own := List.mem_singleton.mp among
    rw [read_literal role, read_literal role]
    rcases literal_standing skips.significant above line.inner with ⟨_, above', _, cut⟩ | ⟨_, cut⟩
    · rw [(cut tail).1, (cut tail').1, (cut tail).2, (cut tail').2, hidden.read_eq (own.trans (cut tail).2) same]
    · rw [own, cut tail] at member
      exact absurd ((List.dropWhile_suffix _).subset member) fresh
  case malformed cause => simp at among
  case opens header =>
    rw [read_opens role, read_opens role]
    exact ofHeader_skips skips nodup same among member hidden

/-- The block below a line whose body is passed over does not matter to any body that the line is
reached in. -/
theorem Reaches.hiddenBelow {target : Line} {lines : List Line} (skips : Skips target)
    (reached : Reaches target lines) (nodup : lines.Nodup) : HiddenBelow target lines := by
  induction reached with
  | here rest =>
    constructor
    intro above tail tail' split same
    cases above with
    | nil => exact skips.read_eq same
    | cons line above =>
      obtain ⟨rfl, rfl⟩ := List.cons.inj split
      exact absurd (by simp) (List.nodup_cons.mp nodup).1
  | @part line rest part among reached ih =>
    constructor
    intro above tail tail' split same
    obtain ⟨unrepeated, nodupRest⟩ := List.nodup_cons.mp nodup
    have hidden := ih (nodupRest.sublist (part_sublist among))
    cases above with
    | nil =>
      obtain ⟨rfl, rfl⟩ := List.cons.inj split
      exact absurd ((part_sublist among).subset reached.mem) unrepeated
    | cons first above =>
      obtain ⟨rfl, below⟩ := List.cons.inj split
      rw [below] at among nodupRest
      exact read_skips skips nodupRest same among reached.mem hidden

end Node

end AppDescription
