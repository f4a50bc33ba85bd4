import AppDescription.Proofs.Padding

namespace AppDescription

/-- A cut ends above an element, or takes it in with all that stands above it. What follows the
element has no say in that. -/
theorem cut_cases (keep : α → Bool) (last : α) (above : List α) :
    (∃ taken above', above'.length ≤ above.length ∧ ∀ tail,
      (above ++ last :: tail).takeWhile keep = taken ∧
        (above ++ last :: tail).dropWhile keep = above' ++ last :: tail) ∨
      keep last = true ∧ ∀ tail,
        (above ++ last :: tail).takeWhile keep = above ++ last :: tail.takeWhile keep ∧
          (above ++ last :: tail).dropWhile keep = tail.dropWhile keep := by
  induction above with
  | nil =>
    cases kept : keep last with
    | true => exact Or.inr ⟨rfl, fun tail => by simp [kept]⟩
    | false => exact Or.inl ⟨[], [], le_rfl, fun tail => by simp [kept]⟩
  | cons x above ih =>
    cases kept : keep x with
    | false => exact Or.inl ⟨[], x :: above, le_rfl, fun tail => by simp [kept]⟩
    | true =>
      rcases ih with ⟨taken, above', shorter, cut⟩ | ⟨inside, cut⟩
      · refine Or.inl ⟨x :: taken, above', Nat.le_succ_of_le shorter, fun tail => ?_⟩
        simp [kept, cut tail]
      · exact Or.inr ⟨inside, fun tail => by simp [kept, cut tail]⟩

section

variable {last : Line} (significant : last.isSignificant) (above : List Line)

include significant

theorem block_cases (least : Nat) :
    (∃ taken above', above'.length ≤ above.length ∧ ∀ tail,
      block least (above ++ last :: tail) = taken ∧
        afterBlock least (above ++ last :: tail) = above' ++ last :: tail) ∨
      least ≤ last.indent ∧ ∀ tail,
        block least (above ++ last :: tail) = above ++ last :: block least tail ∧
          afterBlock least (above ++ last :: tail) = afterBlock least tail := by
  rcases cut_cases (Line.within least) last above with ended | ⟨inside, cut⟩
  · exact Or.inl ended
  · exact Or.inr ⟨(Line.within_iff significant).mp inside, cut⟩

/-- A cut that takes in no significant line ends above. -/
theorem cut_above (keep : Line → Bool) (stops : ∀ line : Line, line.isSignificant → keep line = false) :
    ∃ above', above'.length ≤ above.length ∧ ∀ tail,
      (above ++ last :: tail).dropWhile keep = above' ++ last :: tail := by
  rcases cut_cases keep last above with ⟨_, above', shorter, cut⟩ | ⟨inside, _⟩
  · exact ⟨above', shorter, fun tail => (cut tail).2⟩
  · rw [stops last significant] at inside
    cases inside

theorem members_cases (least : Nat) :
    (∃ body above', above'.length ≤ above.length ∧ ∀ tail,
      members least (above ++ last :: tail) = body ∧
        afterMembers least (above ++ last :: tail) = above' ++ last :: tail) ∨
      ∃ base, least ≤ base ∧ base ≤ last.indent ∧ ∀ tail,
        members least (above ++ last :: tail) = above ++ last :: block base tail ∧
          afterMembers least (above ++ last :: tail) = afterBlock base tail := by
  obtain ⟨first, found⟩ : ∃ first, ∀ tail,
      nextSignificant? (above ++ last :: tail) = some first := by
    cases found : above.find? Line.isSignificant with
    | none => exact ⟨last, fun tail => by simp [nextSignificant?, found, significant]⟩
    | some first => exact ⟨first, fun tail => by simp [nextSignificant?, found]⟩
  by_cases deep : least ≤ first.indent
  · have base (tail : List Line) : baseline? least (above ++ last :: tail) = some first.indent := by
      simp only [baseline?, found tail, if_pos deep]
    simp only [members, afterMembers, base]
    rcases block_cases significant above first.indent with ended | ⟨inside, cut⟩
    · exact Or.inl ended
    · exact Or.inr ⟨first.indent, deep, inside, cut⟩
  · have base (tail : List Line) : baseline? least (above ++ last :: tail) = none := by
      simp only [baseline?, found tail, if_neg deep]
    simp only [members, afterMembers, base]
    exact Or.inl ⟨[], above, le_rfl, fun tail => ⟨rfl, rfl⟩⟩

theorem elseBranch?_cases (indent : Nat) :
    (∀ tail, elseBranch? indent (above ++ last :: tail) = none) ∨
      (∀ tail, elseBranch? indent (above ++ last :: tail) = some (last, tail)) ∨
        ∃ elseLine above', above'.length < above.length ∧ ∀ tail,
          elseBranch? indent (above ++ last :: tail) = some (elseLine, above' ++ last :: tail) := by
  obtain ⟨above', shorter, cut⟩ := cut_above significant above
    (fun line => !line.isSignificant) fun line seen => by simp [seen]
  unfold elseBranch?
  cases above' with
  | nil =>
    by_cases fits : last.indent = indent ∧ Header.isElse last.text
    · exact Or.inr (Or.inl fun tail => by rw [cut tail]; exact if_pos fits)
    · exact Or.inl fun tail => by rw [cut tail]; exact if_neg fits
  | cons line above' =>
    by_cases fits : line.indent = indent ∧ Header.isElse line.text
    · exact Or.inr (Or.inr ⟨line, above', shorter, fun tail => by rw [cut tail]; exact if_pos fits⟩)
    · exact Or.inl fun tail => by rw [cut tail]; exact if_neg fits

/-- A literal ends above a line, or it swallows the line. -/
theorem literal_standing (least : Nat) :
    (∃ text above', above'.length ≤ above.length ∧ ∀ tail,
      literalText least (above ++ last :: tail) = text ∧
        afterLiteral least (above ++ last :: tail) = above' ++ last :: tail) ∨
      ∃ depth, ∀ tail,
        afterLiteral least (above ++ last :: tail) = tail.dropWhile (Line.continues depth) := by
  obtain ⟨above', shorter, cut⟩ := cut_above significant above Line.isBlank
    fun line seen => Line.significant_not_isBlank seen
  obtain ⟨first, rest, start⟩ : ∃ first, ∃ rest : List Line → List Line, ∀ tail,
      above' ++ last :: tail = first :: rest tail := by
    cases above' with
    | nil => exact ⟨last, id, fun tail => rfl⟩
    | cons line above' => exact ⟨line, fun tail => above' ++ last :: tail, fun tail => rfl⟩
  have started (tail : List Line) := (cut tail).trans (start tail)
  by_cases deep : least ≤ first.indent
  · have own : first.continues first.indent = true := by simp [Line.continues]
    have after (tail : List Line) : afterLiteral least (above ++ last :: tail) =
        (above' ++ last :: tail).dropWhile (Line.continues first.indent) := by
      rw [afterLiteral_of_deep (started tail) deep, start tail, List.dropWhile_cons_of_pos own]
    have text (tail : List Line) : literalText least (above ++ last :: tail) =
        Text.trim (Text.join ['\n'] (((above' ++ last :: tail).takeWhile
          (Line.continues first.indent)).map (literalPiece first.indent))) := by
      rw [start tail, List.takeWhile_cons_of_pos own]
      simp only [literalText, literalLines?_of_deep (started tail) deep]
      rfl
    simp only [after, text]
    rcases cut_cases (Line.continues first.indent) last above' with
      ⟨taken, above'', shorter', ended⟩ | ⟨_, swallowed⟩
    · refine Or.inl ⟨Text.trim (Text.join ['\n'] (taken.map (literalPiece first.indent))), above'',
        shorter'.trans shorter, fun tail => ⟨?_, (ended tail).2⟩⟩
      rw [(ended tail).1]
    · exact Or.inr ⟨first.indent, fun tail => (swallowed tail).2⟩
  · have shallow (tail : List Line) : ∀ line below,
        (above ++ last :: tail).dropWhile Line.isBlank = line :: below → line.indent < least := by
      intro line below start'
      cases (started tail).symm.trans start'
      exact Nat.lt_of_not_le deep
    refine Or.inl ⟨[], above', shorter, fun tail => ⟨?_, ?_⟩⟩
    · simp only [literalText, literalLines?_of_shallow (shallow tail)]
    · rw [afterLiteral_of_shallow (shallow tail), cut tail]

end

namespace Node

/-- Where a line stands below the header of an element, with `above` between the two. Whatever
follows the line, it stands there. -/
inductive Standing (header : ElementHeader) (line last : Line) (above : List Line) : Prop
  /-- The element ends above it. -/
  | after (node : Node) (above' : List Line) : above'.length ≤ above.length →
      (∀ tail, ofHeader header line (above ++ last :: tail) = (node, above' ++ last :: tail)) →
      Standing header line last above
  /-- It is among the members of the element's body. -/
  | body (base : Nat) : base ≤ last.indent →
      (∀ tail, members line.inner (above ++ last :: tail) = above ++ last :: block base tail ∧
        afterMembers line.inner (above ++ last :: tail) = afterBlock base tail) →
      Standing header line last above
  /-- It is the `else` of the element. -/
  | elseLine (word : ConditionWord) (condition : Text) (body : List Line) :
      header = .conditional word condition →
      (∀ tail, members line.inner (above ++ last :: tail) = body ∧
        elseBranch? line.indent (afterMembers line.inner (above ++ last :: tail)) =
          some (last, tail)) →
      Standing header line last above
  /-- It is among the members below the `else` of the element. -/
  | otherwise (word : ConditionWord) (condition : Text) (body : List Line) (elseLine : Line)
      (above' : List Line) (base : Nat) : header = .conditional word condition →
      above'.length < above.length → base ≤ last.indent →
      (∀ tail, members line.inner (above ++ last :: tail) = body ∧
        elseBranch? line.indent (afterMembers line.inner (above ++ last :: tail)) =
          some (elseLine, above' ++ last :: tail) ∧
        members line.inner (above' ++ last :: tail) = above' ++ last :: block base tail ∧
        afterMembers line.inner (above' ++ last :: tail) = afterBlock base tail) →
      Standing header line last above

theorem standing {last : Line} (significant : last.isSignificant) (header : ElementHeader)
    (line : Line) (above : List Line) : Standing header line last above := by
  rcases members_cases significant above line.inner with
    ⟨body, above', shorter, cut⟩ | ⟨base, _, inside, cut⟩
  · cases header with
    | display kind name content =>
      refine .after (.display line kind name content (read body)) above' shorter fun tail => ?_
      simp only [ofHeader, cut tail]
    | iteration item collection =>
      refine .after (.iteration line item collection (read body)) above' shorter fun tail => ?_
      simp only [ofHeader, cut tail]
    | conditional word condition =>
      rcases elseBranch?_cases significant above' line.indent with
        none | own | ⟨elseLine, above'', shorter', found⟩
      · refine .after (.conditional line word condition (read body)) above' shorter fun tail => ?_
        simp only [ofHeader, cut tail, none tail]
      · refine .elseLine word condition body rfl fun tail => ?_
        exact ⟨(cut tail).1, by rw [(cut tail).2, own tail]⟩
      · rcases members_cases significant above'' line.inner with
          ⟨other, above3, shorter3, cut'⟩ | ⟨base, _, inside, cut'⟩
        · refine .after (.choice line word condition (read body) elseLine (read other)) above3
            (by omega) fun tail => ?_
          simp only [ofHeader, cut tail, found tail, cut' tail]
        · refine .otherwise word condition body elseLine above'' base rfl (by omega) inside
            fun tail => ⟨(cut tail).1, by rw [(cut tail).2, found tail], cut' tail⟩
  · exact .body base inside cut

end Node

end AppDescription
