import AppDescription.Text.Basic

namespace AppDescription

/-- A part of a pattern. -/
inductive PatternPart where
  | one (p : Char → Bool)
  /-- Characters of a class, at least so many of them. -/
  | many (least : Nat) (p : Char → Bool)
  /-- The end of the text, or the line break that ends it. -/
  | ending

/-- Parts that match one after another. -/
abbrev Pattern := List PatternPart

namespace Text

/-- What a text starts with of a class and what follows, the longest start first. -/
def starts (p : Char → Bool) : Text → List (Text × Text)
  | [] => [([], [])]
  | c :: rest =>
    if p c then (starts p rest).map (Prod.map (c :: ·) id) ++ [([], c :: rest)]
    else [([], c :: rest)]

theorem starts_cons (p : Char → Bool) (c : Char) (rest : Text) :
    starts p (c :: rest) =
      (if p c then (starts p rest).map (Prod.map (c :: ·) id) else []) ++ [([], c :: rest)] := by
  cases held : p c <;> simp [starts, held]

theorem mem_starts {p : Char → Bool} {text taken rest : Text} :
    (taken, rest) ∈ starts p text ↔ text = taken ++ rest ∧ ∀ c ∈ taken, p c := by
  induction text generalizing taken with
  | nil => cases taken <;> simp [starts]
  | cons c text ih =>
    rw [starts_cons, List.mem_append, List.mem_singleton, Prod.mk.injEq]
    cases taken with
    | nil =>
      have none : ([], rest) ∉ if p c then (starts p text).map (Prod.map (c :: ·) id) else [] := by
        split <;> simp
      constructor
      · rintro (member | ⟨_, rfl⟩)
        · exact absurd member none
        · exact ⟨rfl, fun _ => nofun⟩
      · rintro ⟨same, _⟩
        exact .inr ⟨rfl, same.symm⟩
    | cons d taken =>
      by_cases held : p c
      · rw [if_pos held, List.mem_map]
        constructor
        · rintro (⟨⟨start, after⟩, member, same⟩ | ⟨same, _⟩)
          · cases same
            obtain ⟨rfl, all⟩ := ih.mp member
            exact ⟨rfl, List.forall_mem_cons.mpr ⟨held, all⟩⟩
          · cases same
        · rintro ⟨same, all⟩
          obtain ⟨rfl, rfl⟩ := List.cons.inj same
          exact .inl ⟨(taken, rest), ih.mpr ⟨rfl, (List.forall_mem_cons.mp all).2⟩, rfl⟩
      · rw [if_neg held]
        constructor
        · rintro (member | ⟨same, _⟩)
          · cases member
          · cases same
        · rintro ⟨same, all⟩
          obtain ⟨rfl, _⟩ := List.cons.inj same
          exact absurd (all c List.mem_cons_self) held

theorem starts_head? (p : Char → Bool) (text : Text) :
    (starts p text).head? = some (text.takeWhile p, text.dropWhile p) := by
  induction text with
  | nil => rfl
  | cons c text ih =>
    rw [starts_cons]
    cases held : p c with
    | true => simp [held, List.head?_append, ih]
    | false => simp [held]

end Text

namespace PatternPart

/-- The ways for a part to match at the start of a text, in the order in which they are tried: what it
takes, and what it leaves. -/
def ways : PatternPart → Text → List (Text × Text)
  | one _, [] => []
  | one p, c :: rest => if p c then [([c], rest)] else []
  | many least p, text => (Text.starts p text).filter fun start => least ≤ start.1.length
  | ending, text => if text = [] ∨ text = ['\n'] then [([], text)] else []

theorem mem_one_ways {p : Char → Bool} {text taken rest : Text} :
    (taken, rest) ∈ (one p).ways text ↔ ∃ c, p c ∧ taken = [c] ∧ text = c :: rest := by
  cases text with
  | nil => simp [ways]
  | cons c text =>
    rw [ways]
    split
    · rename_i held
      rw [List.mem_singleton, Prod.mk.injEq]
      constructor
      · rintro ⟨rfl, rfl⟩
        exact ⟨c, held, rfl, rfl⟩
      · rintro ⟨d, _, rfl, same⟩
        cases same
        exact ⟨rfl, rfl⟩
    · rename_i fails
      constructor
      · intro member
        cases member
      · rintro ⟨d, held, _, same⟩
        cases same
        exact absurd held fails

theorem mem_many_ways {least : Nat} {p : Char → Bool} {text taken rest : Text} :
    (taken, rest) ∈ (many least p).ways text ↔
      text = taken ++ rest ∧ (∀ c ∈ taken, p c) ∧ least ≤ taken.length := by
  simp [ways, Text.mem_starts, and_assoc]

theorem mem_ending_ways {text taken rest : Text} :
    (taken, rest) ∈ ending.ways text ↔ taken = [] ∧ rest = text ∧ (text = [] ∨ text = ['\n']) := by
  rw [ways]
  split
  · simp [*]
  · simp [*]

end PatternPart

namespace Pattern

/-- What the parts take in each match at the start of a text, in the order in which they are found. A
part is matched in its next way when the rest of the pattern does not match. -/
def readings : Pattern → Text → List (List Text)
  | [], _ => [[]]
  | part :: pattern, text =>
    (part.ways text).flatMap fun way => (readings pattern way.2).map (way.1 :: ·)

/-- The first match. -/
def first? (pattern : Pattern) (text : Text) : Option (List Text) :=
  (readings pattern text).head?

/-- Whether there is a match at some place of a text. -/
def occurs (pattern : Pattern) : Text → Bool
  | [] => (first? pattern []).isSome
  | c :: rest => (first? pattern (c :: rest)).isSome || occurs pattern rest

theorem mem_readings_nil {text : Text} {parts : List Text} :
    parts ∈ readings [] text ↔ parts = [] := by
  simp [readings]

theorem mem_readings_cons {part : PatternPart} {pattern : Pattern} {text : Text}
    {parts : List Text} :
    parts ∈ readings (part :: pattern) text ↔
      ∃ taken rest others, (taken, rest) ∈ part.ways text ∧ others ∈ readings pattern rest ∧
        parts = taken :: others := by
  simp only [readings, List.mem_flatMap, List.mem_map, Prod.exists]
  constructor
  · rintro ⟨taken, rest, way, others, member, rfl⟩
    exact ⟨taken, rest, others, way, member, rfl⟩
  · rintro ⟨taken, rest, others, way, member, rfl⟩
    exact ⟨taken, rest, way, others, member, rfl⟩

/-- The longest start comes first. -/
theorem first?_many (p : Char → Bool) (text : Text) :
    first? [.many 1 p] text =
      if text.takeWhile p = [] then none else some [text.takeWhile p] := by
  have ways : readings [.many 1 p] text =
      ((Text.starts p text).filter fun start => 1 ≤ start.1.length).map fun start => [start.1] :=
    List.map_eq_flatMap.symm
  rw [first?, ways, List.head?_map]
  obtain ⟨others, longest⟩ := List.head?_eq_some_iff.mp (Text.starts_head? p text)
  cases run : text.takeWhile p with
  | nil =>
    have none : (Text.starts p text).filter (fun start => 1 ≤ start.1.length) = [] := by
      rw [List.filter_eq_nil_iff]
      rintro ⟨taken, rest⟩ member
      obtain ⟨rfl, all⟩ := Text.mem_starts.mp member
      rw [List.takeWhile_append_of_pos all, List.append_eq_nil_iff] at run
      simp [run.1]
    rw [none]
    rfl
  | cons c taken =>
    rw [longest, run, List.filter_cons_of_pos (by simp)]
    rfl

theorem occurs_one (p : Char → Bool) (text : Text) : occurs [.one p] text = text.any p := by
  induction text with
  | nil => rfl
  | cons c text ih => cases held : p c <;> simp [occurs, first?, readings, PatternPart.ways, held, ih]

end Pattern

end AppDescription
