import AppDescription.Proofs.ElementLines
import AppDescription.Proofs.Gaps
import AppDescription.Proofs.NamedElements

namespace AppDescription

namespace Text

theorem trimEnd_eq_trim {text : Text} (starts : Stops AppDescription.isBlank text) :
    trimEnd text = trim text := by
  rw [trim, trimStart, starts.dropWhile_eq]

end Text

namespace Header

/-- The form `when:` or `if:`, with white space at most where the condition should be. -/
def VacantCondition (word : ConditionWord) (text : Text) : Prop :=
  ∃ gap : Text, (∀ c ∈ gap, isBlank c = true) ∧ text = word.text ++ (gap ++ [':'])

/-- The form `for_each item in:`, with only `gap` where the collection should be. -/
def VacantLoop (item gap text : Text) : Prop :=
  item.IsName ∧ (∀ c ∈ gap, isBlank c = true) ∧ ∃ before after : Text, before.IsGap ∧ after.IsGap ∧
    text = "for_each" ++ (before ++ (item ++ (after ++ ("in" ++ (gap ++ [':'])))))

variable {word : ConditionWord} {text condition item collection gap : Text}

theorem colon_not_blank : Stops isBlank [':'] := by
  rw [Stops.cons_iff]
  decide

theorem condition?_eq_some (found : condition? word text = some condition) :
    condition ≠ [] ∧ Text.trim condition = condition := by
  simp only [condition?, bind, Option.bind_eq_some_iff] at found
  obtain ⟨_, _, rest, _, found⟩ := found
  split_ifs at found with ended empty
  obtain rfl := Option.some.inj found
  exact ⟨by simpa using empty, Text.trim_trim _⟩

/-- However much white space there is, it makes no condition. -/
theorem VacantCondition.condition?_eq (vacant : VacantCondition word text) :
    condition? word text = none := by
  obtain ⟨gap, blank, rfl⟩ := vacant
  simp only [condition?, Text.dropPrefix?_append, bind, Option.bind]
  cases gap with
  | nil => rfl
  | cons c gap =>
    rw [Text.blanks?_append (by simp) blank colon_not_blank]
    rfl

/-- One white space character before the colon is the gap after `in`. More of them make an empty
collection. -/
theorem VacantLoop.iteration?_eq (vacant : VacantLoop item gap text) :
    iteration? text = if 2 ≤ gap.length then some (item, []) else none := by
  obtain ⟨⟨nonempty, named⟩, blank, before, after, isGap, isGap', rfl⟩ := vacant
  have isName : Text.IsName "in" := by decide +kernel
  have inWord : Stops isBlank ("in".toList ++ (gap ++ [':'])) :=
    stops_blank_word isName.1 isName.2 _
  simp only [iteration?, Text.dropPrefix?_append, bind, Option.bind,
    Text.blanks?_append isGap.nonempty isGap.blank (stops_blank_word nonempty named _),
    Text.word?_append nonempty named (isGap'.stops_word _),
    Text.blanks?_append isGap'.nonempty isGap'.blank inWord]
  cases gap with
  | nil => rfl
  | cons c gap =>
    rw [Text.blanks?_append (by simp) blank colon_not_blank]
    simp

/-- A loop has a collection unless two or more white space characters stand in its place. -/
theorem iteration?_eq_some (found : iteration? text = some (item, collection)) :
    (collection ≠ [] ∧ Text.trim collection = collection) ∨
      (collection = [] ∧ ∃ gap, VacantLoop item gap text ∧ 2 ≤ gap.length) := by
  have named := iteration?_isName found
  simp only [iteration?, bind, Option.bind_eq_some_iff] at found
  obtain ⟨_, keyword, _, before, ⟨name, _⟩, word, _, after, _, inside, rest, last, found⟩ := found
  obtain ⟨_, first, nonempty, blank, rfl⟩ := Text.blanks?_eq_some before
  obtain ⟨_, second, nonempty', blank', rfl⟩ := Text.blanks?_eq_some after
  obtain ⟨starts, gap, _, space, rfl⟩ := Text.blanks?_eq_some last
  obtain ⟨_, _, _, rfl⟩ := Text.word?_eq_some word
  split_ifs at found with alone wide ended
  · cases found
    subst alone
    refine .inr ⟨rfl, gap, ⟨named, space, first, second, ⟨nonempty, blank⟩, ⟨nonempty', blank'⟩, ?_⟩,
      by simpa using wide⟩
    rw [Text.dropPrefix?_eq_some keyword, Text.dropPrefix?_eq_some inside]
  · cases found
    left
    obtain ⟨body, rfl⟩ := List.getLast?_eq_some_iff.mp ended
    cases body with
    | nil => exact absurd rfl alone
    | cons c body =>
      have solid : isBlank c = false := Stops.cons_iff.mp starts
      rw [List.dropLast_concat, Text.trimEnd_eq_trim (Stops.cons_iff.mpr solid)]
      refine ⟨fun empty => ?_, Text.trim_trim _⟩
      have blank := Text.trim_eq_nil_iff.mp empty c List.mem_cons_self
      rw [solid] at blank
      cases blank

end Header

/-- An element has all that its header should give it. -/
def Element.IsPresent : Element → Prop
  | .display kind _ _ _ => kind.IsName
  | .conditional _ condition _ _ => condition ≠ [] ∧ Text.trim condition = condition
  | .iteration item collection _ =>
    item.IsName ∧ collection ≠ [] ∧ Text.trim collection = collection

instance Element.decidableIsPresent : (element : Element) → Decidable element.IsPresent
  | .display kind _ _ _ => inferInstanceAs (Decidable kind.IsName)
  | .conditional .. => inferInstanceAs (Decidable (_ ∧ _))
  | .iteration item .. => inferInstanceAs (Decidable (item.IsName ∧ _ ∧ _))

/-- A header without a condition, or without a collection and no white space to spare for one. -/
def Header.Vacant (text : Text) : Prop :=
  (∃ word, VacantCondition word text) ∨ ∃ item gap, VacantLoop item gap text ∧ gap.length < 2

namespace ElementHeader

theorem read?_eq_conditional {keyword text condition : Text} {word : ConditionWord}
    (found : read? keyword text = some (.ok (.conditional word condition))) :
    Header.condition? word text = some condition := by
  unfold read? read?.conditional? at found
  split_ifs at found <;> split at found <;> cases found
  all_goals assumption

theorem read?_eq_iteration {keyword text item collection : Text}
    (found : read? keyword text = some (.ok (.iteration item collection))) :
    Header.iteration? text = some (item, collection) := by
  unfold read? read?.conditional? at found
  split_ifs at found <;> split at found <;> cases found
  assumption

end ElementHeader

/-- What a header gives its element is there, but for a collection that has white space in its
place. -/
theorem Line.Heads.isPresent {line : Line} {element : Element} (heads : line.Heads element) :
    element.IsPresent ∨ ∃ item gap body, Header.VacantLoop item gap line.text ∧ 2 ≤ gap.length ∧
      element = .iteration item [] body := by
  have named := heads.isNamed
  obtain ⟨header, role, titles⟩ := heads
  obtain ⟨keyword, _, read⟩ := Option.bind_eq_some_iff.mp (BodyRole.ofLine_opens role)
  cases element with
  | display => exact .inl named
  | conditional word condition =>
    cases header with
    | display | iteration => exact titles.elim
    | conditional word' condition' =>
      obtain ⟨rfl, rfl⟩ := titles
      exact .inl (Header.condition?_eq_some (ElementHeader.read?_eq_conditional read))
  | iteration item collection body =>
    cases header with
    | display | conditional => exact titles.elim
    | iteration item' collection' =>
      obtain ⟨rfl, rfl⟩ := titles
      rcases Header.iteration?_eq_some (ElementHeader.read?_eq_iteration read) with
        present | ⟨rfl, gap, vacant, wide⟩
      · exact .inl ⟨named, present⟩
      · exact .inr ⟨_, gap, body, vacant, wide, rfl⟩

/-- A line with a vacant header opens nothing. -/
theorem Line.malformed_of_vacant {line : Line} (vacant : Header.Vacant line.text) :
    ∃ cause, BodyRole.ofLine line = .malformed cause := by
  have starts {keyword rest : Text} (named : keyword.IsName) (among : keyword ∈ elementWords)
      (stops : Stops isWord rest) (text : line.text = keyword ++ rest)
      (none : ∀ header, ElementHeader.read? keyword line.text ≠ some (.ok header)) :
      ∃ cause, BodyRole.ofLine line = .malformed cause := by
    have word : line.keyword? = some keyword := by
      rw [Line.keyword?_eq_some_iff, text]
      exact ⟨stops.takeWhile_append named.2, named.1⟩
    have element : line.startsElement = true := by
      simpa [Line.startsElement, word] using among
    refine (Line.startsElement_iff.mp element).resolve_left ?_
    rintro ⟨header, opens⟩
    have read := BodyRole.ofLine_opens opens
    rw [word] at read
    exact none header read
  rcases vacant with ⟨word, vacant⟩ | ⟨item, gap, vacant, narrow⟩
  · have none := vacant.condition?_eq
    obtain ⟨gap, blank, text⟩ := vacant
    refine starts (by cases word <;> decide +kernel) (by cases word <;> decide)
      (Header.stops_word_colon blank []) text fun header read => ?_
    cases word <;>
      simp [ElementHeader.read?, ElementHeader.read?.conditional?, ConditionWord.text, none] at read
  · have none := vacant.iteration?_eq
    rw [if_neg (by omega)] at none
    obtain ⟨_, _, before, after, isGap, _, text⟩ := vacant
    refine starts (by decide +kernel) (by decide) (isGap.stops_word _) text fun header read => ?_
    simp [ElementHeader.read?, none] at read

/-- A body in which a malformed line is reached has a fault. -/
theorem Node.Reaches.fault? {target : Line} {lines : List Line} {cause : HeaderFault}
    (reached : Reaches target lines) (malformed : BodyRole.ofLine target = .malformed cause) :
    Node.fault? (read lines) ≠ none := by
  induction reached with
  | here rest =>
    rw [fault?_read_cons, malformed]
    exact Option.some_ne_none _
  | part among _ ih =>
    rw [fault?_read_cons]
    split
    · exact Option.some_ne_none _
    · exact fun faultless => ih (List.findSome?_eq_none_iff.mp faultless _ among)

/-- A source in which an interface has a vacant header is not read. -/
theorem Document.parse_vacant {source : Text} {place : Line × List Line} {line : Line}
    (among : place ∈ interfacePlaces (Line.ofSource source))
    (reached : Node.Reaches line (members 1 place.2)) (vacant : Header.Vacant line.text) :
    ∃ fault, parse source = .error fault := by
  obtain ⟨cause, malformed⟩ := Line.malformed_of_vacant vacant
  cases parsed : parse source with
  | error fault => exact ⟨fault, rfl⟩
  | ok document =>
    obtain ⟨faultless, _⟩ := parse_eq_ok.mp parsed
    have paired := Outline.interfaces_readAt faultless
    obtain ⟨interface, _, readAt⟩ := exists_of_mem_forall₂ paired among
    exact absurd readAt.faultless (reached.fault? malformed)

/-- The elements of a document have names, and conditions and collections that are trimmed and not
empty, but for a loop with two or more white space characters in the place of its collection. A header
with any amount of white space in the place of its condition, or less than two white space characters in
that of its collection, is a fault wherever it is met in an interface. -/
theorem Document.elements_present (source : Text) :
    (∀ document, parse source = .ok document →
      ∀ interface ∈ document.interfaces, ∀ element ∈ interface.walk,
        ∃ line ∈ Line.ofSource source, line.Heads element ∧
          (element.IsPresent ∨ ∃ item gap body, Header.VacantLoop item gap line.text ∧
            2 ≤ gap.length ∧ element = .iteration item [] body)) ∧
    ∀ place ∈ interfacePlaces (Line.ofSource source), ∀ line,
      Node.Reaches line (members 1 place.2) → Header.Vacant line.text →
        ∃ fault, parse source = .error fault := by
  constructor
  · intro document parsed interface member element among
    obtain ⟨line, inSource, heads⟩ := exists_heads parsed member among
    exact ⟨line, inSource, heads, heads.isPresent⟩
  · intro place among line reached vacant
    exact parse_vacant among reached vacant

theorem Document.elements_present_nested :
    let source : Text :=
      "interface Home:\n  for_each post in  feed.posts :\n    when  ready  :\n      show card:\n"
    let other : Text := "interface Home:\n  show card:\n    when \t :\n"
    (∃ document, parse source = .ok document ∧ ∃ interface ∈ document.interfaces,
      interface.walk.length = 3 ∧ ∀ element ∈ interface.walk, ∃ line ∈ Line.ofSource source,
        line.Heads element ∧ element.IsPresent) ∧
    ∃ fault, parse other = .error fault := by
  intro source other
  constructor
  · have parsed := parse_eq_ok.mpr ⟨show (Outline.ofSource source).fault? = none by decide +kernel, rfl⟩
    have interfaces : ∃ interface ∈ (ofDeclarations (Outline.ofSource source).declarations).interfaces,
        interface.walk.length = 3 ∧ ∀ element ∈ interface.walk, element.IsPresent := by
      decide +kernel
    obtain ⟨interface, member, size, present⟩ := interfaces
    refine ⟨_, parsed, interface, member, size, fun element among => ?_⟩
    obtain ⟨line, inSource, heads, _⟩ :=
      (elements_present source).1 _ parsed interface member element among
    exact ⟨line, inSource, heads, present element among⟩
  · let line : Line := ⟨3, "    when \t :"⟩
    let below : List Line := [⟨2, "  show card:"⟩, line, ⟨4, ""⟩]
    have place : (⟨1, "interface Home:"⟩, below) ∈ interfacePlaces (Line.ofSource other) := by
      decide +kernel
    have body : members 1 below = below := by decide +kernel
    have part : [line, ⟨4, ""⟩] ∈ Node.parts ⟨2, "  show card:"⟩ [line, ⟨4, ""⟩] := by decide +kernel
    refine (elements_present other).2 _ place line ?_ (.inl ⟨.whenWord, [' ', '\t', ' '], ?_, ?_⟩)
    · exact body ▸ .part part (.here _)
    · have isGap : Text.IsGap [' ', '\t', ' '] := by decide
      exact isGap.blank
    · decide +kernel

/-- Two spaces between `in` and the colon are read as a loop over nothing. -/
theorem Document.collection_missing : ∃ document,
    parse "interface home:\n  for_each post in  :\n" = .ok document ∧
      ∃ interface ∈ document.interfaces, ∃ element ∈ interface.walk, ¬element.IsPresent := by
  refine ⟨_, parse_eq_ok.mpr ⟨?_, rfl⟩, ?_⟩ <;> decide +kernel

end AppDescription
