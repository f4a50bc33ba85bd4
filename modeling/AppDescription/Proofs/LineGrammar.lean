import AppDescription.Proofs.LinePatterns

namespace AppDescription

namespace Text

/-- White space stands somewhere before the first colon. -/
def SpacedColon (text : Text) : Prop :=
  ∃ before after, text = before ++ ':' :: after ∧ ':' ∉ before ∧ ∃ c ∈ before, isBlank c

theorem spacedColon_iff {text : Text} :
    text.SpacedColon ↔ ':' ∈ text ∧ (text.takeWhile (· ≠ ':')).any isBlank := by
  rw [List.any_eq_true]
  constructor
  · rintro ⟨before, after, rfl, free, spaced⟩
    have run : (before ++ ':' :: after).takeWhile (· ≠ ':') = before := by
      refine Stops.takeWhile_append (fun c member => decide_eq_true ?_) (by simp)
      rintro rfl
      exact free member
    rw [run]
    exact ⟨by simp, spaced⟩
  · rintro ⟨colon, spaced⟩
    have free : ':' ∉ text.takeWhile (· ≠ ':') := fun member => by
      simpa using List.mem_takeWhile_imp member
    have whole : text.takeWhile (· ≠ ':') ++ text.dropWhile (· ≠ ':') = text :=
      List.takeWhile_append_dropWhile
    have stops := Stops.of_dropWhile (fun c => decide (c ≠ ':')) text
    cases found : text.dropWhile (· ≠ ':') with
    | nil =>
      rw [found, List.append_nil] at whole
      rw [whole] at free
      exact absurd colon free
    | cons c after =>
      rw [found, Stops.cons_iff] at stops
      obtain rfl : c = ':' := by simpa using stops
      exact ⟨_, after, by rw [← found, whole], free, spaced⟩

instance (text : Text) : Decidable text.SpacedColon :=
  decidable_of_iff _ spacedColon_iff.symm

/-- A text is what is left when it is trimmed at its end, and white space. -/
theorem exists_trimEnd_append (text : Text) :
    ∃ after, text = trimEnd text ++ after ∧ ∀ c ∈ after, isBlank c = true := by
  refine ⟨(text.reverse.takeWhile isBlank).reverse, ?_, ?_⟩
  · rw [trimEnd, ← List.reverse_append, List.takeWhile_append_dropWhile, List.reverse_reverse]
  · intro c member
    exact List.mem_takeWhile_imp (List.mem_reverse.mp member)

end Text

namespace LineKind

variable (kind : LineKind)

theorem keyword?_eq : kind.keyword? = kind.record.keyword := by
  cases kind <;> rfl

theorem key?_eq : kind.key? = kind.record.key := by
  cases kind <;> rfl

theorem value?_eq : kind.value? = kind.record.value := by
  cases kind <;> rfl

end LineKind

namespace LineRecord

variable {word rest : Text}

theorem word?_eq (all : ∀ c ∈ word, isWord c = true) (stops : Stops isWord rest) :
    Text.word? (word ++ rest) = if word = [] then none else some (word, rest) := by
  by_cases empty : word = []
  · subst empty
    have run : Text.wordRun rest = [] := stops.takeWhile_eq
    rw [if_pos rfl, List.nil_append, Text.word?, run]
    rfl
  · rw [if_neg empty, Text.word?_append empty all stops]

theorem setting?_word (all : ∀ c ∈ word, isWord c = true) (nonempty : word ≠ []) {after : Text}
    (oneLine : '\n' ∉ after) :
    setting? (word ++ ':' :: after) = some (word, Text.trim after) := by
  have found := Text.word?_append nonempty all
    (show Stops isWord (':' :: after) by simp [isWord_colon])
  have kept : '\n' ∉ Text.trim after := fun member => oneLine (Text.mem_of_mem_trim member)
  simp only [setting?, found, if_neg kept]

theorem setting?_plain (all : ∀ c ∈ word, isWord c = true) (stops : Stops isWord rest)
    (plain : ¬(word ≠ [] ∧ ∃ after, rest = ':' :: after)) : setting? (word ++ rest) = none := by
  rw [setting?, word?_eq all stops]
  split
  · rename_i found
    split at found
    · cases found
    · cases found
      exact absurd ⟨‹_›, _, rfl⟩ plain
  · rfl

end LineRecord

/-- What the grammar says of a line by the word its text starts with and what follows the word. -/
structure LineKind.Obeys (kind : LineKind) (word rest : Text) : Prop where
  keyword : kind.keyword? = if word = [] then none else some word
  /-- A colon right after the word makes a setting. -/
  setting : kind.record.shape = .property ∨ kind.record.shape = .literalMarker ↔
    word ≠ [] ∧ ∃ after, rest = ':' :: after
  parts : ∀ after, word ≠ [] → rest = ':' :: after →
    kind.key? = some word ∧ kind.keyword? = some word ∧ kind.value? = some (Text.trim after) ∧
      (kind.record.shape = .literalMarker ↔ Text.trim after = ['|'])
  /-- Any other line is a header or nothing known. -/
  plain : ¬(word ≠ [] ∧ ∃ after, rest = ':' :: after) →
    kind.key? = none ∧ kind.value? = none ∧
      (kind.record.shape = .header ↔ word ≠ [] ∧ (word ++ rest).SpacedColon) ∧
      (kind.record.shape ≠ .header → kind.record.shape = .other)

namespace LineKind

variable {kind : LineKind} {word rest : Text}

theorem ofText_shape {text : Text} (nonempty : text ≠ []) (noComment : text.head? ≠ some '#') :
    (ofText text).record.shape ≠ .blank ∧ (ofText text).record.shape ≠ .comment := by
  rw [← LineRecord.ofText_eq, LineRecord.ofText, if_neg nonempty, if_neg noComment]
  dsimp only
  split <;> split <;> simp

theorem ofText_comment {text : Text} (hash : text.head? = some '#') : ofText text = .comment := by
  obtain ⟨rest, rfl⟩ := List.head?_eq_some_iff.mp hash
  rfl

theorem ofText_eq_blank {text : Text} : ofText text = .blank ↔ text = [] := by
  constructor
  · intro same
    by_contra nonempty
    have noComment : text.head? ≠ some '#' := by
      intro hash
      rw [ofText_comment hash] at same
      cases same
    exact (ofText_shape nonempty noComment).1 (by rw [same]; rfl)
  · rintro rfl
    rfl

theorem ofText_eq_comment {text : Text} : ofText text = .comment ↔ text.head? = some '#' := by
  refine ⟨fun same => ?_, ofText_comment⟩
  by_contra noComment
  have nonempty : text ≠ [] := by
    rintro rfl
    cases same
  exact (ofText_shape nonempty noComment).2 (by rw [same]; rfl)

theorem obeys_of_setting {after : Text} (named : word ≠ [])
    (record : kind.record = ⟨if Text.trim after = ['|'] then .literalMarker else .property,
      some word, some word, some (Text.trim after)⟩) : kind.Obeys word (':' :: after) := by
  refine ⟨?_, ?_, ?_, ?_⟩
  · rw [keyword?_eq, record, if_neg named]
  · refine iff_of_true ?_ ⟨named, after, rfl⟩
    rw [record]
    dsimp only
    split
    · exact .inr rfl
    · exact .inl rfl
  · rintro _ _ ⟨⟩
    rw [key?_eq, keyword?_eq, value?_eq, record]
    refine ⟨rfl, rfl, rfl, ?_⟩
    dsimp only
    split <;> simp [*]
  · intro plain
    exact absurd ⟨named, after, rfl⟩ plain

theorem obeys_of_plain (plain : ¬(word ≠ [] ∧ ∃ after, rest = ':' :: after))
    (record : kind.record = ⟨if word ≠ [] ∧ (word ++ rest).SpacedColon then .header else .other,
      if word = [] then none else some word, none, none⟩) : kind.Obeys word rest := by
  have shape : kind.record.shape =
      if word ≠ [] ∧ (word ++ rest).SpacedColon then .header else .other := by rw [record]
  refine ⟨?_, ?_, ?_, ?_⟩
  · rw [keyword?_eq, record]
  · refine iff_of_false ?_ plain
    rw [shape]
    split <;> simp
  · intro after named colon
    exact absurd ⟨named, after, colon⟩ plain
  · intro _
    rw [key?_eq, value?_eq, shape, record]
    refine ⟨rfl, rfl, ?_, ?_⟩ <;> split <;> simp [*]

theorem ofText_obeys {text : Text} (nonempty : text ≠ [])
    (noComment : text.head? ≠ some '#') (oneLine : '\n' ∉ text) (cut : text = word ++ rest)
    (all : ∀ c ∈ word, isWord c = true) (stops : Stops isWord rest) :
    (ofText text).Obeys word rest := by
  have record := (LineRecord.ofText_eq text).symm
  have keyword : (Text.word? text).map Prod.fst = if word = [] then none else some word := by
    rw [cut, LineRecord.word?_eq all stops]
    split <;> rfl
  rw [LineRecord.ofText, if_neg nonempty, if_neg noComment] at record
  simp only [keyword] at record
  by_cases set : word ≠ [] ∧ ∃ after, rest = ':' :: after
  · obtain ⟨named, after, rfl⟩ := set
    have solid : '\n' ∉ after := fun member => oneLine (by simp [cut, member])
    have setting : LineRecord.setting? text = some (word, Text.trim after) := by
      rw [cut, LineRecord.setting?_word all named solid]
    simp only [setting, if_neg named] at record
    exact obeys_of_setting named record
  · have unset : LineRecord.setting? text = none := by
      rw [cut, LineRecord.setting?_plain all stops set]
    simp only [unset] at record
    -- Without a word white space before the colon makes no header.
    have spaced : (if word = [] then none else some word).isSome ∧ ':' ∈ text ∧
        (text.takeWhile (· ≠ ':')).any isBlank ↔ word ≠ [] ∧ (word ++ rest).SpacedColon := by
      rw [← Text.spacedColon_iff, cut]
      by_cases empty : word = [] <;> simp [empty]
    exact obeys_of_plain set (record.trans (by simp only [spaced]))

end LineKind

/-- A line is a text between white space, and all but its indentation comes from the text. On one line
the kind is just what its grammar says, and what matching the patterns of lines tells. -/
theorem lines_classified (line : Line) (oneLine : '\n' ∉ line.raw) :
    (∃ before after, line.raw = before ++ line.text ++ after ∧ before.length = line.indent ∧
      (∀ c ∈ before, isBlank c) ∧ (∀ c ∈ after, isBlank c) ∧ Stops isBlank line.text ∧
      ∀ c, line.text.getLast? = some c → isBlank c = false) ∧
    (∀ (other : Line) (before after : Text), other.raw = before ++ line.text ++ after →
      (∀ c ∈ before, isBlank c) → (∀ c ∈ after, isBlank c) →
        other.text = line.text ∧ other.kind = line.kind) ∧
    line.kind.record = LineRecord.ofPatterns line.text ∧
    (line.kind = .blank ↔ line.text = []) ∧ (line.kind = .comment ↔ line.text.head? = some '#') ∧
    (line.text ≠ [] → line.text.head? ≠ some '#' → ∀ word rest, line.text = word ++ rest →
      (∀ c ∈ word, isWord c) → Stops isWord rest → line.kind.Obeys word rest) := by
  have ends : ∀ c, line.text.getLast? = some c → isBlank c = false :=
    fun c last => Text.getLast?_trim last
  refine ⟨?_, ?_, ?_, ?_, ?_, ?_⟩
  · obtain ⟨after, whole, blank⟩ := Text.exists_trimEnd_append (Text.trimStart line.raw)
    refine ⟨line.raw.takeWhile isBlank, after, ?_, rfl,
      fun c member => List.mem_takeWhile_imp member, blank, Text.stops_trim line.raw, ends⟩
    rw [Line.text, Text.trim, List.append_assoc, ← whole, Text.trimStart,
      List.takeWhile_append_dropWhile]
  · intro other before after same front back
    have text : other.text = line.text := by
      rw [Line.text, same, Text.trim_append _ back, Text.trim_blanks_append front, Line.text,
        Text.trim_trim]
    exact ⟨text, by rw [Line.kind, text, Line.kind]⟩
  · rw [LineRecord.ofPatterns_eq ends, LineRecord.ofText_eq, Line.kind]
  · exact LineKind.ofText_eq_blank
  · exact LineKind.ofText_eq_comment
  · intro nonempty noComment word rest cut all stops
    have solid : '\n' ∉ line.text := fun member => oneLine (Text.mem_of_mem_trim member)
    exact LineKind.ofText_obeys nonempty noComment solid cut all stops

/-- White space before the key and around the marker is no part of either. -/
theorem lines_classified_marker :
    '\n' ∉ "\t text:  | ".toList ∧
      (⟨7, "\t text:  | ".toList⟩ : Line).kind.key? = some "text".toList ∧
      (⟨7, "\t text:  | ".toList⟩ : Line).kind.value? = some ['|'] ∧
      (⟨7, "\t text:  | ".toList⟩ : Line).kind.record.shape = .literalMarker := by
  have oneLine : '\n' ∉ "\t text:  | ".toList := by decide
  have text : (⟨7, "\t text:  | ".toList⟩ : Line).text = "text:  |".toList := by decide +kernel
  have named : "text".toList.all isWord = true := by decide +kernel
  have stops : Stops isWord ":  |".toList := by simp [isWord_colon]
  have obeys := (lines_classified ⟨7, "\t text:  | ".toList⟩ oneLine).2.2.2.2.2
    (by rw [text]; decide) (by rw [text]; decide) "text".toList ":  |".toList (by rw [text]; rfl)
    (List.all_eq_true.mp named) stops
  obtain ⟨key, -, value, marker⟩ := obeys.parts "  |".toList (by decide) rfl
  have trimmed : Text.trim "  |".toList = ['|'] := by decide
  exact ⟨oneLine, key, by rw [value, trimmed], marker.mpr trimmed⟩

end AppDescription
