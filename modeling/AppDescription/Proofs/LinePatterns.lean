import AppDescription.Proofs.LineRecord
import AppDescription.Proofs.Pattern

namespace AppDescription

namespace Text

/-- What stands before the first colon. -/
theorem splitOn_head? (separator : Char) (text : Text) :
    (splitOn separator text).head? = some (text.takeWhile (· ≠ separator)) := by
  induction text with
  | nil => rfl
  | cons c text ih =>
    rw [splitOn]
    by_cases same : c = separator
    · simp [same]
    · obtain ⟨others, pieces⟩ := List.head?_eq_some_iff.mp ih
      simp [same, pieces]

/-- White space before a text is not part of the trimmed text. -/
theorem trim_blanks_append {gap : Text} (all : ∀ c ∈ gap, isBlank c = true) (text : Text) :
    trim (gap ++ text) = trim text := by
  rw [trim, trimStart, List.dropWhile_append_of_pos all, trim, trimStart]

end Text

namespace LineRecord

/-- A word, a colon, and the rest of the line past white space. -/
def settingPattern : Pattern :=
  [.many 1 isWord, .one (· = ':'), .many 0 isBlank, .many 0 (· ≠ '\n'), .ending]

def wordPattern : Pattern :=
  [.many 1 isWord]

def blankPattern : Pattern :=
  [.one isBlank]

/-- Fills in the record of a line by matching its text against patterns. -/
def ofPatterns (text : Text) : LineRecord :=
  if text = [] then ⟨.blank, none, none, none⟩
  else if text.head? = some '#' then ⟨.comment, none, none, none⟩
  else
    let keyword := (wordPattern.first? text).bind List.head?
    match settingPattern.first? text with
    | some [key, _, _, value, _] =>
      ⟨if Text.trim value = ['|'] then .literalMarker else .property, keyword, some key,
        some (Text.trim value)⟩
    | _ =>
      ⟨if keyword.isSome ∧ ':' ∈ text ∧
          blankPattern.occurs ((Text.splitOn ':' text).head?.getD []) then .header else .other,
        keyword, none, none⟩

theorem mem_setting_readings {text : Text} {parts : List Text} :
    parts ∈ settingPattern.readings text ↔
      ∃ key gap value tail, parts = [key, [':'], gap, value, []] ∧
        text = key ++ ':' :: (gap ++ (value ++ tail)) ∧ key ≠ [] ∧ (∀ c ∈ key, isWord c = true) ∧
        (∀ c ∈ gap, isBlank c = true) ∧ '\n' ∉ value ∧ (tail = [] ∨ tail = ['\n']) := by
  simp only [settingPattern, Pattern.mem_readings_cons, PatternPart.mem_many_ways,
    PatternPart.mem_one_ways, PatternPart.mem_ending_ways, Pattern.mem_readings_nil]
  constructor
  · rintro ⟨key, _, _, ⟨rfl, word, nonempty⟩, ⟨_, _, _, ⟨c, colon, rfl, rfl⟩,
      ⟨gap, _, _, ⟨rfl, blank, _⟩, ⟨value, tail, _, ⟨rfl, solid, _⟩,
        ⟨_, _, _, ⟨rfl, rfl, ending⟩, rfl, rfl⟩, rfl⟩, rfl⟩, rfl⟩, rfl⟩
    obtain rfl := of_decide_eq_true colon
    refine ⟨key, gap, value, _, rfl, rfl, List.ne_nil_of_length_pos nonempty, word, blank, ?_, ending⟩
    intro member
    simpa using solid '\n' member
  · rintro ⟨key, gap, value, tail, rfl, rfl, nonempty, word, blank, solid, ending⟩
    refine ⟨key, _, _, ⟨rfl, word, List.length_pos_iff.mpr nonempty⟩,
      ⟨_, _, _, ⟨':', by simp, rfl, rfl⟩,
        ⟨gap, _, _, ⟨rfl, blank, Nat.zero_le _⟩, ⟨value, tail, _, ⟨rfl, ?_, Nat.zero_le _⟩,
          ⟨_, _, _, ⟨rfl, rfl, ending⟩, rfl, rfl⟩, rfl⟩, rfl⟩, rfl⟩, rfl⟩
    intro c member
    refine decide_eq_true ?_
    rintro rfl
    exact solid member

/-- However the parts of a setting are matched, they tell the same key and value. -/
theorem setting?_of_reading {text : Text} {parts : List Text}
    (trimmed : ∀ c, text.getLast? = some c → isBlank c = false)
    (reading : parts ∈ settingPattern.readings text) :
    ∃ key gap value, parts = [key, [':'], gap, value, []] ∧
      setting? text = some (key, Text.trim value) := by
  obtain ⟨key, gap, value, tail, rfl, rfl, nonempty, word, blank, solid, ending⟩ :=
    mem_setting_readings.mp reading
  -- Trimmed text does not end in a line break.
  have whole : tail = [] := by
    refine ending.resolve_right ?_
    rintro rfl
    have last : (key ++ ':' :: (gap ++ (value ++ ['\n']))).getLast? = some '\n' :=
      List.getLast?_eq_some_iff.mpr ⟨key ++ ':' :: (gap ++ value), by simp⟩
    exact absurd (trimmed '\n' last) (by decide)
  rw [whole, List.append_nil]
  have found := Text.word?_append nonempty word
    (show Stops isWord (':' :: (gap ++ value)) by simp [isWord_colon])
  have oneLine : '\n' ∉ Text.trim value := fun member => solid (Text.mem_of_mem_trim member)
  refine ⟨key, gap, value, rfl, ?_⟩
  simp only [setting?, found, Text.trim_blanks_append blank, if_neg oneLine]

/-- The longest parts of a setting match. -/
theorem reading_of_setting? {text key value : Text}
    (trimmed : ∀ c, text.getLast? = some c → isBlank c = false)
    (setting : setting? text = some (key, value)) : settingPattern.readings text ≠ [] := by
  unfold setting? at setting
  split at setting
  · rename_i word rest found
    obtain ⟨nonempty, all, _, rfl⟩ := Text.word?_eq_some found
    split at setting
    · cases setting
    · rename_i oneLine
      have gap : ∀ c ∈ rest.takeWhile isBlank, isBlank c = true :=
        fun c member => List.mem_takeWhile_imp member
      have parts : rest = rest.takeWhile isBlank ++ (rest.dropWhile isBlank ++ []) := by simp
      -- The line is trimmed, so past the white space after the colon there is nothing to trim.
      have solid : '\n' ∉ rest.dropWhile isBlank := by
        cases last : (rest.dropWhile isBlank).getLast? with
        | none => simp [List.getLast?_eq_none_iff.mp last]
        | some c =>
          have ends : (word ++ ':' :: rest).getLast? = some c := by
            obtain ⟨front, same⟩ := List.getLast?_eq_some_iff.mp last
            rw [List.append_nil, same] at parts
            rw [parts]
            exact List.getLast?_eq_some_iff.mpr
              ⟨word ++ ':' :: (rest.takeWhile isBlank ++ front), by simp⟩
          have settled := Text.trim_eq (Stops.of_dropWhile isBlank rest) ⟨c, last, trimmed c ends⟩
          rw [← settled, ← Text.trim_blanks_append gap, List.takeWhile_append_dropWhile]
          exact oneLine
      exact List.ne_nil_of_mem (mem_setting_readings.mpr
        ⟨word, _, _, [], rfl, by rw [← parts], nonempty, all, gap, solid, .inl rfl⟩)
  · cases setting

theorem first?_setting {text : Text}
    (trimmed : ∀ c, text.getLast? = some c → isBlank c = false) :
    (∃ key gap value, settingPattern.first? text = some [key, [':'], gap, value, []] ∧
      setting? text = some (key, Text.trim value)) ∨
    settingPattern.first? text = none ∧ setting? text = none := by
  cases first : settingPattern.first? text with
  | some parts =>
    obtain ⟨key, gap, value, rfl, setting⟩ :=
      setting?_of_reading trimmed (List.mem_of_head? first)
    exact .inl ⟨key, gap, value, rfl, setting⟩
  | none =>
    refine .inr ⟨rfl, ?_⟩
    cases setting : setting? text with
    | none => rfl
    | some parts =>
      exact absurd (List.head?_eq_none_iff.mp first) (reading_of_setting? trimmed setting)

/-- Matching a trimmed text against patterns comes to reading it once from left to right. -/
theorem ofPatterns_eq {text : Text} (trimmed : ∀ c, text.getLast? = some c → isBlank c = false) :
    ofPatterns text = ofText text := by
  have keyword : (wordPattern.first? text).bind List.head? = (Text.word? text).map Prod.fst := by
    rw [wordPattern, Pattern.first?_many, Text.word?, Text.wordRun]
    cases text.takeWhile isWord <;> rfl
  have spaced : blankPattern.occurs ((Text.splitOn ':' text).head?.getD []) =
      (text.takeWhile (· ≠ ':')).any isBlank := by
    rw [blankPattern, Pattern.occurs_one, Text.splitOn_head?, Option.getD_some]
  unfold ofPatterns ofText
  rcases first?_setting trimmed with ⟨key, gap, value, first, setting⟩ | ⟨first, setting⟩
  · simp only [first, setting, keyword]
  · simp only [first, setting, keyword, spaced]

end LineRecord

end AppDescription
