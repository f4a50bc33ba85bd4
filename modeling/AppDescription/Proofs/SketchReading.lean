import AppDescription.Proofs.NodeReading
import AppDescription.Proofs.OutlineReading
import AppDescription.Proofs.Sketch

namespace AppDescription

theorem Text.blanks?_space {rest : Text} (stops : Stops isBlank rest) :
    blanks? (' ' :: rest) = some rest :=
  blanks?_append (List.cons_ne_nil ' ' []) isBlank_of_mem_space stops

theorem Phrase.stops_append (phrase : Phrase) (more : Text) : Stops isBlank (phrase.text ++ more) :=
  phrase.starts.append phrase.nonempty

theorem Word.stops_append (word : Word) (more : Text) : Stops isBlank (word.text ++ more) :=
  Header.stops_blank_word word.nonempty word.all more

theorem Word.word?_append (word : Word) {more : Text} (stops : Stops isWord more) :
    Text.word? (word.text ++ more) = some (word.text, more) :=
  Text.word?_append word.nonempty word.all stops

theorem Phrase.append_colon_ne (phrase : Phrase) : phrase.text ++ [':'] ≠ [':'] := by
  simpa using phrase.nonempty

namespace Header

theorem display?_bare (kind : Word) :
    display? ("show".toList ++ ' ' :: (kind.text ++ [':'])) = some (kind.text, none, []) := by
  have word : Text.word? (Text.trimStart [':']) = none := by decide +kernel
  have content : Text.colon? [':'] = some [] := rfl
  simp only [display?, Text.dropPrefix?_append, bind, Option.bind,
    Text.blanks?_space (kind.stops_append _), kind.word?_append (colon_stops []), word, content]
  rfl

theorem display?_named (kind name : Word) :
    display? ("show".toList ++ ' ' :: ((kind.text ++ ' ' :: name.text) ++ [':'])) =
      some (kind.text, some name.text, []) := by
  have trimmed : Text.trimStart (' ' :: (name.text ++ [':'])) = name.text ++ [':'] :=
    Stops.dropWhile_append isBlank_of_mem_space (name.stops_append [':'])
  have content : Text.colon? [':'] = some [] := rfl
  rw [List.append_assoc, List.cons_append]
  simp only [display?, Text.dropPrefix?_append, bind, Option.bind,
    Text.blanks?_space (kind.stops_append _), kind.word?_append (space_stops _), trimmed,
    name.word?_append (colon_stops []), content]
  rfl

theorem condition?_phrase (word : ConditionWord) (phrase : Phrase) :
    condition? word (word.text ++ ' ' :: (phrase.text ++ [':'])) = some phrase.text := by
  have last : (phrase.text ++ [':']).getLast? = some ':' := List.getLast?_concat
  have nonempty : phrase.text.isEmpty = false := by simpa using phrase.nonempty
  simp only [condition?, Text.dropPrefix?_append, bind, Option.bind,
    Text.blanks?_space (phrase.stops_append _), last, if_true, List.dropLast_concat, phrase.trimmed,
    nonempty, Bool.false_eq_true, if_false]

theorem iteration?_phrase (item : Word) (phrase : Phrase) :
    iteration? ("for_each".toList ++
        ' ' :: ((item.text ++ ' ' :: ("in".toList ++ ' ' :: phrase.text)) ++ [':'])) =
      some (item.text, phrase.text) := by
  have gap : Stops isBlank ("in".toList ++ ' ' :: (phrase.text ++ [':'])) :=
    (Word.known "in" (by decide +kernel)).stops_append _
  have last : (phrase.text ++ [':']).getLast? = some ':' := List.getLast?_concat
  have trimmed : Text.trimEnd phrase.text = phrase.text := by
    have whole := phrase.trimmed
    rwa [Text.trim, Text.trimStart, phrase.starts.dropWhile_eq] at whole
  rw [List.append_assoc, List.cons_append, List.append_assoc, List.cons_append]
  simp only [iteration?, Text.dropPrefix?_append, bind, Option.bind,
    Text.blanks?_space (item.stops_append _), item.word?_append (space_stops _),
    Text.blanks?_space gap, Text.blanks?_space (phrase.stops_append _), phrase.append_colon_ne,
    if_false, last, if_true, List.dropLast_concat, trimmed]

end Header

theorem BodyRole.ofLine_eq_opens {line : Line} {keyword : Text} {header : ElementHeader}
    (significant : line.isSignificant) (starts : line.keyword? = some keyword)
    (reading : ElementHeader.read? keyword line.text = some (.ok header)) :
    ofLine line = .opens header := by
  rw [ofLine, if_pos significant, starts, Option.bind_some, reading]

theorem LineKind.ofText_property {key value : Text} (word : Text.word? (key ++ ':' :: ' ' :: value) =
      some (key, ':' :: ' ' :: value)) (trimmed : Text.trim value = value) (oneLine : '\n' ∉ value)
    (inline : value ≠ ['|']) : ofText (key ++ ':' :: ' ' :: value) = .property key value := by
  have inside : Text.trim (' ' :: value) = value := trimmed
  unfold ofText
  split
  · rename_i empty
    simp at empty
  · rename_i rest hash
    have none : Text.word? (key ++ ':' :: ' ' :: value) = none := by
      rw [hash]
      simp [Text.word?, Text.wordRun, show isWord '#' = false by decide +kernel]
    rw [none] at word
    cases word
  · rw [word]
    simp only [inside, if_neg oneLine, if_neg inline]

namespace Row

theorem role_display (depth number : Nat) (kind : Word) (name : Option Word) :
    BodyRole.ofLine ((display depth kind name).line number) =
      .opens (.display kind.text (name.map Word.text) []) := by
  have reading : Header.display? (display depth kind name).text =
      some (kind.text, name.map Word.text, []) := by
    cases name with
    | none => exact Header.display?_bare kind
    | some name => exact Header.display?_named kind name
  have keyword : (display depth kind name).word.text = "show".toList := by cases name <;> rfl
  refine BodyRole.ofLine_eq_opens (isSignificant_line _ number) (keyword?_line _ number) ?_
  rw [text_line, keyword, ElementHeader.read?, if_pos rfl, reading]

theorem role_condition (depth number : Nat) (word : ConditionWord) (phrase : Phrase) :
    BodyRole.ofLine ((condition depth word phrase).line number) =
      .opens (.conditional word phrase.text) := by
  have reading : Header.condition? word (condition depth word phrase).text = some phrase.text :=
    Header.condition?_phrase word phrase
  refine BodyRole.ofLine_eq_opens (isSignificant_line _ number) (keyword?_line _ number) ?_
  rw [text_line]
  cases word with
  | whenWord =>
    change ElementHeader.read? "when".toList _ = _
    rw [ElementHeader.read?, if_neg (by decide), if_neg (by decide), if_pos rfl,
      ElementHeader.read?.conditional?, reading]
  | ifWord =>
    change ElementHeader.read? "if".toList _ = _
    rw [ElementHeader.read?, if_neg (by decide), if_neg (by decide), if_neg (by decide), if_pos rfl,
      ElementHeader.read?.conditional?, reading]

theorem role_iteration (depth number : Nat) (item : Word) (phrase : Phrase) :
    BodyRole.ofLine ((iteration depth item phrase).line number) =
      .opens (.iteration item.text phrase.text) := by
  have reading : Header.iteration? (iteration depth item phrase).text =
      some (item.text, phrase.text) := Header.iteration?_phrase item phrase
  refine BodyRole.ofLine_eq_opens (isSignificant_line _ number) (keyword?_line _ number) ?_
  rw [text_line]
  change ElementHeader.read? "for_each".toList _ = _
  rw [ElementHeader.read?, if_neg (by decide), if_pos rfl, reading]

theorem role_setting (depth number : Nat) (item : Assignment) :
    BodyRole.ofLine ((setting depth item).line number) =
      .property item.key.text item.value.text := by
  have kind : ((setting depth item).line number).kind =
      .property item.key.text item.value.text := by
    rw [Line.kind, text_line]
    exact LineKind.ofText_property (word?_text (setting depth item)) item.value.trimmed
      item.value.oneLine item.inline
  have filled : item.value.text.isEmpty = false := by simpa using item.value.nonempty
  have keyword : (setting depth item).word.text ∉ elementWords := item.plain
  have notElse : ¬Header.isElse (setting depth item).text := by
    intro spelled
    have colon : Stops isBlank (':' :: ' ' :: item.value.text) := Stops.cons_iff.mpr (by decide)
    have alone : ':' :: ' ' :: item.value.text = [':'] :=
      colon.dropWhile_eq.symm.trans
        (Header.word_of_isElse (word?_text (setting depth item)) spelled).2
    cases alone
  rw [BodyRole.ofLine, if_pos (isSignificant_line _ number), keyword?_line, Option.bind_some,
    ElementHeader.read?_plain keyword, kind, text_line]
  simp only [BodyRole.ofPlain, Header.not_isEventHandler (word?_text (setting depth item)),
    LineKind.isBareSection, LineKind.isBareKey, filled, notElse, Bool.false_and,
    Bool.false_eq_true, if_false]

end Row

end AppDescription
