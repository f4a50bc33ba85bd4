import AppDescription.Proofs.TextForm

namespace AppDescription

/-- The kind of a line, apart from what the line holds. -/
inductive LineShape where
  | blank | comment | literalMarker | property | header | other
  deriving DecidableEq

/-- What is known of a line when each thing has a place of its own, which may be empty. -/
structure LineRecord where
  shape : LineShape
  keyword : Option Text
  key : Option Text
  value : Option Text

namespace LineRecord

/-- The key and the value of a text that starts with `key:`. -/
def setting? (text : Text) : Option (Text × Text) :=
  match Text.word? text with
  | some (key, ':' :: rest) => if '\n' ∈ Text.trim rest then none else some (key, Text.trim rest)
  | _ => none

/-- Fills in the record of a line from its text without surrounding white space. -/
def ofText (text : Text) : LineRecord :=
  if text = [] then ⟨.blank, none, none, none⟩
  else if text.head? = some '#' then ⟨.comment, none, none, none⟩
  else
    let keyword := (Text.word? text).map Prod.fst
    match setting? text with
    | some (key, value) =>
      ⟨if value = ['|'] then .literalMarker else .property, keyword, some key, some value⟩
    | none =>
      ⟨if keyword.isSome ∧ ':' ∈ text ∧ (text.takeWhile (· ≠ ':')).any isBlank then .header
        else .other, keyword, none, none⟩

end LineRecord

/-- The record of a line of a kind. -/
def LineKind.record : LineKind → LineRecord
  | .blank => ⟨.blank, none, none, none⟩
  | .comment => ⟨.comment, none, none, none⟩
  | .literalMarker key => ⟨.literalMarker, some key, some key, some ['|']⟩
  | .property key value => ⟨.property, some key, some key, some value⟩
  | .header keyword => ⟨.header, some keyword, none, none⟩
  | .other keyword => ⟨.other, keyword, none, none⟩

/-- Past its word a line without a setting is told apart by the white space before its colon. -/
theorem LineKind.record_of_word (spaced : Prop) [Decidable spaced] (word : Text) :
    (if spaced then LineKind.header word else .other (some word)).record =
      ⟨if (some word).isSome ∧ spaced then .header else .other, some word, none, none⟩ := by
  by_cases held : spaced <;> simp [held, record]

/-- There is no white space between a word and the colon right after it. -/
theorem noGap_of_word {word : Text} (all : ∀ c ∈ word, isWord c = true) (rest : Text) :
    ¬((word ++ ':' :: rest).takeWhile (· ≠ ':')).any isBlank := by
  have solid : ∀ c ∈ word, decide (c ≠ ':') = true := by
    intro c member
    refine decide_eq_true fun same => ?_
    rw [same] at member
    exact absurd (all ':' member) (by simp [isWord_colon])
  rw [Stops.takeWhile_append solid (by simp), List.any_eq_true]
  rintro ⟨c, member, blank⟩
  rw [isBlank_eq_false_of_isWord (all c member)] at blank
  cases blank

/-- The record of a line holds just what its kind says. -/
theorem LineRecord.ofText_eq (text : Text) : ofText text = (LineKind.ofText text).record := by
  unfold LineKind.ofText
  split
  · rfl
  · rfl
  · rename_i nonempty noComment
    have noHash : text.head? ≠ some '#' := by
      cases text with
      | nil => simp
      | cons c rest =>
        rintro hash
        exact noComment rest (congrArg (· :: rest) (Option.some.inj hash))
    rw [ofText, if_neg nonempty, if_neg noHash]
    cases found : Text.word? text with
    | none => simp [setting?, found, LineKind.record]
    | some parts =>
      obtain ⟨word, rest⟩ := parts
      obtain ⟨_, all, _, rfl⟩ := Text.word?_eq_some found
      cases rest with
      | nil =>
        simp only [setting?, found]
        exact (LineKind.record_of_word _ word).symm
      | cons c rest =>
        by_cases colon : c = ':'
        · subst colon
          simp only [setting?, found]
          by_cases broken : '\n' ∈ Text.trim rest
          · have noGap := noGap_of_word all rest
            simp only [if_pos broken]
            rw [if_neg fun held => noGap held.2.2]
            rfl
          · simp only [if_neg broken]
            by_cases marker : Text.trim rest = ['|'] <;> simp [marker, LineKind.record]
        · have none : setting? (word ++ c :: rest) = none := by
            rw [setting?, found]
            split
            · rename_i same
              cases same
              exact absurd rfl colon
            · rfl
          rw [none]
          refine (LineKind.record_of_word _ word).symm.trans (congrArg LineKind.record ?_)
          symm
          split
          · cases ‹some (word, c :: rest) = Option.none›
          · rename_i same
            cases same
            exact absurd rfl colon
          · rename_i same
            cases same
            rfl

/-- Every line that is said to hold a setting has a key for it. -/
theorem LineRecord.key_isSome {text : Text}
    (keeps : (ofText text).shape = .literalMarker ∨ (ofText text).shape = .property) :
    (ofText text).key.isSome := by
  rw [ofText_eq] at keeps ⊢
  cases kind : LineKind.ofText text with
  | literalMarker | property => rfl
  | _ => simp [kind, LineKind.record] at keeps

end AppDescription
