import AppDescription.Proofs.TextForm
import AppDescription.Vue.Component

namespace AppDescription

theorem Text.join_cons (separator piece : Text) (pieces : List Text) :
    Text.join separator (piece :: pieces) =
      piece ++ pieces.flatMap fun other => separator ++ other := by
  induction pieces generalizing piece with
  | nil => simp [Text.join]
  | cons next pieces ih => rw [Text.join, ih, List.flatMap_cons, List.append_assoc, List.append_assoc]

namespace Vue

/-- An attribute as a tag has it: a name, and a value between double quotes or none. -/
structure Mark where
  name : Text
  value? : Option Text
  deriving Repr, DecidableEq

/-- Whether a character can be part of a tag or of the name of an attribute. -/
def isPlain (c : Char) : Bool :=
  c ≠ ' ' && c ≠ '=' && c ≠ '>'

def isNoQuote (c : Char) : Bool :=
  c ≠ '"'

namespace Mark

def text (self : Mark) : Text :=
  match self.value? with
  | none => self.name
  | some value => Attribute.text ⟨self.name, value⟩

/-- Reads an attribute at the start of a text, up to the quote that ends its value. -/
def read? (text : Text) : Option (Mark × Text) :=
  let name := text.takeWhile isPlain
  match text.dropWhile isPlain with
  | '=' :: '"' :: rest =>
    match rest.dropWhile isNoQuote with
    | [] => none
    | _ :: more => some (⟨name, some (rest.takeWhile isNoQuote)⟩, more)
  | rest => some (⟨name, none⟩, rest)

theorem read?_length_le {text rest : Text} {mark : Mark} (found : read? text = some (mark, rest)) :
    rest.length ≤ text.length := by
  have shorter := (List.dropWhile_suffix (l := text) isPlain).length_le
  unfold read? at found
  dsimp only at found
  split at found
  · rename_i value after
    have quoted := (List.dropWhile_suffix (l := value) isNoQuote).length_le
    simp only [after, List.length_cons] at shorter
    split at found
    · cases found
    · rename_i more ended
      cases found
      simp only [ended, List.length_cons] at quoted
      omega
  · cases found
    exact shorter

/-- Reads attributes, each after a blank, up to the bracket that ends a tag. -/
def readAll? : Text → Option (List Mark)
  | [] => none
  | c :: rest =>
    if c = ' ' then
      match _found : read? rest with
      | none => none
      | some (mark, more) => (readAll? more).map (mark :: ·)
    else if c = '>' ∧ rest = [] then some []
    else none
termination_by text => text.length
decreasing_by
  have := read?_length_le _found
  simp only [List.length_cons]
  omega

/-- An attribute whose name and value end where they are seen to end. -/
structure IsDelimited (mark : Mark) : Prop where
  name : ∀ c ∈ mark.name, isPlain c = true
  value : ∀ value ∈ mark.value?, '"' ∉ value

theorem read?_text {mark : Mark} (delimited : mark.IsDelimited) {c : Char} {rest : Text}
    (ends : c = ' ' ∨ c = '>') : read? (mark.text ++ c :: rest) = some (mark, c :: rest) := by
  obtain ⟨name, value?⟩ := mark
  have plain : ∀ x ∈ name, isPlain x = true := delimited.name
  cases value? with
  | none =>
    have stops : Stops isPlain (c :: rest) := by rcases ends with rfl | rfl <;> simp [isPlain]
    have noValue : c ≠ '=' := by rcases ends with rfl | rfl <;> decide
    simp only [text, read?, stops.takeWhile_append plain, stops.dropWhile_append plain]
    split
    · rename_i same
      exact absurd (List.cons.inj same).1 noValue
    · rfl
  | some value =>
    have free : ∀ x ∈ value, isNoQuote x = true := by
      intro x member
      have other : x ≠ '"' := fun same => delimited.value value rfl (same ▸ member)
      simpa [isNoQuote] using other
    have whole : text ⟨name, some value⟩ ++ c :: rest =
        name ++ '=' :: '"' :: (value ++ '"' :: c :: rest) := by
      have quote : "=\"".toList = ['=', '"'] ∧ "\"".toList = ['"'] := by decide
      simp only [text, Attribute.text, quote, List.append_assoc, List.cons_append, List.nil_append]
    have stops : Stops isPlain ('=' :: '"' :: (value ++ '"' :: c :: rest)) := by simp [isPlain]
    have closes : Stops isNoQuote ('"' :: c :: rest) := by simp [isNoQuote]
    simp only [whole, read?, stops.takeWhile_append plain, stops.dropWhile_append plain,
      closes.takeWhile_append free, closes.dropWhile_append free]

/-- Delimited attributes are read back. -/
theorem readAll?_text {marks : List Mark} (delimited : ∀ mark ∈ marks, mark.IsDelimited) :
    readAll? ((marks.flatMap fun mark => ' ' :: mark.text) ++ ['>']) = some marks := by
  induction marks with
  | nil => simp [readAll?]
  | cons mark marks ih =>
    obtain ⟨first, later⟩ := List.forall_mem_cons.mp delimited
    obtain ⟨c, rest, next, ends⟩ : ∃ c rest,
        (marks.flatMap fun mark => ' ' :: mark.text) ++ ['>'] = c :: rest ∧ (c = ' ' ∨ c = '>') := by
      cases marks with
      | nil => exact ⟨'>', [], rfl, .inr rfl⟩
      | cons other marks => exact ⟨' ', _, rfl, .inl rfl⟩
    have read := ih later
    rw [List.flatMap_cons, List.append_assoc, next, List.cons_append, readAll?, if_pos rfl]
    rw [next] at read
    split
    · rename_i none
      cases none.symm.trans (read?_text first ends)
    · rename_i found
      cases found.symm.trans (read?_text first ends)
      rw [read, Option.map_some]

end Mark

/-- Reads a line that opens a tag: the tag and its attributes. -/
def readTag? (line : Text) : Option (Text × List Mark) :=
  match line.dropWhile (· = ' ') with
  | '<' :: rest =>
    (Mark.readAll? (rest.dropWhile isPlain)).map fun marks => (rest.takeWhile isPlain, marks)
  | _ => none

/-- A tag with its attributes, as the line that opens it has them. -/
def tagText (tag : Text) (marks : List Mark) : Text :=
  "<" ++ Text.join [' '] (tag :: marks.map Mark.text) ++ ">"

/-- A tag whose values have no quotes is read back from the line that opens it. -/
theorem readTag?_tagText {tag : Text} {marks : List Mark} (plain : ∀ c ∈ tag, isPlain c = true)
    (delimited : ∀ mark ∈ marks, mark.IsDelimited) (level : Nat) :
    readTag? (levelLine level (tagText tag marks)) = some (tag, marks) := by
  have written : tagText tag marks =
      '<' :: (tag ++ ((marks.flatMap fun mark => ' ' :: mark.text) ++ ['>'])) := by
    simp [tagText, Text.join_cons, List.flatMap_map]
  have stops : Stops isPlain ((marks.flatMap fun mark => ' ' :: mark.text) ++ ['>']) := by
    cases marks <;> simp [isPlain]
  have blanks : ∀ c ∈ List.replicate (2 * level) ' ', decide (c = ' ') = true := by simp
  rw [readTag?, levelLine, written, List.dropWhile_append_of_pos blanks]
  simp [stops.takeWhile_append plain, stops.dropWhile_append plain, Mark.readAll?_text delimited]

end Vue

end AppDescription
