import AppDescription.Vue.Attribute

namespace AppDescription

/-- Unquoting takes the last character off together with the first if both are the same quote, and
nothing else. -/
theorem Text.unquote_concat {quote : Char} (opens : Vue.isQuote quote = true) (content : Text)
    (closing : Char) : unquote (quote :: (content ++ [closing])) =
      if closing = quote then content else quote :: (content ++ [closing]) := by
  have quotes : quote = '"' ∨ quote = '\'' := by simpa [Vue.isQuote] using opens
  by_cases same : closing = quote <;> simp [unquote, quotes, same]

theorem Text.unquote_singleton (c : Char) : unquote [c] = [c] := by simp [unquote]

namespace Vue

/-- The keys whose values become the text inside an element. -/
def textKeys : List Text :=
  ["text", "label"]

/-- Only the last of the values that become text counts. -/
theorem content?_last {before after : Properties} {key value : Text} (textual : key ∈ textKeys)
    (last : ∀ entry ∈ after, entry.1 ∉ textKeys) :
    content? (before ++ (key, value) :: after) = some (contentOf value) := by
  have kept (entry : Text × Text) :
      (entry.1 = "text".toList || entry.1 = "label".toList : Bool) = decide (entry.1 ∈ textKeys) := by
    simp [textKeys]
  have ended : after.filter (fun entry => decide (entry.1 ∈ textKeys)) = [] :=
    List.filter_eq_nil_iff.mpr fun entry member => by simpa using last entry member
  simp only [content?, kept, List.filter_append, List.filter_cons, textual, decide_true, if_true,
    ended, List.getLast?_append, List.getLast?_singleton, Option.some_or, Option.map_some]

theorem contentOf_static {quote : Char} {rest : Text} (opens : isQuote quote = true)
    (static : isDynamic (quote :: rest) = false) : contentOf (quote :: rest) = rest.dropLast := by
  simp [contentOf, static, opens]

/-- The text inside an element is the last of the values that become text. A static one that opens
with a quote goes in without that quote and without its last character, whatever it is. That is the
value without its quotes exactly if the last character is the quote that closes it. -/
theorem content?_static {before after : Properties} {key rest : Text} {quote : Char}
    (textual : key ∈ textKeys) (last : ∀ entry ∈ after, entry.1 ∉ textKeys)
    (opens : isQuote quote = true) (static : isDynamic (quote :: rest) = false) :
    ∃ content closing : Text,
      content? (before ++ (key, quote :: rest) :: after) = some content ∧
      rest = content ++ closing ∧ closing.length = min 1 rest.length ∧
      (content = Text.unquote (quote :: rest) ↔ closing = [quote]) := by
  rw [content?_last textual last, contentOf_static opens static]
  rcases List.eq_nil_or_concat rest with rfl | ⟨content, c, rfl⟩
  · exact ⟨[], [], rfl, rfl, rfl, by simp [Text.unquote_singleton]⟩
  · refine ⟨content, [c], by simp, by simp, by simp, ?_⟩
    rw [List.concat_eq_append, Text.unquote_concat opens]
    by_cases same : c = quote
    · simp [same]
    · have longer : content ≠ quote :: (content ++ [c]) := by
        intro equal
        have lengths := congrArg List.length equal
        simp only [List.length_cons, List.length_append, List.length_nil] at lengths
        omega
      simp [same, longer]

/-- A label after a text, with another quote inside. -/
theorem content?_static_label :
    let properties : Properties := [("text", "\"a\""), ("label", "'it\"s'"), ("icon", "star")]
    "label".toList ∈ textKeys ∧ isDynamic "'it\"s'" = false ∧
      ∃ content closing : Text, content? properties = some content ∧
        "it\"s'".toList = content ++ closing ∧ closing.length = 1 ∧
        (content = Text.unquote "'it\"s'" ↔ closing = ['\'']) := by
  intro properties
  have textual : "label".toList ∈ textKeys := by decide
  have last : ∀ entry ∈ ([("icon".toList, "star".toList)] : Properties), entry.1 ∉ textKeys := by
    decide
  have static : isDynamic "'it\"s'" = false := by decide
  exact ⟨textual, static, @content?_static [("text", "\"a\"")] _ _ _ _ textual last rfl static⟩

/-- A text whose quote is left open loses its last letter. -/
theorem content?_open_quote :
    isDynamic "\"Hello" = false ∧ content? [("text", "\"Hello")] = some "Hell".toList ∧
      Text.unquote "\"Hello" = "\"Hello".toList := by
  decide

end Vue

end AppDescription
