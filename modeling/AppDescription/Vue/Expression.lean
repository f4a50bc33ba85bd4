import AppDescription.Text.Word
import AppDescription.Vue.Naming

namespace AppDescription.Vue

/-- What follows a word and white space at the start of a text. -/
def afterSpacedWord? (word text : Text) : Option Text := do
  let rest ← Text.dropPrefix? word text
  match rest with
  | c :: rest => if isBlank c then some (Text.trimStart rest) else none
  | [] => none

theorem trimStart_length_le (text : Text) : (Text.trimStart text).length ≤ text.length :=
  (List.dropWhile_suffix _).length_le

theorem afterSpacedWord?_length_le {word text rest : Text}
    (found : afterSpacedWord? word text = some rest) : rest.length ≤ text.length := by
  unfold afterSpacedWord? Text.dropPrefix? at found
  split at found
  · simp only [Option.bind_eq_bind, Option.bind_some] at found
    split at found
    · rename_i c more dropped
      split at found
      · simp only [Option.some.injEq] at found
        have total := congrArg List.length dropped
        have trimmed := trimStart_length_le more
        simp only [List.length_drop, List.length_cons] at total
        rw [← found]
        omega
      · simp at found
    · simp at found
  · simp at found

/-- Replaces a word that has white space on both sides, along with that white space. -/
def replaceSpacedWord (word replacement : Text) : Text → Text
  | [] => []
  | c :: rest =>
    if isBlank c then
      match _found : afterSpacedWord? word (Text.trimStart rest) with
      | some more => replacement ++ replaceSpacedWord word replacement more
      | none => c :: replaceSpacedWord word replacement rest
    else c :: replaceSpacedWord word replacement rest
termination_by text => text.length
decreasing_by
  · have := afterSpacedWord?_length_le _found
    have := trimStart_length_le rest
    simp only [List.length_cons]
    omega
  all_goals simp

/-- The word operators, the longer phrase before the words it is made of. -/
def wordOperators : List (Text × Text) :=
  [("not equals", " !== "), ("equals", " === "), ("and", " && "), ("or", " || "), ("not", " !")]

/-- Turns word operators into symbols, one operator after the other over the whole text. -/
def toScript (expression : Text) : Text :=
  wordOperators.foldl (fun text operator => replaceSpacedWord operator.1 operator.2 text) expression

/-- Replaces a `not` that stands at the very start. -/
def replaceLeadingNot (text : Text) : Text :=
  match afterSpacedWord? "not" text with
  | some rest => '!' :: rest
  | none => text

/-- Replaces each `not` that comes first inside parentheses. -/
def replaceParenthesizedNot : Text → Text
  | [] => []
  | c :: rest =>
    if c = '(' then
      match _found : afterSpacedWord? "not" (Text.trimStart rest) with
      | some more => "(!" ++ replaceParenthesizedNot more
      | none => c :: replaceParenthesizedNot rest
    else c :: replaceParenthesizedNot rest
termination_by text => text.length
decreasing_by
  · have := afterSpacedWord?_length_le _found
    have := trimStart_length_le rest
    simp only [List.length_cons]
    omega
  all_goals simp

/-- Lower case ASCII words joined by single underscores, at least two of them. -/
def isSnakeCase (word : Text) : Bool :=
  let parts := Text.splitOn '_' word
  2 ≤ parts.length && parts.all fun part => !part.isEmpty && part.all Char.isLower

/-- Maps every maximal run of word characters. -/
def mapWords (f : Text → Text) : Text → Text
  | [] => []
  | c :: rest =>
    if isWord c then f (c :: rest.takeWhile isWord) ++ mapWords f (rest.dropWhile isWord)
    else c :: mapWords f rest
termination_by text => text.length
decreasing_by
  all_goals
    have := (List.dropWhile_suffix (l := rest) isWord).length_le
    simp only [List.length_cons]
    omega

/-- A condition as it stands in a template directive: symbols for operators and camel case for
snake case names. -/
def toCondition (expression : Text) : Text :=
  mapWords (fun word => if isSnakeCase word then camelCase word else word)
    (replaceParenthesizedNot (replaceLeadingNot (toScript expression)))

/-- The body of the callback that computes a value. Functions are passed on as they are. -/
def computedBody (source : Option Text) : Text :=
  match source with
  | none | some [] => "return null; // No expression provided"
  | some source =>
    let expression := Text.trim source
    if (Text.dropPrefix? "function(" expression).isSome ||
        (Text.hasPart "=>" expression && !expression.contains '?') then
      "return " ++ expression ++ ";"
    else "return " ++ toScript expression ++ ";"

end AppDescription.Vue
