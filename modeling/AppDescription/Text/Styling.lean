import AppDescription.Text.Basic

namespace AppDescription.Text

def isStylingParameter (c : Char) : Bool :=
  c.isDigit || c = ';' || c = '?'

/-- What follows a terminal styling sequence at the start of a text: an escape character, a bracket,
parameters and a letter. -/
def afterStyling? : Text → Option Text
  | '\x1b' :: '[' :: rest =>
    match rest.dropWhile isStylingParameter with
    | c :: more => if c.isAlpha then some more else none
    | [] => none
  | _ => none

theorem afterStyling?_length_lt {text rest : Text} (found : afterStyling? text = some rest) :
    rest.length < text.length := by
  unfold afterStyling? at found
  split at found
  · rename_i inside
    have shorter := (List.dropWhile_suffix (l := inside) isStylingParameter).length_le
    split at found
    · rename_i c more dropped
      split at found
      · rw [dropped] at shorter
        rw [← Option.some.inj found]
        simp only [List.length_cons] at shorter ⊢
        omega
      · simp at found
    · simp at found
  · simp at found

/-- A text without its terminal styling. -/
def withoutStyling : Text → Text
  | [] => []
  | c :: rest =>
    match _found : afterStyling? (c :: rest) with
    | some more => withoutStyling more
    | none => c :: withoutStyling rest
termination_by text => text.length
decreasing_by
  · exact afterStyling?_length_lt _found
  · simp

end AppDescription.Text
