import AppDescription.Proofs.Foresight
import AppDescription.Proofs.Numbering

namespace AppDescription

namespace HeaderFault

theorem message_declaration (keyword text : Text) :
    message (.declaration (some keyword) text) =
      "Invalid " ++ keyword ++ " declaration: '" ++ text ++ "'" := rfl

theorem message_statement (keyword text : Text) :
    message (.statement keyword text) = "Invalid " ++ keyword ++ " statement: '" ++ text ++ "'" := rfl

end HeaderFault

/-- A fault stands on a line of the source, and is told by what that line starts with. -/
structure Fault.StandsIn (source : Text) (fault : Fault) : Prop where
  first : 1 ≤ fault.line.number
  last : fault.line.number ≤ (Text.splitOn '\n' source).length
  raw : (Text.splitOn '\n' source)[fault.line.number - 1]? = some fault.line.raw
  named : fault.NamesKeyword

theorem Place.text_of_snippet {place : Place} {snippet : Text} (shows : place.snippet = some snippet)
    (nonempty : snippet ≠ []) :
    place.text = (place.file.map Path.text).getD "<input>" ++ ":" ++ Text.ofInt place.line ++ ":" ++
      Text.ofInt place.column ++ "\n" ++ place.snippetText snippet := by
  obtain ⟨c, more, rfl⟩ := List.exists_cons_of_ne_nil nonempty
  unfold text
  rw [shows]

namespace Fault

/-- The place of a fault as `file:line:column`. -/
def position (fault : Fault) (file : Option Path) : Text :=
  (file.map Path.text).getD "<input>" ++ ":" ++ Text.ofNat fault.line.number ++ ":" ++
    Text.ofNat (fault.line.indent + 1)

/-- The line number and a rule. A number of more than four digits makes it wider. -/
def gutter (fault : Fault) : Text :=
  Text.padLeft 4 (Text.ofNat fault.line.number) ++ " | "

/-- What is wrong, by the first word of the line and all its text. -/
def explanation (fault : Fault) : Text :=
  "Invalid " ++ Text.wordRun fault.line.text ++
    (if fault.line.indent = 0 then " declaration: '".toList else " statement: '".toList) ++
      fault.line.text ++ "'"

/-- How a fault is shown: the marker starts under the first character of the line that is not white
space. -/
structure Shown (fault : Fault) (file : Option Path) : Prop where
  place : (fault.failure file).place =
    some ⟨file, fault.line.number, fault.line.indent + 1, some fault.line.raw⟩
  message : (fault.failure file).message = fault.explanation
  rows : ∃ (space : Text) (c : Char) (more : Text), fault.line.raw = space ++ c :: more ∧
    (∀ d ∈ space, isBlank d = true) ∧ isBlank c = false ∧
      Text.splitOn '\n' (fault.failure file).text = Text.splitOn '\n' (fault.position file) ++
        [fault.gutter ++ space ++ c :: more,
          List.replicate (fault.gutter ++ space).length ' ' ++ "^^^", fault.explanation]

theorem message_eq {fault : Fault} (named : fault.NamesKeyword) :
    fault.cause.message = fault.explanation := by
  rcases named with ⟨margin, _, cause⟩ | ⟨inside, _, cause⟩
  · rw [cause, HeaderFault.message_declaration]
    unfold explanation
    rw [if_pos margin]
  · rw [cause, HeaderFault.message_statement]
    unfold explanation
    rw [if_neg inside.ne']

theorem word_ne_nil {fault : Fault} (named : fault.NamesKeyword) :
    Text.wordRun fault.line.text ≠ [] := by
  rcases named with ⟨_, ⟨kind, word⟩, _⟩ | ⟨_, word, _⟩
  · rw [word]
    exact kind.keyword_ne_nil
  · rintro empty
    rw [empty] at word
    revert word
    decide

/-- The first character of a line that is not white space ends its indentation. -/
theorem raw_eq {fault : Fault} (named : fault.NamesKeyword) :
    ∃ (space : Text) (c : Char) (more : Text), fault.line.raw = space ++ c :: more ∧
      (∀ d ∈ space, isBlank d = true) ∧ isBlank c = false ∧ space.length = fault.line.indent := by
  have whole : fault.line.raw.takeWhile isBlank ++ Text.trimStart fault.line.raw = fault.line.raw :=
    List.takeWhile_append_dropWhile
  cases start : Text.trimStart fault.line.raw with
  | nil =>
    have empty : fault.line.text = [] := by rw [Line.text, Text.trim, start]; rfl
    exact absurd (by rw [empty]; rfl) (word_ne_nil named)
  | cons c more =>
    rw [start] at whole
    have solid : Stops isBlank (c :: more) := start ▸ Stops.of_dropWhile isBlank fault.line.raw
    exact ⟨_, c, more, whole.symm, fun d member => List.mem_takeWhile_imp member,
      Stops.cons_iff.mp solid, rfl⟩

theorem text_eq {fault : Fault} {space more : Text} {c : Char} (file : Option Path)
    (raw : fault.line.raw = space ++ c :: more) (length : space.length = fault.line.indent) :
    (fault.failure file).text = fault.position file ++ '\n' :: (fault.gutter ++ space ++ c :: more ++
      '\n' :: (List.replicate (fault.gutter ++ space).length ' ' ++ "^^^" ++
        '\n' :: fault.cause.message)) := by
  have nonempty : fault.line.raw ≠ [] := by simp [raw]
  have column : ((fault.gutter.length : Int) + (fault.line.indent + 1) - 1).toNat =
      (fault.gutter ++ space).length := by
    rw [List.length_append, length]
    omega
  calc (fault.failure file).text
      = fault.position file ++ "\n" ++ (fault.gutter ++ fault.line.raw ++ "\n" ++
          List.replicate ((fault.gutter.length : Int) + (fault.line.indent + 1) - 1).toNat ' ' ++
            "^^^") ++ "\n" ++ fault.cause.message := by
        unfold failure Failure.text
        dsimp only
        rw [Place.text_of_snippet rfl nonempty]
        rfl
    _ = _ := by
        rw [column, raw]
        simp [List.append_assoc]

theorem newline_not_mem_gutter (fault : Fault) : '\n' ∉ fault.gutter := by
  have digits : '\n' ∉ Text.ofNat fault.line.number := by
    intro member
    have digit := Nat.isDigit_of_mem_toDigits (by decide) (by decide) member
    revert digit
    decide
  simpa [gutter, Text.padLeft] using digits

theorem newline_not_mem_explanation {fault : Fault} (raw : '\n' ∉ fault.line.raw) :
    '\n' ∉ fault.explanation := by
  have text : '\n' ∉ fault.line.text := fun member => raw (Text.mem_of_mem_trim member)
  have word : '\n' ∉ Text.wordRun fault.line.text :=
    fun member => text ((List.takeWhile_sublist _).mem member)
  unfold explanation
  split <;> simp [text, word]

theorem shown {fault : Fault} (named : fault.NamesKeyword) (raw : '\n' ∉ fault.line.raw)
    (file : Option Path) : fault.Shown file where
  place := rfl
  message := message_eq named
  rows := by
    obtain ⟨space, c, more, whole, blank, solid, length⟩ := raw_eq named
    refine ⟨space, c, more, whole, blank, solid, ?_⟩
    have snippet : '\n' ∉ fault.gutter ++ space ++ c :: more := by
      rw [List.append_assoc, ← whole, List.mem_append, not_or]
      exact ⟨fault.newline_not_mem_gutter, raw⟩
    have marker : '\n' ∉ List.replicate (fault.gutter ++ space).length ' ' ++ "^^^".toList := by
      simp
    rw [text_eq file whole length, message_eq named, Text.splitOn_append, Text.splitOn_append,
      Text.splitOn_append, Text.splitOn_eq snippet, Text.splitOn_eq marker,
      Text.splitOn_eq (newline_not_mem_explanation raw)]
    rfl

end Fault

/-- The lines of a source down to a line make up those of any source that starts with them. -/
theorem Line.ofSource_of_take {source other : Text} {above tail : List Line} {line : Line}
    (split : Line.ofSource source = above ++ line :: tail)
    (same : (Text.splitOn '\n' other).take line.number =
      (Text.splitOn '\n' source).take line.number) :
    ∃ tail', Line.ofSource other = above ++ line :: tail' := by
  have number := (Line.of_numberFrom_eq_append split).1
  have shared : (Line.ofSource other).take line.number = above ++ [line] := by
    calc (Line.ofSource other).take line.number
        = (Line.ofSource source).take line.number := by
          unfold Line.ofSource
          rw [Line.numberFrom_take, Line.numberFrom_take, same]
      _ = above ++ [line] := by
          rw [split, number, Nat.add_comm, List.take_append, List.take_of_length_le (Nat.le_succ _)]
          simp
  refine ⟨(Line.ofSource other).drop line.number, ?_⟩
  conv => lhs; rw [← List.take_append_drop line.number (Line.ofSource other), shared]
  simp

/-- A fault stands on a line of the source, which is shown with a marker under its first character
that is not white space. Only the lines down to it matter: every other source that starts with them
has the same fault. -/
theorem Document.parse_fault {source : Text} {fault : Fault}
    (failed : Document.parse source = .error fault) :
    fault.StandsIn source ∧ (∀ file, fault.Shown file) ∧
      ∀ other, (Text.splitOn '\n' other).take fault.line.number =
        (Text.splitOn '\n' source).take fault.line.number → Document.parse other = .error fault := by
  have found := Document.parse_eq_error.mp failed
  obtain ⟨member, significant, named⟩ := Outline.mem_of_fault? found
  obtain ⟨above, tail, split⟩ := List.append_of_mem member
  obtain ⟨number, raw⟩ := Line.of_numberFrom_eq_append split
  have index : fault.line.number - 1 = above.length := by omega
  have within := (List.getElem?_eq_some_iff.mp raw).1
  refine ⟨⟨by omega, by omega, index ▸ raw, named⟩, fun file => ?_, fun other same => ?_⟩
  · exact Fault.shown named (Text.not_mem_of_mem_splitOn (List.mem_of_getElem? raw)) file
  · have later : fault.line ∉ tail := by
      intro among
      have increasing := Line.numberFrom_increasing 1 (Text.splitOn '\n' source)
      rw [show Line.numberFrom 1 (Text.splitOn '\n' source) = _ from split,
        List.pairwise_append] at increasing
      have before := List.rel_of_pairwise_cons increasing.2.1 among
      exact Nat.lt_irrefl _ before
    obtain ⟨tail', split'⟩ := Line.ofSource_of_take split same
    rw [Document.parse_eq_error, Outline.ofSource, split']
    rw [Outline.ofSource, split] at found
    rcases Outline.settled significant above with ⟨settled, always⟩ | never
    · exact (always tail').trans ((always tail).symm.trans found)
    · exact absurd (never tail fault found) later

/-- The `else` of a conditional holds a malformed element, indented with a tab. -/
theorem Document.parse_fault_below_else :
    let source : Text := "interface a:\n  when x:\n    show y:\n  else:\n\t\tshow\nlogic"
    let fault : Fault := ⟨⟨5, "\t\tshow"⟩, .statement "show" "show"⟩
    Document.parse source = .error fault ∧ fault.StandsIn source ∧ (∀ file, fault.Shown file) ∧
      ∀ other, (Text.splitOn '\n' other).take 5 = (Text.splitOn '\n' source).take 5 →
        Document.parse other = .error fault := by
  intro source fault
  have failed : Document.parse source = .error fault :=
    Document.parse_eq_error.mpr (by decide +kernel)
  exact ⟨failed, Document.parse_fault failed⟩

end AppDescription
