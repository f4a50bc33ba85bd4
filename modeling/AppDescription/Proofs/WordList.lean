import AppDescription.Proofs.DeclaredNames
import AppDescription.Proofs.Gaps

namespace AppDescription

/-- A text is spelled with words, one after another. White space stands between two of them, and may
stand before the first and after the last. -/
inductive Text.Spells : Text → List Text → Prop
  | nil {gap : Text} : (∀ c ∈ gap, isBlank c = true) → Spells gap []
  | cons {gap word rest : Text} {words : List Text} : (∀ c ∈ gap, isBlank c = true) →
      word.IsToken → rest.Breaks → Spells rest words →
      Spells (gap ++ (word ++ rest)) (word :: words)

namespace Text

theorem words_blank {gap : Text} (blank : ∀ c ∈ gap, isBlank c = true) (rest : Text) :
    words (gap ++ rest) = words rest := by
  induction gap with
  | nil => rfl
  | cons c gap ih =>
    obtain ⟨first, others⟩ := List.forall_mem_cons.mp blank
    rw [List.cons_append, words.eq_def]
    simp only [if_pos first, ih others]

/-- A word that is followed by white space, or by nothing, is cut off as it stands. -/
theorem words_token {word rest : Text} (isToken : word.IsToken)
    (apart : Breaks rest) : words (word ++ rest) = word :: words rest := by
  obtain ⟨nonempty, solid⟩ := isToken
  induction word with
  | nil => exact absurd rfl nonempty
  | cons c word ih =>
    obtain ⟨first, others⟩ := List.forall_mem_cons.mp solid
    have shown : ¬isBlank c := by simp [first]
    cases word with
    | nil =>
      cases rest with
      | nil => simp [words, first]
      | cons next rest =>
        have blank : isBlank next = true := by simpa using Stops.cons_iff.mp apart
        rw [List.singleton_append, words, if_neg shown]
        simp only [if_pos blank]
    | cons next word =>
      have next' : ¬isBlank next := by simp [others next List.mem_cons_self]
      have more := ih (by simp) others
      rw [List.cons_append] at more
      rw [List.cons_append, List.cons_append, words, if_neg shown]
      simp only [if_neg next', more]

theorem Spells.words_eq {text : Text} {list : List Text} (spells : text.Spells list) :
    words text = list := by
  induction spells with
  | nil blank => simpa [words] using words_blank blank []
  | cons blank isToken apart _ ih => rw [words_blank blank, words_token isToken apart, ih]

/-- One word spells itself. -/
theorem IsToken.spells {word : Text} (isToken : word.IsToken) : word.Spells [word] := by
  have alone : Spells ([] ++ (word ++ [])) [word] :=
    .cons (by simp) isToken .nil (.nil (by simp))
  rwa [List.append_nil] at alone

theorem Spells.blank_append {gap text : Text} {list : List Text}
    (blank : ∀ c ∈ gap, isBlank c = true) (spells : text.Spells list) :
    Spells (gap ++ text) list := by
  cases spells with
  | nil more => exact .nil (List.forall_mem_append.mpr ⟨blank, more⟩)
  | cons more isToken apart others =>
    rw [← List.append_assoc]
    exact .cons (List.forall_mem_append.mpr ⟨blank, more⟩) isToken apart others

/-- A word and a space may be put in front. -/
theorem Spells.cons_space {text word : Text} {list : List Text} (spells : text.Spells list)
    (isToken : word.IsToken) : Spells (word ++ ' ' :: text) (word :: list) := by
  have start : Spells ([' '] ++ text) list := spells.blank_append isBlank_of_mem_space
  have whole : Spells ([] ++ (word ++ ' ' :: text)) (word :: list) :=
    .cons (by simp) isToken (Stops.cons_iff.mpr (by decide)) start
  exact whole

/-- Texts that are kept apart by white space spell their words one after the other. -/
theorem Spells.append {text tail : Text} {list more : List Text} (spells : text.Spells list)
    (tailSpells : tail.Spells more) (apart : Breaks tail) :
    Spells (text ++ tail) (list ++ more) := by
  induction spells with
  | nil blank => exact tailSpells.blank_append blank
  | @cons gap word rest words blank isToken wordApart _ ih =>
    have stops : Breaks (rest ++ tail) := by
      cases rest with
      | nil => exact apart
      | cons c rest => exact wordApart.append (by simp)
    rw [List.append_assoc, List.append_assoc, List.cons_append]
    exact .cons blank isToken stops ih

/-- Every text is spelled with some words: the white space in front, a word, and the rest. -/
theorem exists_spells (text : Text) : ∃ list, text.Spells list := by
  have cut := (List.takeWhile_append_dropWhile (p := isBlank) (l := text)).symm
  have blank : ∀ c ∈ text.takeWhile isBlank, isBlank c = true := fun _ => List.mem_takeWhile_imp
  have stops := Stops.of_dropWhile isBlank text
  cases start : text.dropWhile isBlank with
  | nil =>
    rw [start, List.append_nil] at cut
    exact ⟨[], .nil (cut ▸ blank)⟩
  | cons c rest =>
    rw [start] at cut stops
    have shown : isBlank c = false := Stops.cons_iff.mp stops
    have shorter : (rest.dropWhile fun c => !isBlank c).length < text.length := by
      have left := (List.dropWhile_suffix (l := rest) fun c => !isBlank c).length_le
      have whole := congrArg List.length cut
      rw [List.length_append, List.length_cons] at whole
      omega
    obtain ⟨list, spells⟩ := exists_spells (rest.dropWhile fun c => !isBlank c)
    have solid : ∀ d ∈ c :: rest.takeWhile fun c => !isBlank c, isBlank d = false :=
      List.forall_mem_cons.mpr ⟨shown, fun d mem => by simpa using List.mem_takeWhile_imp mem⟩
    have spelled := Spells.cons blank ⟨by simp, solid⟩ (Stops.of_dropWhile _ rest) spells
    rw [List.cons_append, List.takeWhile_append_dropWhile, ← cut] at spelled
    exact ⟨_, spelled⟩
termination_by text.length

/-- A text is spelled with its own words, and with no others. -/
theorem spells_iff {text : Text} {list : List Text} : text.Spells list ↔ words text = list :=
  ⟨Spells.words_eq, fun same => by
    obtain ⟨list, spells⟩ := exists_spells text
    rwa [← same, spells.words_eq]⟩

instance decidableSpells (text : Text) (list : List Text) : Decidable (text.Spells list) :=
  decidable_of_iff _ spells_iff.symm

/-- A text without words holds white space only. -/
theorem words_eq_nil_iff {text : Text} : words text = [] ↔ ∀ c ∈ text, isBlank c = true := by
  rw [← spells_iff]
  constructor
  · rintro ⟨blank⟩
    exact blank
  · exact Spells.nil

end Text

end AppDescription
