import Mathlib.Data.List.Basic
import AppDescription.Proofs.TextForm

namespace AppDescription

instance Stops.decidable (p : α → Bool) (list : List α) : Decidable (Stops p list) :=
  decidable_of_iff (list.head?.all fun x => !p x) (by cases list <;> simp)

/-- White space that separates words, of which there is some. -/
structure Text.IsGap (gap : Text) : Prop where
  nonempty : gap ≠ []
  blank : ∀ c ∈ gap, isBlank c = true

instance Text.decidableIsGap (gap : Text) : Decidable gap.IsGap :=
  decidable_of_iff (gap ≠ [] ∧ gap.all isBlank = true)
    ⟨fun both => ⟨both.1, List.all_eq_true.mp both.2⟩,
      fun isGap => ⟨isGap.nonempty, List.all_eq_true.mpr isGap.blank⟩⟩

namespace Text.IsGap

variable {gap : Text}

theorem space : IsGap [' '] :=
  ⟨by simp, isBlank_of_mem_space⟩

theorem notMem (isGap : gap.IsGap) {c : Char} (solid : isBlank c = false) : c ∉ gap := by
  intro member
  rw [isGap.blank c member] at solid
  cases solid

theorem stops_word (isGap : gap.IsGap) (rest : Text) : Stops isWord (gap ++ rest) := by
  obtain ⟨c, more, rfl⟩ := List.exists_cons_of_ne_nil isGap.nonempty
  have blank := isGap.blank c List.mem_cons_self
  exact Stops.cons_iff.mpr (isWord_eq_false_of_isBlank blank)

end Text.IsGap

namespace Text

variable {text more gap : Text} {c : Char}

theorem exists_gap (blank : AppDescription.isBlank c = true) (rest : Text) : ∃ gap more : Text,
    gap.IsGap ∧ Stops AppDescription.isBlank more ∧ c :: rest = gap ++ more := by
  refine ⟨c :: rest.takeWhile AppDescription.isBlank, rest.dropWhile AppDescription.isBlank,
    ⟨by simp, ?_⟩, .of_dropWhile _ rest, ?_⟩
  · exact List.forall_mem_cons.mpr ⟨blank, fun x member => List.mem_takeWhile_imp member⟩
  · rw [List.cons_append, List.takeWhile_append_dropWhile]

/-- A text before which a token ends. -/
def Breaks (rest : Text) : Prop :=
  Stops (fun c => !AppDescription.isBlank c) rest

theorem Breaks.nil : Breaks [] := Stops.nil

/-- A text that starts with white space. -/
def StartsBlank (text : Text) : Prop :=
  ∃ c rest, AppDescription.isBlank c = true ∧ text = c :: rest

/-- A text that ends with white space. -/
def EndsBlank (text : Text) : Prop :=
  ∃ c ∈ text.getLast?, AppDescription.isBlank c = true

theorem IsGap.startsBlank (isGap : gap.IsGap) (rest : Text) : StartsBlank (gap ++ rest) := by
  obtain ⟨c, gap, rfl⟩ := List.exists_cons_of_ne_nil isGap.nonempty
  exact ⟨c, gap ++ rest, isGap.blank c List.mem_cons_self, rfl⟩

theorem IsGap.endsBlank (isGap : gap.IsGap) : EndsBlank gap := by
  have last := List.getLast?_eq_getLast_of_ne_nil isGap.nonempty
  exact ⟨_, last, isGap.blank _ (List.getLast_mem isGap.nonempty)⟩

namespace EndsBlank

theorem nonempty (ends : EndsBlank text) : text ≠ [] := by
  obtain ⟨c, last, _⟩ := ends
  rintro rfl
  cases last

theorem append (text : Text) (ends : EndsBlank more) : EndsBlank (text ++ more) := by
  rwa [EndsBlank, List.getLast?_append_of_ne_nil _ ends.nonempty]

theorem of_suffix (ends : EndsBlank text) (suffix : more <:+ text) (nonempty : more ≠ []) :
    EndsBlank more := by
  obtain ⟨front, rfl⟩ := suffix
  rwa [EndsBlank, List.getLast?_append_of_ne_nil _ nonempty] at ends

end EndsBlank

end Text

end AppDescription
