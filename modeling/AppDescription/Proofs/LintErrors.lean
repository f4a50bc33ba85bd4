import Mathlib.Algebra.BigOperators.Group.List.Basic
import Mathlib.Algebra.GroupWithZero.Nat
import AppDescription.Proofs.Repetition
import AppDescription.Proofs.TextForm

namespace AppDescription

namespace LintError

theorem message_duplicate (list name : Text) : (duplicate list name).message =
    "Duplicate ".toList ++ list ++ " '".toList ++ name ++ "'".toList := rfl

theorem message_duplicateField (model field : Text) : (duplicateField model field).message =
    "Data model '".toList ++ model ++ "' declares field '".toList ++ field ++
      "' more than once".toList := rfl

/-- The message about a repeated name says which list it is in, as no list is called by words with a
quote in them. -/
theorem message_duplicate_inj {list list' name name' : Text} (plain : '\'' ∉ list)
    (plain' : '\'' ∉ list') :
    (duplicate list name).message = (duplicate list' name').message ↔
      list = list' ∧ name = name' := by
  have upToQuote {list : Text} (plain : '\'' ∉ list) (name : Text) :
      (list ++ (" '".toList ++ name)).takeWhile (· ≠ '\'') = list ++ [' '] := by
    have space : " '".toList = [' '] ++ ['\''] := by decide
    have solid : ∀ c ∈ list ++ [' '], decide (c ≠ '\'') = true := by
      intro c member
      rcases List.mem_append.mp member with inList | blank
      · exact decide_eq_true fun same => plain (same ▸ inList)
      · obtain rfl := List.mem_singleton.mp blank
        decide
    have stops : Stops (fun c => decide (c ≠ '\'')) (['\''] ++ name) := by simp
    rw [space, List.append_assoc, ← List.append_assoc list, stops.takeWhile_append solid]
  constructor
  · intro same
    rw [message_duplicate, message_duplicate] at same
    simp only [List.append_assoc] at same
    have parts := List.append_cancel_left same
    have lists := congrArg (List.takeWhile (· ≠ '\'')) parts
    rw [upToQuote plain, upToQuote plain'] at lists
    obtain rfl := List.append_cancel_right lists
    have names := List.append_cancel_left (List.append_cancel_left parts)
    exact ⟨rfl, List.append_cancel_right names⟩
  · rintro ⟨rfl, rfl⟩
    exact Eq.refl _

/-- A repeated field is not reported in the words for a repeated declaration. -/
theorem message_duplicateField_ne (model field list name : Text) :
    (duplicateField model field).message ≠ (duplicate list name).message := by
  have fields : "Data model '".toList = 'D' :: 'a' :: "ta model '".toList := by decide
  have names : "Duplicate ".toList = 'D' :: 'u' :: "plicate ".toList := by decide
  intro same
  rw [message_duplicateField, message_duplicate, fields, names] at same
  simp only [List.cons_append, List.cons.injEq] at same
  exact absurd same.2.1 (by decide)

end LintError

namespace Document

/-- The lists in which a name may stand only once, each with the words that it is called by. -/
def sections (document : Document) : List (Text × List Text) :=
  [("data model", document.data.map DataModel.name),
    ("interface", document.interfaces.map Interface.name),
    ("computed value", document.computed.map ComputedValue.name),
    ("logic section", document.logic)]

variable {document other : Document}

theorem lintErrors_eq (document : Document) : document.lintErrors =
    document.sections.flatMap (fun named => (duplicates named.2).map (.duplicate named.1)) ++
      document.data.flatMap DataModel.lintErrors := by
  simp only [lintErrors, sections, List.flatMap_cons, List.flatMap_nil, List.append_nil,
    List.append_assoc]

theorem lintErrors_eq_nil : document.lintErrors = [] ↔
    (∀ named ∈ document.sections, named.2.Nodup) ∧
      ∀ model ∈ document.data, (model.fields.map Field.name).Nodup := by
  rw [lintErrors_eq, List.append_eq_nil_iff, List.flatMap_eq_nil_iff, List.flatMap_eq_nil_iff]
  simp only [DataModel.lintErrors, List.map_eq_nil_iff, duplicates_eq_nil]

theorem sections_plain : ∀ named ∈ document.sections, '\'' ∉ named.1 := by
  simp only [sections, List.forall_mem_cons, List.not_mem_nil, false_implies, implies_true,
    and_true]
  decide

theorem sections_keys : (document.sections.map Prod.fst).Nodup := by
  have keys : document.sections.map Prod.fst = ["data model".toList, "interface".toList,
      "computed value".toList, "logic section".toList] := rfl
  rw [keys]
  decide

/-- Of a list's repeated names only the one asked for is reported in its words, and only when the
list is the one asked for. -/
theorem count_section {list list' : Text} (plain : '\'' ∉ list) (plain' : '\'' ∉ list')
    (names : List Text) (name : Text) :
    (((duplicates names).map (LintError.duplicate list)).map LintError.message).count
        (LintError.duplicate list' name).message =
      if list = list' then (duplicates names).count name else 0 := by
  rw [List.map_map, List.count_eq_countP, List.countP_map, List.count_eq_countP]
  split
  · rename_i same
    subst same
    refine List.countP_congr fun other _ => ?_
    simp [LintError.message_duplicate_inj plain plain]
  · rename_i apart
    rw [List.countP_eq_zero]
    intro other _
    simp [LintError.message_duplicate_inj plain plain', apart]

theorem sum_at_key {entries : List (Text × List Text)} (keys : (entries.map Prod.fst).Nodup)
    {entry : Text × List Text} (listed : entry ∈ entries) (count : List Text → Nat) :
    (entries.map fun other => if other.1 = entry.1 then count other.2 else 0).sum =
      count entry.2 := by
  induction entries with
  | nil => cases listed
  | cons first rest ih =>
    obtain ⟨fresh, keys⟩ := List.nodup_cons.mp keys
    rw [List.map_cons, List.sum_cons]
    rcases List.mem_cons.mp listed with rfl | later
    · have others : (rest.map fun other =>
          if other.1 = entry.1 then count other.2 else 0).sum = 0 := by
        refine List.sum_eq_zero fun value among => ?_
        obtain ⟨other, member, rfl⟩ := List.mem_map.mp among
        have apart : other.1 ≠ entry.1 := fun same => fresh (same ▸ List.mem_map_of_mem member)
        exact if_neg apart
      rw [if_pos rfl, others, Nat.add_zero]
    · have apart : first.1 ≠ entry.1 := fun same => fresh (same ▸ List.mem_map_of_mem later)
      rw [if_neg apart, ih keys later, Nat.zero_add]

/-- A list reports each of its repeated names in one message, and no other name. -/
theorem count_messages {named : Text × List Text} (listed : named ∈ document.sections)
    (name : Text) :
    (document.lintErrors.map LintError.message).count (LintError.duplicate named.1 name).message =
      if 2 ≤ named.2.count name then 1 else 0 := by
  have fields : ((document.data.flatMap DataModel.lintErrors).map LintError.message).count
      (LintError.duplicate named.1 name).message = 0 := by
    rw [List.count_eq_zero]
    intro among
    obtain ⟨error, member, same⟩ := List.mem_map.mp among
    obtain ⟨model, _, reported⟩ := List.mem_flatMap.mp member
    obtain ⟨field, _, rfl⟩ := List.mem_map.mp reported
    exact LintError.message_duplicateField_ne _ _ _ _ same
  have each (other : Text × List Text) (among : other ∈ document.sections) :=
    count_section (sections_plain other among) (sections_plain named listed) other.2 name
  rw [lintErrors_eq, List.map_append, List.count_append, fields, Nat.add_zero, List.map_flatMap,
    List.count_flatMap, Function.comp_def, List.map_congr_left each,
    sum_at_key sections_keys listed fun names => (duplicates names).count name, count_duplicates]

end Document

end AppDescription
