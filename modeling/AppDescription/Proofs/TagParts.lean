import Mathlib.Data.List.Find
import AppDescription.Proofs.TextForm
import AppDescription.Vue.Tag

namespace AppDescription

namespace Text

variable {separator : Char} {part text : Text}

theorem hasPart_iff : hasPart part text = true ↔ part <:+: text := by
  induction text with
  | nil => simp [hasPart]
  | cons c rest ih =>
    rw [hasPart, Bool.or_eq_true, ih, List.isPrefixOf_iff_prefix, List.infix_cons_iff]

theorem prefix_join (separator piece : Text) (more : List Text) :
    piece <+: join separator (piece :: more) := by
  cases more with
  | nil => exact List.prefix_rfl
  | cons next more => exact ⟨separator ++ join separator (next :: more), by simp [join]⟩

theorem suffix_join (separator piece : Text) (front : List Text) :
    piece <:+ join separator (front ++ [piece]) := by
  cases front with
  | nil => exact List.suffix_rfl
  | cons first front =>
    rw [join_append separator (by simp) (by simp)]
    exact List.suffix_append _ _

theorem eq_join_of_splitOn {left right : List Text} (cut : splitOn separator text = left ++ right)
    (leftNonempty : left ≠ []) (rightNonempty : right ≠ []) :
    text = join [separator] left ++ separator :: join [separator] right := by
  rw [← join_splitOn separator text, cut, join_append _ leftNonempty rightNonempty,
    List.append_assoc, List.singleton_append]

/-- Right after a separator stands the start of a piece other than the first. -/
theorem separator_cons_infix_iff (free : separator ∉ part) :
    separator :: part <:+: text ↔ ∃ piece ∈ (splitOn separator text).tail, part <+: piece := by
  constructor
  · rintro ⟨before, after, rfl⟩
    have cut : splitOn separator (before ++ separator :: part ++ after) =
        splitOn separator before ++ splitOn separator (part ++ after) := by
      rw [List.append_assoc, List.cons_append, splitOn_append]
    rw [cut, List.tail_append_of_ne_nil (splitOn_ne_nil separator before)]
    by_cases more : separator ∈ after
    · obtain ⟨near, far, rfl, first⟩ := List.eq_append_cons_of_mem more
      have piece : splitOn separator (part ++ (near ++ separator :: far)) =
          [part ++ near] ++ splitOn separator far := by
        rw [← List.append_assoc, splitOn_append, splitOn_eq (List.not_mem_append free first)]
      exact ⟨part ++ near, by simp [piece], List.prefix_append _ _⟩
    · have piece := splitOn_eq (List.not_mem_append free more)
      exact ⟨part ++ after, by simp [piece], List.prefix_append _ _⟩
  · rintro ⟨piece, later, start⟩
    obtain ⟨first, others, pieces⟩ := List.exists_cons_of_ne_nil (splitOn_ne_nil separator text)
    rw [pieces, List.tail_cons] at later
    obtain ⟨front, rest, rfl⟩ := List.append_of_mem later
    obtain ⟨ending, same⟩ := start.trans (prefix_join [separator] piece rest)
    rw [eq_join_of_splitOn (pieces.trans (List.cons_append).symm) (by simp) (by simp), ← same]
    exact ⟨join [separator] (first :: front), ending, by simp⟩

/-- Right before a separator stands the end of a piece other than the last. -/
theorem append_separator_infix_iff (free : separator ∉ part) :
    part ++ [separator] <:+: text ↔
      ∃ piece ∈ (splitOn separator text).dropLast, part <:+ piece := by
  constructor
  · rintro ⟨before, after, rfl⟩
    have cut : splitOn separator (before ++ (part ++ [separator]) ++ after) =
        splitOn separator (before ++ part) ++ splitOn separator after := by
      rw [← splitOn_append]
      simp
    rw [cut, List.dropLast_append_of_ne_nil (splitOn_ne_nil separator after)]
    by_cases more : separator ∈ before
    · obtain ⟨near, far, same, last⟩ := List.eq_append_cons_of_mem (List.mem_reverse.mpr more)
      have same : before = far.reverse ++ separator :: near.reverse := by
        rw [← List.reverse_reverse before, same]
        simp
      have piece : splitOn separator (before ++ part) =
          splitOn separator far.reverse ++ [near.reverse ++ part] := by
        rw [same, List.append_assoc, List.cons_append, splitOn_append,
          splitOn_eq (List.not_mem_append (by simpa using last) free)]
      exact ⟨near.reverse ++ part, by simp [piece], List.suffix_append _ _⟩
    · have piece := splitOn_eq (List.not_mem_append more free)
      exact ⟨before ++ part, by simp [piece], List.suffix_append _ _⟩
  · rintro ⟨piece, earlier, ending⟩
    obtain ⟨front, rest, others⟩ := List.append_of_mem earlier
    have pieces := List.dropLast_concat_getLast (splitOn_ne_nil separator text)
    generalize (splitOn separator text).getLast _ = last at pieces
    rw [others, List.append_cons front, List.append_assoc _ rest] at pieces
    obtain ⟨start, same⟩ := ending.trans (suffix_join [separator] piece front)
    rw [eq_join_of_splitOn pieces.symm (by simp) (by simp), ← same]
    exact ⟨start, join [separator] (rest ++ [last]), by simp⟩

end Text

namespace Vue

/-- How a kind shows that it is displayed with a tag: it is the tag, or one of its parts between
underscores starts with the tag and is not the first, or ends with it and is not the last. -/
def Touches (tag kind : Text) : Prop :=
  kind = tag ∨ (∃ part ∈ (Text.splitOn '_' kind).tail, tag <+: part) ∨
    ∃ part ∈ (Text.splitOn '_' kind).dropLast, tag <:+ part

instance decidableTouches (tag kind : Text) : Decidable (Touches tag kind) :=
  inferInstanceAs (Decidable (_ ∨ _ ∨ _))

/-- The first tag that a kind touches. -/
def touchedTag? (kind : Text) : Option Text :=
  knownTags.find? fun tag => Touches tag kind

/-- The first tag that a kind is or that is one of its parts between underscores, or else `div`. -/
def wholeTag (kind : Text) : Text :=
  (knownTags.find? fun tag => kind = tag ∨ tag ∈ Text.splitOn '_' kind).getD "div"

theorem knownTags_free : ∀ tag ∈ knownTags, '_' ∉ tag := by decide

theorem mentionsTag_iff {tag kind : Text} (free : '_' ∉ tag) :
    mentionsTag kind tag = true ↔ Touches tag kind := by
  simp only [mentionsTag, Touches, Bool.or_eq_true, decide_eq_true_eq, Text.hasPart_iff, or_assoc]
  rw [Text.separator_cons_infix_iff free, show tag ++ "_".toList = tag ++ ['_'] from rfl,
    Text.append_separator_infix_iff free]

theorem find?_mentionsTag (kind : Text) : knownTags.find? (mentionsTag kind) = touchedTag? kind := by
  refine List.find?_congr fun tag member => ?_
  rw [Bool.eq_iff_iff, decide_eq_true_eq]
  exact mentionsTag_iff (knownTags_free tag member)

/-- What a weaker test finds first is what a stronger one finds first exactly if it passes that. -/
theorem find?_eq_find?_iff {α : Type} {weak strong : α → Bool} {list : List α}
    (implies : ∀ x ∈ list, strong x = true → weak x = true) :
    list.find? weak = list.find? strong ↔ ∀ x ∈ list.find? weak, strong x = true := by
  induction list with
  | nil => simp
  | cons x list ih =>
    obtain ⟨first, rest⟩ := List.forall_mem_cons.mp implies
    cases weakly : weak x with
    | true =>
      rw [List.find?_cons_of_pos weakly]
      cases strongly : strong x with
      | true => simp [List.find?_cons_of_pos strongly, strongly]
      | false =>
        have other : list.find? strong ≠ some x := by
          intro found
          rw [List.find?_some found] at strongly
          cases strongly
        rw [List.find?_cons_of_neg (by simp [strongly])]
        simp [strongly, other.symm]
    | false =>
      have strongly : ¬strong x = true := fun passes => by simp [first passes] at weakly
      rw [List.find?_cons_of_neg (by simp [weakly]), List.find?_cons_of_neg strongly]
      exact ih rest

/-- A tag that is a part of a kind is touched by it: with others around, a part is not the first or
not the last. -/
theorem touches_of_mem {tag kind : Text} (member : tag ∈ Text.splitOn '_' kind) :
    Touches tag kind := by
  obtain ⟨front, rest, pieces⟩ := List.append_of_mem member
  cases front with
  | cons first front => exact .inr (.inl ⟨tag, by simp [pieces], List.prefix_rfl⟩)
  | nil =>
    cases rest with
    | cons next rest => exact .inr (.inr ⟨tag, by simp [pieces], List.suffix_rfl⟩)
    | nil =>
      have whole := Text.join_splitOn '_' kind
      rw [pieces] at whole
      exact .inl whole.symm

theorem getD_div_inj {found found' : Option Text} (known : ∀ tag ∈ found, tag ∈ knownTags)
    (known' : ∀ tag ∈ found', tag ∈ knownTags) :
    found.getD "div" = found'.getD "div" ↔ found = found' := by
  have other : "div".toList ∉ knownTags := by decide
  refine ⟨fun same => ?_, fun same => by rw [same]⟩
  cases found with
  | none =>
    cases found' with
    | none => rfl
    | some tag => exact absurd (show "div".toList = tag from same) fun div => other (div ▸ known' tag rfl)
  | some tag =>
    cases found' with
    | none => exact absurd (show tag = "div".toList from same) fun div => other (div ▸ known tag rfl)
    | some tag' => exact congrArg some same

/-- The tag that whole parts ask for is the tag of the first that is touched exactly if that one is a
whole part. -/
theorem touchedTag?_getD_eq_wholeTag_iff (kind : Text) :
    (touchedTag? kind).getD "div" = wholeTag kind ↔
      ∀ tag ∈ touchedTag? kind, tag ∈ Text.splitOn '_' kind := by
  have among (test : Text → Bool) : ∀ tag ∈ knownTags.find? test, tag ∈ knownTags :=
    fun tag found => List.mem_of_find?_eq_some found
  unfold wholeTag touchedTag?
  rw [getD_div_inj (among _) (among _), find?_eq_find?_iff]
  · refine forall₂_congr fun tag found => ?_
    have free := knownTags_free tag (among _ tag found)
    rw [decide_eq_true_eq]
    refine ⟨?_, .inr⟩
    rintro (rfl | part)
    · simp [Text.splitOn_eq free]
    · exact part
  · intro tag member passes
    rw [decide_eq_true_eq] at passes ⊢
    rcases passes with same | part
    · exact .inl same
    · exact touches_of_mem part

/-- A kind that is no tab is displayed with the first tag it touches: the tag is the kind itself, or
one of its parts starts with it and is not the first, or ends with it and is not the last. That is the
first tag which is a whole part exactly if the touched one is. -/
theorem tagOf_touched {kind : Text} (whole : Text.lower kind ≠ "tab")
    (part : ¬"_tab".toList <:+ Text.lower kind) :
    tagOf kind = (touchedTag? (Text.lower kind)).getD "div" ∧
      (tagOf kind = wholeTag (Text.lower kind) ↔
        ∀ tag ∈ touchedTag? (Text.lower kind), tag ∈ Text.splitOn '_' (Text.lower kind)) := by
  have plain : isTab (Text.lower kind) = false := by
    have ending : Text.endsWith (Text.lower kind) "_tab" = false :=
      Bool.eq_false_iff.mpr (mt List.isSuffixOf_iff_suffix.mp part)
    simp only [isTab, whole, ending, decide_false, Bool.or_self, Bool.false_and]
  have touched : tagOf kind = (touchedTag? (Text.lower kind)).getD "div" := by
    simp only [tagOf, plain, Bool.false_eq_true, if_false, find?_mentionsTag]
  exact ⟨touched, touched ▸ touchedTag?_getD_eq_wholeTag_iff (Text.lower kind)⟩

theorem tagOf_touched_navigation :
    Text.lower "Main_Navigation" ≠ "tab" ∧ ¬"_tab".toList <:+ Text.lower "Main_Navigation" ∧
      touchedTag? (Text.lower "Main_Navigation") = some "nav" ∧
      tagOf "Main_Navigation" = "nav" ∧
      tagOf "Main_Navigation" ≠ wholeTag (Text.lower "Main_Navigation") := by
  have whole : Text.lower "Main_Navigation" ≠ "tab" := by decide +kernel
  have part : ¬"_tab".toList <:+ Text.lower "Main_Navigation" := by decide +kernel
  have first : touchedTag? (Text.lower "Main_Navigation") = some "nav" := by decide +kernel
  obtain ⟨touched, parts⟩ := tagOf_touched whole part
  rw [first] at touched parts
  refine ⟨whole, part, first, touched, fun same => ?_⟩
  exact absurd (parts.mp same _ rfl) (by decide +kernel)

/-- A profile of a user is displayed as a paragraph, although no part of its kind is a tag. -/
theorem tagOf_part_start :
    Text.lower "user_profile" ≠ "tab" ∧ ¬"_tab".toList <:+ Text.lower "user_profile" ∧
      tagOf "user_profile" = "p" ∧ wholeTag (Text.lower "user_profile") = "div" := by
  decide +kernel

end Vue

end AppDescription
