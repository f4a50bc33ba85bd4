import Mathlib.Data.List.TakeWhile
import AppDescription.Header

namespace AppDescription

/-- A list that does not start with anything of a class. -/
def Stops (p : α → Bool) (list : List α) : Prop :=
  ∀ x ∈ list.head?, p x = false

namespace Stops

variable {p : α → Bool} {left right : List α}

@[simp]
theorem nil : Stops p [] := by simp [Stops]

@[simp]
theorem cons_iff {x : α} : Stops p (x :: right) ↔ p x = false := by simp [Stops]

theorem of_dropWhile (p : α → Bool) (list : List α) : Stops p (list.dropWhile p) := by
  intro x first
  have stopped := List.head?_dropWhile_not p list
  rw [Option.mem_def.mp first] at stopped
  simpa using stopped

theorem takeWhile_eq (stops : Stops p right) : right.takeWhile p = [] := by
  cases right with
  | nil => rfl
  | cons x right => simp [cons_iff.mp stops]

theorem dropWhile_eq (stops : Stops p right) : right.dropWhile p = right := by
  cases right with
  | nil => rfl
  | cons x right => simp [cons_iff.mp stops]

theorem takeWhile_append (all : ∀ x ∈ left, p x = true) (stops : Stops p right) :
    (left ++ right).takeWhile p = left := by
  rw [List.takeWhile_append_of_pos all, stops.takeWhile_eq, List.append_nil]

theorem dropWhile_append (all : ∀ x ∈ left, p x = true) (stops : Stops p right) :
    (left ++ right).dropWhile p = right := by
  rw [List.dropWhile_append_of_pos all, stops.dropWhile_eq]

/-- Taking from a list never goes on into one that does not start with the class. -/
theorem takeWhile_left (stops : Stops p right) :
    (left ++ right).takeWhile p = left.takeWhile p := by
  induction left with
  | nil => exact stops.takeWhile_eq
  | cons x left ih => cases held : p x <;> simp [held, ih]

theorem dropWhile_left (stops : Stops p right) :
    (left ++ right).dropWhile p = left.dropWhile p ++ right := by
  induction left with
  | nil => exact stops.dropWhile_eq
  | cons x left ih => cases held : p x <;> simp [held, ih]

theorem append (nonempty : left ≠ []) (stops : Stops p left) : Stops p (left ++ right) := by
  cases left with
  | nil => exact absurd rfl nonempty
  | cons x left => simpa using stops

end Stops

/-- The numbers of the white space characters. -/
def blankNumbers : List Nat :=
  List.range' 9 5 ++ List.range' 28 5 ++ List.range' 0x2000 11 ++
    [0x85, 0xA0, 0x1680, 0x2028, 0x2029, 0x202F, 0x205F, 0x3000]

theorem toNat_mem_blankNumbers {c : Char} (blank : isBlank c) : c.toNat ∈ blankNumbers := by
  simp only [isBlank, Bool.or_eq_true, Bool.and_eq_true, decide_eq_true_eq, or_assoc] at blank
  simp only [blankNumbers, List.mem_append, List.mem_range'_1, List.mem_cons, List.not_mem_nil,
    or_false, or_assoc]
  rcases blank with control | separator | next | space | ogham | wide | rest
  · exact Or.inl (by omega)
  · exact Or.inr (Or.inl (by omega))
  · simp [next]
  · simp [space]
  · simp [ogham]
  · exact Or.inr (Or.inr (Or.inl (by omega)))
  · rcases rest with line | paragraph | narrow | math | ideographic <;> simp [*]

theorem blankNumbers_not_word : ∀ n ∈ blankNumbers, isWord (Char.ofNat n) = false := by
  decide +kernel

/-- No character both separates words and belongs to one. -/
theorem isWord_eq_false_of_isBlank {c : Char} (blank : isBlank c) : isWord c = false := by
  rw [← Char.ofNat_toNat c]
  exact blankNumbers_not_word _ (toNat_mem_blankNumbers blank)

theorem isBlank_eq_false_of_isWord {c : Char} (word : isWord c) : isBlank c = false := by
  rw [← Bool.not_eq_true]
  intro blank
  rw [isWord_eq_false_of_isBlank blank] at word
  exact Bool.false_ne_true word

theorem isBlank_of_mem_space : ∀ c ∈ [' '], isBlank c = true :=
  List.forall_mem_singleton.mpr (by decide)

theorem isBlank_of_mem_replicate {count : Nat} :
    ∀ c ∈ List.replicate count ' ', isBlank c = true := by
  intro c member
  rw [List.eq_of_mem_replicate member]
  decide

theorem isWord_colon : isWord ':' = false := by decide +kernel

namespace Text

theorem word?_append {word rest : Text} (nonempty : word ≠ []) (all : ∀ c ∈ word, isWord c = true)
    (stops : Stops isWord rest) : word? (word ++ rest) = some (word, rest) := by
  have run : wordRun (word ++ rest) = word := stops.takeWhile_append all
  have after : afterWord (word ++ rest) = rest := stops.dropWhile_append all
  rw [word?, run, after, if_neg (by simpa using nonempty)]

theorem word?_eq_some {text word rest : Text} (found : word? text = some (word, rest)) :
    word ≠ [] ∧ (∀ c ∈ word, isWord c = true) ∧ Stops isWord rest ∧ text = word ++ rest := by
  unfold word? at found
  split at found
  · simp at found
  · rename_i nonempty
    simp only [Option.some.injEq, Prod.mk.injEq] at found
    obtain ⟨rfl, rfl⟩ := found
    exact ⟨by simpa using nonempty, fun c member => List.mem_takeWhile_imp member,
      Stops.of_dropWhile isWord text, List.takeWhile_append_dropWhile.symm⟩

theorem blanks?_append {gap rest : Text} (nonempty : gap ≠ []) (all : ∀ c ∈ gap, isBlank c = true)
    (stops : Stops isBlank rest) : blanks? (gap ++ rest) = some rest := by
  cases gap with
  | nil => exact absurd rfl nonempty
  | cons c gap =>
    have trimmed : trimStart (gap ++ rest) = rest :=
      stops.dropWhile_append fun x member => all x (List.mem_cons_of_mem c member)
    rw [List.cons_append, blanks?, if_pos (all c List.mem_cons_self), trimmed]

theorem blanks?_eq_some {text rest : Text} (found : blanks? text = some rest) :
    Stops isBlank rest ∧ ∃ gap, gap ≠ [] ∧ (∀ c ∈ gap, isBlank c = true) ∧ text = gap ++ rest := by
  cases text with
  | nil => simp [blanks?] at found
  | cons c text =>
    simp only [blanks?] at found
    split at found
    · rename_i blank
      cases found
      refine ⟨Stops.of_dropWhile isBlank text, c :: text.takeWhile isBlank, by simp, ?_, ?_⟩
      · intro x member
        rcases List.mem_cons.mp member with rfl | later
        · exact blank
        · exact List.mem_takeWhile_imp later
      · rw [trimStart, List.cons_append, List.takeWhile_append_dropWhile]
    · simp at found

theorem colon?_append {space : Text} (all : ∀ c ∈ space, isBlank c = true) (more : Text) :
    colon? (space ++ ':' :: more) = some more := by
  have trimmed : trimStart (space ++ ':' :: more) = ':' :: more :=
    Stops.dropWhile_append all (by simp; decide)
  simp only [colon?, trimmed]

theorem colon?_eq_some {text more : Text} (found : colon? text = some more) :
    ∃ space, (∀ c ∈ space, isBlank c = true) ∧ text = space ++ ':' :: more := by
  unfold colon? at found
  split at found
  · rename_i rest trimmed
    cases found
    refine ⟨text.takeWhile isBlank, fun c member => List.mem_takeWhile_imp member, ?_⟩
    rw [← trimmed, trimStart, List.takeWhile_append_dropWhile]
  · simp at found

theorem dropPrefix?_append (start rest : Text) : dropPrefix? start (start ++ rest) = some rest := by
  rw [dropPrefix?, if_pos (by simp), List.drop_left]

theorem dropPrefix?_eq_some {start text rest : Text} (found : dropPrefix? start text = some rest) :
    text = start ++ rest := by
  unfold dropPrefix? at found
  split at found
  · rename_i starts
    obtain ⟨more, rfl⟩ := List.isPrefixOf_iff_prefix.mp starts
    rw [List.drop_left] at found
    rw [Option.some.inj found]
  · simp at found

theorem wordRun_append_afterWord (text : Text) : wordRun text ++ afterWord text = text :=
  List.takeWhile_append_dropWhile

theorem word?_of_wordRun {text word : Text} (run : wordRun text = word) (nonempty : word ≠ []) :
    word? text = some (word, afterWord text) := by
  rw [word?, run, if_neg (by simpa using nonempty)]

theorem not_mem_braced {inner : Text} {c : Char} (free : c ∉ inner) (left : c ≠ '{')
    (right : c ≠ '}') : c ∉ braced inner := by
  simp [braced, free, left, right]

theorem trimEnd_append (text : Text) {space : Text} (all : ∀ c ∈ space, isBlank c = true) :
    trimEnd (text ++ space) = trimEnd text := by
  have reversed : ∀ c ∈ space.reverse, isBlank c = true := by simpa using all
  rw [trimEnd, List.reverse_append, List.dropWhile_append_of_pos reversed, trimEnd]

/-- White space at the end of a text is not part of the trimmed text. -/
theorem trim_append (text : Text) {space : Text} (all : ∀ c ∈ space, isBlank c = true) :
    trim (text ++ space) = trim text := by
  by_cases blank : ∀ c ∈ text, isBlank c = true
  · have left : trimStart (text ++ space) = [] := by
      simp only [trimStart, List.dropWhile_eq_nil_iff, List.mem_append]
      rintro c (inText | inSpace)
      · exact blank c inText
      · exact all c inSpace
    have right : trimStart text = [] := by simpa [trimStart, List.dropWhile_eq_nil_iff] using blank
    rw [trim, left, trim, right]
  · have left : trimStart (text ++ space) = trimStart text ++ space := by
      have started : ¬(text.dropWhile isBlank).isEmpty := by
        simpa [List.isEmpty_iff, List.dropWhile_eq_nil_iff] using blank
      rw [trimStart, List.dropWhile_append, if_neg started, trimStart]
    rw [trim, left, trimEnd_append _ all, trim]

/-- A trimmed text starts with no white space, nor does it end in any. -/
theorem stops_trim (text : Text) : Stops isBlank (trim text) := by
  have front : trim text <+: trimStart text := by
    have back := List.dropWhile_suffix (l := (trimStart text).reverse) isBlank
    rw [← List.reverse_prefix, List.reverse_reverse] at back
    exact back
  obtain ⟨space, whole⟩ := front
  intro c first
  have start : (trimStart text).head? = some c := by
    rw [← whole, List.head?_append, Option.mem_def.mp first, Option.some_or]
  exact Stops.of_dropWhile isBlank text c start

/-- Nothing is left of a text that is trimmed only if there is nothing else in it. -/
theorem trim_eq_nil_iff {text : Text} : trim text = [] ↔ ∀ c ∈ text, isBlank c = true := by
  constructor
  · intro empty c member
    by_contra shown
    have started : trimStart text ≠ [] := by
      intro nothing
      exact shown (List.dropWhile_eq_nil_iff.mp nothing c member)
    have solid := Stops.of_dropWhile isBlank text
    obtain ⟨first, rest, same⟩ := List.exists_cons_of_ne_nil started
    unfold trimStart at same
    rw [same, Stops.cons_iff] at solid
    have all := empty
    rw [trim, trimEnd, List.reverse_eq_nil_iff, List.dropWhile_eq_nil_iff] at all
    have blank := all first (by simp [trimStart, same])
    rw [solid] at blank
    cases blank
  · intro blank
    have nothing : trimStart text = [] := List.dropWhile_eq_nil_iff.mpr blank
    rw [trim, nothing]
    rfl

theorem getLast?_trim {text : Text} {c : Char} (last : (trim text).getLast? = some c) :
    isBlank c = false := by
  rw [trim, trimEnd, List.getLast?_reverse] at last
  exact Stops.of_dropWhile isBlank _ c last

theorem mem_of_mem_trim {text : Text} {c : Char} (member : c ∈ trim text) : c ∈ text := by
  unfold trim trimEnd at member
  have front := (List.dropWhile_sublist _).mem (List.mem_reverse.mp member)
  exact (List.dropWhile_sublist _).mem (List.mem_reverse.mp front)

theorem trim_eq {text : Text} (starts : Stops isBlank text)
    (ends : ∃ c, text.getLast? = some c ∧ isBlank c = false) : trim text = text := by
  obtain ⟨c, last, solid⟩ := ends
  have reversed : Stops isBlank text.reverse := by
    intro x first
    rw [List.head?_reverse, last] at first
    cases first
    exact solid
  rw [trim, trimStart, starts.dropWhile_eq, trimEnd, reversed.dropWhile_eq, List.reverse_reverse]

/-- Trimming leaves no white space to trim. -/
theorem trim_trim (text : Text) : trim (trim text) = trim text := by
  cases last : (trim text).getLast? with
  | none =>
    rw [List.getLast?_eq_none_iff.mp last]
    rfl
  | some c => exact trim_eq (stops_trim text) ⟨c, last, getLast?_trim last⟩

theorem splitOn_append (separator : Char) (first second : Text) :
    splitOn separator (first ++ separator :: second) =
      splitOn separator first ++ splitOn separator second := by
  induction first with
  | nil => simp [splitOn]
  | cons c first ih =>
    rw [List.cons_append, splitOn, ih, splitOn]
    split
    · rfl
    · cases pieces : splitOn separator first with
      | nil => exact absurd pieces (splitOn_ne_nil separator first)
      | cons piece more => rfl

theorem splitOn_eq {separator : Char} {piece : Text} (free : separator ∉ piece) :
    splitOn separator piece = [piece] := by
  induction piece with
  | nil => rfl
  | cons c piece ih =>
    rw [List.mem_cons, not_or] at free
    rw [splitOn, if_neg (Ne.symm free.1), ih free.2]

theorem not_mem_of_mem_splitOn {separator : Char} {text piece : Text}
    (member : piece ∈ splitOn separator text) : separator ∉ piece := by
  induction text generalizing piece with
  | nil => simp_all [splitOn]
  | cons c text ih =>
    rw [splitOn] at member
    split at member
    · rcases List.mem_cons.mp member with rfl | later
      · simp
      · exact ih later
    · rename_i other
      cases pieces : splitOn separator text with
      | nil => exact absurd pieces (splitOn_ne_nil separator text)
      | cons first more =>
        rw [pieces] at member ih
        rcases List.mem_cons.mp member with rfl | later
        · simp [Ne.symm other, ih List.mem_cons_self]
        · exact ih (List.mem_cons_of_mem first later)

/-- Cutting undoes joining when no piece holds the separator. -/
theorem splitOn_join {separator : Char} {pieces : List Text} (nonempty : pieces ≠ [])
    (free : ∀ piece ∈ pieces, separator ∉ piece) :
    splitOn separator (join [separator] pieces) = pieces := by
  induction pieces with
  | nil => exact absurd rfl nonempty
  | cons piece pieces ih =>
    have alone := splitOn_eq (free piece List.mem_cons_self)
    cases pieces with
    | nil => exact alone
    | cons next pieces =>
      have tail := ih (by simp) fun other member => free other (List.mem_cons_of_mem piece member)
      rw [join, List.append_assoc, List.singleton_append, splitOn_append, alone, tail,
        List.singleton_append]

theorem join_append (separator : Text) {left right : List Text} (leftNonempty : left ≠ [])
    (rightNonempty : right ≠ []) :
    join separator (left ++ right) = join separator left ++ separator ++ join separator right := by
  induction left with
  | nil => exact absurd rfl leftNonempty
  | cons piece left ih =>
    cases left with
    | nil =>
      obtain ⟨next, more, rfl⟩ := List.exists_cons_of_ne_nil rightNonempty
      rfl
    | cons next left =>
      have tail := ih (by simp)
      rw [List.cons_append] at tail
      simp only [List.cons_append, join, tail, List.append_assoc]

theorem mem_join {separator : Text} {pieces : List Text} {c : Char}
    (inside : c ∈ join separator pieces) : c ∈ separator ∨ ∃ piece ∈ pieces, c ∈ piece := by
  induction pieces with
  | nil => cases inside
  | cons piece pieces ih =>
    cases pieces with
    | nil => exact .inr ⟨piece, List.mem_cons_self, inside⟩
    | cons next more =>
      rcases List.mem_append.mp inside with first | later
      · rcases List.mem_append.mp first with here | between
        · exact .inr ⟨piece, List.mem_cons_self, here⟩
        · exact .inl between
      · refine (ih later).imp_right ?_
        rintro ⟨other, member, within⟩
        exact ⟨other, List.mem_cons_of_mem piece member, within⟩

end Text

end AppDescription
