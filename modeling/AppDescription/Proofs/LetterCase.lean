import AppDescription.Proofs.TextForm
import AppDescription.Vue.Naming

namespace AppDescription

/-- A run of a case table that leads to characters, none of them before the letter `A`. -/
def CaseRun.IsLettered (run : CaseRun) : Prop :=
  65 ≤ run.first + run.shift ∧
    (run.last + run.shift < 0xD800 ∨ 0xDFFF < run.first + run.shift ∧ run.last + run.shift < 0x110000)

instance CaseRun.decidableIsLettered (run : CaseRun) : Decidable run.IsLettered :=
  inferInstanceAs (Decidable (_ ∧ (_ ∨ _)))

/-- A case table all of whose images are characters from the letter `A` on. -/
structure LetteredTable (expansions : List (Nat × List Nat)) (runs : List CaseRun) : Prop where
  expansions : ∀ entry ∈ expansions, ∀ code ∈ entry.2, 65 ≤ code ∧ code.isValidChar
  runs : ∀ run ∈ runs, run.IsLettered

theorem upper_isLettered : LetteredTable upperExpansions upperRuns :=
  ⟨by decide +kernel, by decide +kernel⟩

theorem lower_isLettered : LetteredTable lowerExpansions lowerRuns :=
  ⟨by decide +kernel, by decide +kernel⟩

theorem CaseRun.IsLettered.image {run : CaseRun} (lettered : run.IsLettered) {n : Nat}
    (lower : run.first ≤ n) (upper : n ≤ run.last) :
    65 ≤ ((n : Int) + run.shift).toNat ∧ ((n : Int) + run.shift).toNat.isValidChar := by
  obtain ⟨first, last⟩ := lettered
  unfold Nat.isValidChar
  omega

theorem shiftBy?_isLettered {runs : List CaseRun} (lettered : ∀ run ∈ runs, run.IsLettered)
    {n code : Nat} (found : shiftBy? runs n = some code) : 65 ≤ code ∧ code.isValidChar := by
  obtain ⟨run, among, rfl⟩ := Option.map_eq_some_iff.mp found
  have covers := List.find?_some among
  simp only [Bool.and_eq_true, decide_eq_true_eq] at covers
  exact (lettered run (List.mem_of_find?_eq_some among)).image covers.1.1 covers.1.2

theorem le_toNat_ofNat {floor code : Nat} (low : floor ≤ code) (valid : code.isValidChar) :
    floor ≤ (Char.ofNat code).toNat := by
  unfold Char.ofNat
  rwa [dif_pos valid]

/-- Changing the case of a character leads to no character before both itself and the letters. -/
theorem mapCase_ge {expansions : List (Nat × List Nat)} {runs : List CaseRun}
    (lettered : LetteredTable expansions runs) {c d : Char}
    (image : d ∈ mapCase expansions runs c) :
    min 65 c.toNat ≤ d.toNat := by
  unfold mapCase at image
  split at image
  · rename_i codes found
    obtain ⟨code, among, rfl⟩ := List.mem_map.mp image
    obtain ⟨above, below, whole, _⟩ := List.lookup_eq_some_iff.mp found
    obtain ⟨low, valid⟩ := lettered.expansions (c.toNat, codes) (by simp [whole]) code among
    exact (Nat.min_le_left _ _).trans (le_toNat_ofNat low valid)
  · split at image
    · rename_i code found
      obtain ⟨low, valid⟩ := shiftBy?_isLettered lettered.runs found
      rw [List.mem_singleton.mp image]
      exact (Nat.min_le_left _ _).trans (le_toNat_ofNat low valid)
    · rw [List.mem_singleton.mp image]
      exact Nat.min_le_right _ _

theorem ascii_case_ge : ∀ n < 128,
    min 65 n ≤ (Char.ofNat n).toUpper.toNat ∧ min 65 n ≤ (Char.ofNat n).toLower.toNat := by
  decide +kernel

theorem upperChar_ge {c d : Char} (image : d ∈ upperChar c) : min 65 c.toNat ≤ d.toNat := by
  unfold upperChar at image
  split at image
  · rename_i ascii
    have bound := (ascii_case_ge c.toNat ascii).1
    rwa [Char.ofNat_toNat, ← List.mem_singleton.mp image] at bound
  · exact mapCase_ge upper_isLettered image

theorem lowerChar_ge {c d : Char} (image : d ∈ lowerChar c) : min 65 c.toNat ≤ d.toNat := by
  unfold lowerChar at image
  split at image
  · rename_i ascii
    have bound := (ascii_case_ge c.toNat ascii).2
    rwa [Char.ofNat_toNat, ← List.mem_singleton.mp image] at bound
  · exact mapCase_ge lower_isLettered image

namespace Text

variable {floor : Nat} {text : Text}

theorem upper_ge (low : floor ≤ 65) (all : ∀ c ∈ text, floor ≤ c.toNat) :
    ∀ d ∈ upper text, floor ≤ d.toNat := by
  intro d member
  obtain ⟨c, inText, image⟩ := List.mem_flatMap.mp member
  exact (Nat.le_min.mpr ⟨low, all c inText⟩).trans (upperChar_ge image)

theorem lowerAfter_ge (low : floor ≤ 65) (before : Text) (all : ∀ c ∈ text, floor ≤ c.toNat) :
    ∀ d ∈ lowerAfter before text, floor ≤ d.toNat := by
  induction text generalizing before with
  | nil => simp [lowerAfter]
  | cons c text ih =>
    intro d member
    rw [lowerAfter, List.mem_append] at member
    rcases member with here | later
    · split at here
      · have sigma : d = 'ς' ∨ d = 'σ' := by
          split at here
          · exact Or.inl (List.mem_singleton.mp here)
          · exact Or.inr (List.mem_singleton.mp here)
        have far : 65 ≤ d.toNat := by rcases sigma with rfl | rfl <;> decide
        omega
      · exact (Nat.le_min.mpr ⟨low, all c List.mem_cons_self⟩).trans (lowerChar_ge here)
    · exact ih (c :: before) (fun x inText => all x (List.mem_cons_of_mem c inText)) d later

theorem mem_of_mem_splitOn {separator : Char} {piece : Text}
    (among : piece ∈ splitOn separator text) {c : Char} (inside : c ∈ piece) : c ∈ text := by
  induction text generalizing piece with
  | nil => simp_all [splitOn]
  | cons x text ih =>
    rw [splitOn] at among
    split at among
    · rcases List.mem_cons.mp among with rfl | later
      · simp at inside
      · exact List.mem_cons_of_mem x (ih later inside)
    · cases pieces : splitOn separator text with
      | nil => exact absurd pieces (splitOn_ne_nil separator text)
      | cons first more =>
        rw [pieces] at among ih
        rcases List.mem_cons.mp among with rfl | later
        · rcases List.mem_cons.mp inside with rfl | deeper
          · exact List.mem_cons_self
          · exact List.mem_cons_of_mem x (ih List.mem_cons_self deeper)
        · exact List.mem_cons_of_mem x (ih (List.mem_cons_of_mem first later) inside)

end Text

/-- No character of a name comes before the digits. -/
theorem le_toNat_of_isWord {c : Char} (word : isWord c) : 48 ≤ c.toNat := by
  by_contra below
  have none : ∀ n < 48, isWord (Char.ofNat n) = false := by decide +kernel
  have free := none c.toNat (by omega)
  rw [Char.ofNat_toNat, word] at free
  exact Bool.noConfusion free

namespace Vue

variable {floor : Nat} {name : Text}

theorem pascalCase_ge (low : floor ≤ 65) (all : ∀ c ∈ name, floor ≤ c.toNat) :
    ∀ d ∈ pascalCase name, floor ≤ d.toNat := by
  intro d member
  obtain ⟨piece, among, inside⟩ := List.mem_flatMap.mp member
  have inPiece : ∀ c ∈ piece, floor ≤ c.toNat := fun c within =>
    all c (Text.mem_of_mem_splitOn among within)
  cases piece with
  | nil => simp at inside
  | cons c rest =>
    rcases List.mem_append.mp inside with first | later
    · exact Text.upper_ge low (by simpa using inPiece c List.mem_cons_self) d first
    · exact inPiece d (List.mem_cons_of_mem c later)

theorem kebabCase_ge (low : floor ≤ 45) (all : ∀ c ∈ name, floor ≤ c.toNat) :
    ∀ d ∈ kebabCase name, floor ≤ d.toNat := by
  refine Text.lowerAfter_ge (by omega) [] ?_
  intro c member
  obtain ⟨x, inName, rfl⟩ := List.mem_map.mp member
  split
  · exact low
  · exact all x inName

end Vue

end AppDescription
