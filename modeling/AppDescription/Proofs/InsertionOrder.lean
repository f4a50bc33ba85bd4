import Mathlib.Data.List.Induction
import AppDescription.Proofs.SketchRoundTrip

namespace AppDescription

namespace Properties

/-- Makes further assignments in turn. -/
def assignAll (properties : Properties) (assignments : List (Text × Text)) : Properties :=
  assignments.foldl (fun properties entry => assign properties entry.1 entry.2) properties

/-- A property put ahead of all others. One of the same key among these gives it its value. -/
def putAhead (key value : Text) (properties : Properties) : Properties :=
  assignAll [(key, value)] properties

/-- The value that was given last to a key. -/
def lastValue? (key : Text) (assignments : List (Text × Text)) : Option Text :=
  ((assignments.filter fun entry => entry.1 = key).map Prod.snd).getLast?

theorem ofAssignments_concat (assignments : List (Text × Text)) (entry : Text × Text) :
    ofAssignments (assignments ++ [entry]) = assign (ofAssignments assignments) entry.1 entry.2 :=
  List.foldl_append

theorem lastValue?_concat (key : Text) (assignments : List (Text × Text)) (entry : Text × Text) :
    lastValue? key (assignments ++ [entry]) =
      if entry.1 = key then some entry.2 else lastValue? key assignments := by
  by_cases same : entry.1 = key
  · simp [lastValue?, same]
  · simp [lastValue?, same]

section

variable {properties : Properties} {key other value new : Text}

/-- A new key comes after all others. A key that is there already keeps its place. -/
theorem keys_assign : (assign properties key value).map Prod.fst =
    if key ∈ properties.map Prod.fst then properties.map Prod.fst
    else properties.map Prod.fst ++ [key] := by
  split
  · rename_i present
    induction properties with
    | nil => cases present
    | cons entry properties ih =>
      rw [assign]
      split
      · rename_i same
        rw [List.map_cons, List.map_cons, same]
      · rename_i apart
        rw [List.map_cons, List.map_cons, ih]
        exact (List.mem_cons.mp present).resolve_left (Ne.symm apart)
  · rename_i fresh
    rw [assign_fresh fresh, List.map_append]
    rfl

theorem mem_keys_assign : other ∈ (assign properties key value).map Prod.fst ↔
    other = key ∨ other ∈ properties.map Prod.fst := by
  rw [keys_assign]
  split
  · rename_i present
    exact ⟨.inr, fun either => either.elim (fun same => same ▸ present) id⟩
  · rw [List.mem_append, List.mem_singleton, or_comm]

theorem mem_assign (distinct : (properties.map Prod.fst).Nodup) :
    (other, new) ∈ assign properties key value ↔
      if other = key then new = value else (other, new) ∈ properties := by
  induction properties with
  | nil => by_cases same : other = key <;> simp [assign, same]
  | cons entry properties ih =>
    obtain ⟨fresh, distinct⟩ := List.nodup_cons.mp distinct
    have later := ih distinct
    rw [assign]
    by_cases here : entry.1 = key
    · rw [if_pos here]
      by_cases same : other = key
      · subst same
        have unlisted : (other, new) ∉ properties := fun member =>
          fresh (here ▸ List.mem_map_of_mem (f := Prod.fst) member)
        simp [unlisted]
      · have first : (other, new) ≠ (key, value) := fun equal => same (congrArg Prod.fst equal)
        have apart : (other, new) ≠ entry := fun equal => same (by rw [← here, ← equal])
        rw [if_neg same, List.mem_cons, List.mem_cons, or_iff_right first, or_iff_right apart]
    · rw [if_neg here, List.mem_cons, later]
      by_cases same : other = key
      · have first : (other, new) ≠ entry := fun equal => here (by rw [← equal, same])
        rw [if_pos same, or_iff_right first, if_pos same]
      · rw [if_neg same, if_neg same, List.mem_cons]

theorem assign_assign :
    assign (assign properties key value) key new = assign properties key new := by
  induction properties with
  | nil => simp [assign]
  | cons entry properties ih =>
    rw [assign]
    by_cases here : entry.1 = key
    · simp [assign, here]
    · rw [if_neg here, assign, if_neg here, ih, assign, if_neg here]

/-- Assignments of two keys may be made in either order when the first of the keys is there
already. -/
theorem assign_comm (present : key ∈ properties.map Prod.fst) (apart : other ≠ key) :
    assign (assign properties other new) key value =
      assign (assign properties key value) other new := by
  induction properties with
  | nil => cases present
  | cons entry properties ih =>
    by_cases here : entry.1 = key
    · simp [assign, here, Ne.symm apart]
    · have later := ih ((List.mem_cons.mp present).resolve_left (Ne.symm here))
      by_cases there : entry.1 = other
      · simp [assign, there, apart]
      · simp [assign, here, there, later]

end

section

variable {base properties : Properties} {key value : Text}

theorem assignAll_comm (present : key ∈ base.map Prod.fst)
    (fresh : key ∉ properties.map Prod.fst) :
    assign (assignAll base properties) key value = assignAll (assign base key value) properties := by
  induction properties generalizing base with
  | nil => rfl
  | cons entry properties ih =>
    rw [List.map_cons, List.mem_cons, not_or] at fresh
    have kept : key ∈ (assign base entry.1 entry.2).map Prod.fst :=
      mem_keys_assign.mpr (.inr present)
    exact (ih kept fresh.2).trans
      (congrArg (assignAll · properties) (assign_comm present (Ne.symm fresh.1)))

/-- It is the same to assign to properties that are made into assignments as to what these make. -/
theorem assignAll_assign (distinct : (properties.map Prod.fst).Nodup) :
    assignAll base (assign properties key value) = assign (assignAll base properties) key value := by
  induction properties generalizing base with
  | nil => rfl
  | cons entry properties ih =>
    obtain ⟨fresh, distinct⟩ := List.nodup_cons.mp distinct
    rw [assign]
    split
    · rename_i here
      subst here
      have present : entry.1 ∈ (assign base entry.1 entry.2).map Prod.fst :=
        mem_keys_assign.mpr (.inl rfl)
      exact (congrArg (assignAll · properties) assign_assign.symm).trans
        (assignAll_comm present fresh).symm
    · exact ih distinct

end

section

variable (assignments : List (Text × Text))

/-- The keys stand in the order in which they were first assigned. -/
theorem keys_ofAssignments :
    (ofAssignments assignments).map Prod.fst = (assignments.map Prod.fst).eraseDups := by
  induction assignments using List.reverseRecOn with
  | nil => rfl
  | append_singleton assignments entry ih =>
    have same : entry.1 ∈ (assignments.map Prod.fst).eraseDups ↔ entry.1 ∈ assignments.map Prod.fst :=
      List.mem_eraseDups
    rw [ofAssignments_concat, keys_assign, ih, List.map_append, List.eraseDups_append]
    by_cases present : entry.1 ∈ assignments.map Prod.fst
    · rw [if_pos (same.mpr present)]
      simp [List.removeAll, present]
    · rw [if_neg (mt same.mp present)]
      simp [List.removeAll, present, List.eraseDups_cons]

theorem keys_nodup : ((ofAssignments assignments).map Prod.fst).Nodup := by
  induction assignments using List.reverseRecOn with
  | nil => exact List.nodup_nil
  | append_singleton assignments entry ih =>
    rw [ofAssignments_concat, keys_assign]
    split
    · exact ih
    · rename_i fresh
      refine List.nodup_append.mpr ⟨ih, by simp, ?_⟩
      rintro key member _ single rfl
      exact fresh (List.mem_singleton.mp single ▸ member)

/-- A key has the value that it was assigned last. -/
theorem mem_ofAssignments {key value : Text} :
    (key, value) ∈ ofAssignments assignments ↔ lastValue? key assignments = some value := by
  induction assignments using List.reverseRecOn with
  | nil => simp [ofAssignments, lastValue?]
  | append_singleton assignments entry ih =>
    rw [ofAssignments_concat, mem_assign (keys_nodup assignments), lastValue?_concat]
    by_cases same : key = entry.1
    · rw [if_pos same, if_pos same.symm, Option.some.injEq, eq_comm]
    · rw [if_neg same, if_neg (Ne.symm same), ih]

/-- To put a property ahead of others is to assign it before them. -/
theorem putAhead_ofAssignments (key value : Text) :
    putAhead key value (ofAssignments assignments) = ofAssignments ((key, value) :: assignments) := by
  induction assignments using List.reverseRecOn with
  | nil => rfl
  | append_singleton assignments entry ih =>
    rw [ofAssignments_concat, putAhead, assignAll_assign (keys_nodup assignments), ← putAhead, ih,
      ← List.cons_append, ofAssignments_concat]

/-- The properties of a body, with those of a display header put ahead of them: the text first, and
then the name. -/
def merge (name : Option Text) (content : Text) (body : Properties) : Properties :=
  let texted := if content.isEmpty then body else putAhead "text" content body
  match name with
  | some name => putAhead "id" name texted
  | none => texted

theorem merge_ofAssignments (name : Option Text) (content : Text) :
    merge name content (ofAssignments assignments) =
      ofAssignments (Node.headerAssignments name content ++ assignments) := by
  have texted : (if content.isEmpty then ofAssignments assignments
      else putAhead "text" content (ofAssignments assignments)) =
        ofAssignments ((if content.isEmpty then [] else [("text".toList, content)]) ++ assignments) := by
    split
    · rfl
    · exact putAhead_ofAssignments assignments _ _
  unfold merge Node.headerAssignments
  dsimp only
  rw [texted]
  cases name with
  | none => rfl
  | some name => exact putAhead_ofAssignments _ _ _

end

end Properties

end AppDescription
