import Mathlib.Data.List.Perm.Subperm
import AppDescription.Proofs.DistinctPaths

namespace AppDescription

theorem eraseDups_nodup (names : List Text) : names.eraseDups.Nodup := by
  cases names with
  | nil => simp
  | cons name names =>
    rw [List.eraseDups_cons, List.nodup_cons]
    exact ⟨by simp [List.mem_eraseDups], eraseDups_nodup _⟩
termination_by names.length
decreasing_by
  exact Nat.lt_succ_of_le (List.length_filter_le _ _)

variable {names others : List Text} {name : Text}

theorem mem_duplicates : name ∈ duplicates names ↔ 2 ≤ names.count name := by
  rw [duplicates, Text.sort, List.mem_mergeSort, List.mem_eraseDups, List.mem_filter,
    decide_eq_true_eq]
  refine ⟨And.right, fun twice => ⟨?_, twice⟩⟩
  exact List.count_pos_iff.mp (Nat.zero_lt_of_lt twice)

/-- A name is reported once, however often it is repeated. -/
theorem duplicates_nodup (names : List Text) : (duplicates names).Nodup :=
  (List.mergeSort_perm _ _).nodup_iff.mpr (eraseDups_nodup _)

theorem count_duplicates :
    (duplicates names).count name = if 2 ≤ names.count name then 1 else 0 := by
  rw [(duplicates_nodup names).count]
  exact if_congr mem_duplicates rfl rfl

theorem duplicates_perm (rearranged : names.Perm others) :
    (duplicates names).Perm (duplicates others) := by
  rw [List.perm_ext_iff_of_nodup (duplicates_nodup names) (duplicates_nodup others)]
  intro name
  rw [mem_duplicates, mem_duplicates, rearranged.count_eq]

/-- More names leave every repetition a repetition. -/
theorem duplicates_subperm (kept : names.Sublist others) :
    (duplicates names).Subperm (duplicates others) := by
  refine List.subperm_of_subset (duplicates_nodup names) fun name repeated => ?_
  rw [mem_duplicates] at repeated ⊢
  exact repeated.trans (kept.count_le name)

end AppDescription
