import AppDescription.Backend.Registry
import Mathlib.Data.List.Induction
import Mathlib.Data.List.Nodup

namespace AppDescription

namespace Text

theorem isBefore_iff {left right : Text} : isBefore left right = true ↔ left < right := by
  have codes : (fun c d : Char => decide (c.toNat < d.toNat) = true) = (· < ·) := by
    funext c d
    rw [decide_eq_true_eq, Char.lt_def, UInt32.lt_iff_toNat_lt]
    rfl
  rw [isBefore, List.lex_eq_true_iff_lex, codes]
  rfl

theorem not_isBefore_iff {left right : Text} :
    (!isBefore right left) = true ↔ ¬right < left := by
  rw [Bool.not_eq_true', ← Bool.not_eq_true, isBefore_iff]

/-- Texts without repetitions are sorted strictly. -/
theorem sort_strict {texts : List Text} (distinct : texts.Nodup) :
    (sort texts).Pairwise (· < ·) := by
  have ordered : (sort texts).Pairwise fun left right => (!isBefore right left) = true := by
    refine List.pairwise_mergeSort ?_ ?_ texts
    · intro first second third
      simp only [not_isBefore_iff, List.not_lt]
      exact List.le_trans
    · intro left right
      simp only [Bool.or_eq_true, not_isBefore_iff, List.not_lt]
      exact List.le_total left right
  have apart : (sort texts).Nodup := (List.mergeSort_perm texts _).nodup_iff.mpr distinct
  refine (ordered.and apart).imp fun {left right} both => ?_
  obtain ⟨notAfter, differ⟩ := both
  simp only [not_isBefore_iff, List.not_lt] at notAfter
  exact List.not_le.mp fun back => differ (List.le_antisymm notAfter back)

end Text

namespace Registry

variable {registry : Registry} {name : Text} {backend : Backend}

/-- Adds a backend unless its name is taken. -/
def addFree (registry : Registry) (entry : Text × Backend) : Registry :=
  match registry.find? entry.1 with
  | some _ => registry
  | none => registry ++ [entry]

/-- Of several backends under a name the first one counts. -/
theorem find?_addFree (registry : Registry) (entry : Text × Backend) (name : Text) :
    (registry.addFree entry).find? name = (registry.find? name).or (List.lookup name [entry]) := by
  rw [addFree]
  split
  · rename_i taken bound
    by_cases same : name = entry.1
    · subst same
      rw [bound, Option.some_or]
    · have other : (name == entry.1) = false := beq_eq_false_iff_ne.mpr same
      rw [List.lookup_cons, other, List.lookup_nil, Option.or_none]
  · exact List.lookup_append

theorem find?_foldl_addFree (entries : List (Text × Backend)) (registry : Registry) (name : Text) :
    (entries.foldl addFree registry).find? name =
      (registry.find? name).or (List.lookup name entries) := by
  induction entries generalizing registry with
  | nil => rw [List.foldl_nil, List.lookup_nil, Option.or_none]
  | cons entry rest ih =>
    rw [List.foldl_cons, ih, find?_addFree, Option.or_assoc, ← List.lookup_append,
      List.singleton_append]

theorem foldl_addFree_bound {entries : List (Text × Backend)}
    (bound : ∀ entry ∈ entries, (registry.find? entry.1).isSome) :
    entries.foldl addFree registry = registry := by
  induction entries with
  | nil => rfl
  | cons entry rest ih =>
    obtain ⟨first, later⟩ := List.forall_mem_cons.mp bound
    obtain ⟨taken, found⟩ := Option.isSome_iff_exists.mp first
    have unchanged : registry.addFree entry = registry := by rw [addFree, found]
    rw [List.foldl_cons, unchanged, ih later]

theorem mem_of_find? (bound : registry.find? name = some backend) : (name, backend) ∈ registry := by
  obtain ⟨earlier, later, entries, _⟩ := List.lookup_eq_some_iff.mp bound
  rw [entries]
  exact List.mem_append_right earlier List.mem_cons_self

theorem find?_eq_none : registry.find? name = none ↔ name ∉ registry.map Prod.fst := by
  simp only [find?, List.lookup_eq_none_iff, bne_iff_ne, List.mem_map, not_exists, not_and, ne_eq]
  exact ⟨fun free entry among same => free entry among same.symm,
    fun free entry among same => free entry among same.symm⟩

theorem keys_addFree (distinct : (registry.map Prod.fst).Nodup) (entry : Text × Backend) :
    ((registry.addFree entry).map Prod.fst).Nodup := by
  rw [addFree]
  split
  · exact distinct
  · rename_i free
    rw [List.map_append, List.map_singleton]
    refine List.nodup_append.mpr ⟨distinct, List.nodup_singleton _, ?_⟩
    intro key among other new same
    rw [same, List.mem_singleton.mp new] at among
    exact find?_eq_none.mp free among

theorem keys_foldl_addFree (entries : List (Text × Backend))
    (distinct : (registry.map Prod.fst).Nodup) :
    ((entries.foldl addFree registry).map Prod.fst).Nodup := by
  induction entries generalizing registry with
  | nil => exact distinct
  | cons entry rest ih => exact ih (keys_addFree distinct entry)

theorem loadBuiltins_eq (registry : Registry) :
    registry.loadBuiltins = builtins.foldl addFree registry :=
  rfl

theorem loadBuiltins_idempotent (registry : Registry) :
    registry.loadBuiltins.loadBuiltins = registry.loadBuiltins := by
  refine foldl_addFree_bound fun entry among => ?_
  have found : (List.lookup entry.1 builtins).isSome :=
    List.lookup_isSome_iff.mpr ⟨entry, among, beq_self_eq_true entry.1⟩
  rw [loadBuiltins_eq, find?_foldl_addFree, Option.isSome_or, found, Bool.or_true]

theorem mem_names : name ∈ registry.names ↔ ∃ backend, registry.find? name = some backend := by
  rw [← Option.isSome_iff_exists, ← Option.ne_none_iff_isSome, ne_eq, find?_eq_none, not_not, names,
    Text.sort, List.mem_mergeSort]

/-- What is asked of a registry. -/
inductive Operation where
  | register (name : Text) (candidate : Candidate)
  | loadBuiltins
  | get (name : Text)
  | list

inductive Answer where
  | done
  | found (backend : Backend)
  | listed (names : List Text)

/-- The answer to an operation, and the registry after it. -/
def perform (registry : Registry) : Operation → Except RegistryFault Answer × Registry
  | .register name candidate =>
    match registry.register name candidate with
    | .ok next => (.ok .done, next)
    | .error fault => (.error fault, registry)
  | .loadBuiltins => (.ok .done, registry.loadBuiltins)
  | .get name => ((registry.get name).map .found, registry)
  | .list => (.ok (.listed registry.names), registry)

/-- The registry that is empty at first after some operations. -/
def after (operations : List Operation) : Registry :=
  operations.foldl (fun registry operation => (registry.perform operation).2) []

namespace Operation

/-- The backends that an operation offers, and the names for them. -/
def offers : Operation → List (Text × Backend)
  | register name (.backend backend) => [(name, backend)]
  | loadBuiltins => builtins
  | register _ (.other _) | get _ | list => []

end Operation

theorem perform_next (registry : Registry) (operation : Operation) :
    (registry.perform operation).2 = operation.offers.foldl addFree registry := by
  match operation with
  | .register name (.backend backend) =>
    rw [Operation.offers, List.foldl_cons, List.foldl_nil, addFree]
    cases bound : registry.find? name <;> simp only [perform, register, bound]
  | .register name (.other className) =>
    rw [Operation.offers, List.foldl_nil]
    cases bound : registry.find? name <;> simp only [perform, register, bound]
  | .loadBuiltins | .get _ | .list => rfl

theorem perform_error {operation : Operation} {fault : RegistryFault}
    (refused : (registry.perform operation).1 = .error fault) :
    (registry.perform operation).2 = registry := by
  cases operation with
  | register name candidate =>
    revert refused
    rw [perform]
    cases registry.register name candidate with
    | ok next => exact nofun
    | error => exact fun _ => rfl
  | loadBuiltins => exact nomatch refused
  | get | list => rfl

theorem after_concat (operations : List Operation) (operation : Operation) :
    after (operations ++ [operation]) = ((after operations).perform operation).2 :=
  List.foldl_append

theorem after_eq (operations : List Operation) :
    after operations = (operations.flatMap Operation.offers).foldl addFree [] := by
  induction operations using List.reverseRecOn with
  | nil => rfl
  | append_singleton before operation ih =>
    rw [after_concat, perform_next, ih, List.flatMap_append, List.foldl_append,
      List.flatMap_singleton]

/-- What a name is bound to is what was offered under it first. -/
theorem find?_after (operations : List Operation) (name : Text) :
    (after operations).find? name = List.lookup name (operations.flatMap Operation.offers) := by
  rw [after_eq, find?_foldl_addFree, find?, List.lookup_nil, Option.none_or]

theorem keys_after (operations : List Operation) :
    ((after operations).map Prod.fst).Nodup := by
  rw [after_eq]
  exact keys_foldl_addFree _ List.nodup_nil

theorem names_strict (operations : List Operation) :
    (after operations).names.Pairwise (· < ·) :=
  Text.sort_strict (keys_after operations)

/-- A bound name stays bound to the same backend. -/
theorem find?_stays {before : List Operation} (bound : (after before).find? name = some backend)
    (later : List Operation) : (after (before ++ later)).find? name = some backend := by
  rw [find?_after] at bound
  rw [find?_after, List.flatMap_append, List.lookup_append, bound, Option.some_or]

/-- A registration is done for a backend under a free name, and only for that. -/
theorem perform_register (registry : Registry) (name : Text) (candidate : Candidate) :
    (registry.perform (.register name candidate)).1 = .ok .done ↔
      registry.find? name = none ∧ ∃ backend, candidate = .backend backend := by
  cases bound : registry.find? name <;> cases candidate <;>
    simp [perform, register, bound]

theorem perform_get :
    (registry.perform (.get name)).1 = .ok (.found backend) ↔
      registry.find? name = some backend := by
  cases bound : registry.find? name <;> simp [perform, get, bound, Except.map]

theorem perform_get_unknown (registry : Registry) (name : Text) :
    (registry.perform (.get name)).1 = .error (.unknownName name registry.names) ↔
      registry.find? name = none := by
  cases bound : registry.find? name <;> simp [perform, get, bound, Except.map]

/-- Where a bound name comes from: it was given to a backend, or a backend has it from the start. -/
theorem find?_origin {operations : List Operation}
    (bound : (after operations).find? name = some backend) :
    .register name (.backend backend) ∈ operations ∨
      .loadBuiltins ∈ operations ∧ (name, backend) ∈ builtins := by
  rw [find?_after] at bound
  obtain ⟨operation, done, offered⟩ := List.mem_flatMap.mp (mem_of_find? bound)
  match operation with
  | .register _ (.backend _) =>
    cases List.mem_singleton.mp offered
    exact .inl done
  | .register _ (.other _) | .get _ | .list => exact absurd offered List.not_mem_nil
  | .loadBuiltins => exact .inr ⟨done, offered⟩

/-- A registration, or the built-in backends being loaded, that is done and binds a free name. -/
structure Binds (registry : Registry) (operation : Operation) (name : Text) (backend : Backend) :
    Prop where
  binder : operation = .register name (.backend backend) ∨ operation = .loadBuiltins
  done : (registry.perform operation).1 = .ok .done
  free : registry.find? name = none
  bound : (registry.perform operation).2.find? name = some backend

theorem binds_of_bound {operation : Operation} (free : registry.find? name = none)
    (bound : (registry.perform operation).2.find? name = some backend) :
    registry.Binds operation name backend := by
  have offered := bound
  rw [perform_next, find?_foldl_addFree, free, Option.none_or] at offered
  match operation with
  | .register other (.backend given) =>
    cases List.mem_singleton.mp (mem_of_find? offered)
    exact ⟨.inl rfl, (perform_register registry name _).mpr ⟨free, backend, rfl⟩, free, bound⟩
  | .register _ (.other _) | .get _ | .list => exact nomatch offered
  | .loadBuiltins => exact ⟨.inr rfl, rfl, free, bound⟩

/-- A name is bound exactly if some operation before has bound it. -/
theorem find?_after_iff {operations : List Operation} :
    (after operations).find? name = some backend ↔ ∃ before operation later,
      operations = before ++ operation :: later ∧ (after before).Binds operation name backend := by
  constructor
  · intro bound
    -- From the right: where the name is bound already, the last operation keeps its backend.
    induction operations using List.reverseRecOn with
    | nil => exact nomatch bound
    | append_singleton before operation ih =>
      rw [after_concat] at bound
      cases earlier : (after before).find? name with
      | none => exact ⟨before, operation, [], rfl, binds_of_bound earlier bound⟩
      | some taken =>
        have stays := find?_stays earlier [operation]
        rw [after_concat, bound] at stays
        obtain rfl := Option.some.inj stays
        obtain ⟨first, binder, later, rfl, binds⟩ := ih earlier
        exact ⟨first, binder, later ++ [operation], by simp, binds⟩
  · rintro ⟨before, operation, later, rfl, binds⟩
    have bound := binds.bound
    rw [← after_concat] at bound
    have stays := find?_stays bound later
    rwa [List.append_assoc, List.singleton_append] at stays

end Registry

end AppDescription
