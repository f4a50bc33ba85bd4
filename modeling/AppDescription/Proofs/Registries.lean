import AppDescription.Proofs.Registrations

namespace AppDescription

inductive Side where
  | own
  | shared
  deriving DecidableEq

/-- The registries of a program: one of its own, and the shared one, which is made when it is first
used. -/
structure Registries where
  own : Registry
  shared? : Option Registry

namespace Registries

def registry (both : Registries) : Side → Registry
  | .own => both.own
  | .shared => both.shared?.getD Registry.standard

/-- The answer of one of the registries to an operation, and both registries after it. -/
def perform (both : Registries) (side : Side) (operation : Registry.Operation) :
    Except RegistryFault Registry.Answer × Registries :=
  let (answer, next) := (both.registry side).perform operation
  match side with
  | .own => (answer, { both with own := next })
  | .shared => (answer, { both with shared? := some next })

def after (operations : List (Side × Registry.Operation)) : Registries :=
  operations.foldl (fun both entry => (both.perform entry.1 entry.2).2) ⟨[], none⟩

/-- What one of the registries is asked. -/
def asked (operations : List (Side × Registry.Operation)) (side : Side) :
    List Registry.Operation :=
  (operations.filter (·.1 = side)).map Prod.snd

/-- What one of the registries did. The shared one begins with the built-in backends. -/
def history (operations : List (Side × Registry.Operation)) : Side → List Registry.Operation
  | .own => asked operations .own
  | .shared => .loadBuiltins :: asked operations .shared

theorem perform_answer (both : Registries) (side : Side) (operation : Registry.Operation) :
    (both.perform side operation).1 = ((both.registry side).perform operation).1 := by
  cases side <;> rfl

/-- An operation is done on the one registry and does not touch the other. -/
theorem perform_registry (both : Registries) (side other : Side) (operation : Registry.Operation) :
    (both.perform side operation).2.registry other =
      if side = other then ((both.registry side).perform operation).2 else both.registry other := by
  cases side <;> cases other <;> rfl

theorem history_append (before later : List (Side × Registry.Operation)) (side : Side) :
    history (before ++ later) side = history before side ++ asked later side := by
  cases side <;> simp [history, asked]

theorem after_concat (operations : List (Side × Registry.Operation)) (side : Side)
    (operation : Registry.Operation) :
    after (operations ++ [(side, operation)]) = ((after operations).perform side operation).2 :=
  List.foldl_append

/-- Each registry is as it is after its own operations alone. -/
theorem after_registry (operations : List (Side × Registry.Operation)) (other : Side) :
    (after operations).registry other = Registry.after (history operations other) := by
  induction operations using List.reverseRecOn with
  | nil => cases other <;> rfl
  | append_singleton before entry ih =>
    obtain ⟨side, operation⟩ := entry
    rw [after_concat, perform_registry, history_append]
    split
    · rename_i same
      subst same
      have operations : asked [(side, operation)] side = [operation] := by simp [asked]
      rw [operations, Registry.after_concat, ih]
    · rename_i different
      have nothing : asked [(side, operation)] other = [] := by simp [asked, different]
      rw [nothing, List.append_nil, ih]

/-- A name is bound once in each registry, to a backend only, and neither registry is changed by
what the other is asked. It is bound to what was offered under it first, and loading the built-in
backends offers all of them. -/
theorem write_once (before : List (Side × Registry.Operation)) (side : Side) :
    let registry := (after before).registry side
    registry = Registry.after (history before side) ∧
    (∀ name, registry.find? name =
      List.lookup name ((history before side).flatMap Registry.Operation.offers)) ∧
    (∀ operation, ((after before).perform .own operation).2.shared? = (after before).shared? ∧
      ((after before).perform .shared operation).2.own = (after before).own) ∧
    (∀ name backend, registry.find? name = some backend → ∀ later,
      ((after (before ++ later)).registry side).find? name = some backend) ∧
    registry.loadBuiltins.loadBuiltins = registry.loadBuiltins ∧
    (∀ name candidate, ((after before).perform side (.register name candidate)).1 = .ok .done ↔
      registry.find? name = none ∧ ∃ backend, candidate = .backend backend) ∧
    (∀ name backend, registry.find? name = some backend →
      .register name (.backend backend) ∈ history before side ∨
        .loadBuiltins ∈ history before side ∧ (name, backend) ∈ Registry.builtins) ∧
    (∀ operation fault, ((after before).perform side operation).1 = .error fault →
      ((after before).perform side operation).2.registry side = registry) ∧
    (∀ name backend, ((after before).perform side (.get name)).1 = .ok (.found backend) ↔
      ∃ earlier operation later, history before side = earlier ++ operation :: later ∧
        (Registry.after earlier).Binds operation name backend) ∧
    (∀ name, ((after before).perform side (.get name)).1 =
        .error (.unknownName name registry.names) ↔ registry.find? name = none) ∧
    ((after before).perform side .list).1 = .ok (.listed registry.names) ∧
    registry.names.Pairwise (· < ·) ∧
    ∀ name, name ∈ registry.names ↔ ∃ backend, registry.find? name = some backend := by
  intro registry
  have alone : registry = Registry.after (history before side) := after_registry before side
  refine ⟨alone, ?_, fun _ => ⟨rfl, rfl⟩, ?_, registry.loadBuiltins_idempotent, ?_, ?_, ?_, ?_, ?_,
    ?_, ?_, fun _ => Registry.mem_names⟩
  · intro name
    rw [alone]
    exact Registry.find?_after _ name
  · intro name backend bound later
    rw [alone] at bound
    rw [after_registry, history_append]
    exact Registry.find?_stays bound (asked later side)
  · intro name candidate
    rw [perform_answer]
    exact registry.perform_register name candidate
  · intro name backend bound
    rw [alone] at bound
    exact Registry.find?_origin bound
  · intro operation fault refused
    rw [perform_answer] at refused
    rw [perform_registry, if_pos rfl]
    exact Registry.perform_error refused
  · intro name backend
    rw [perform_answer, Registry.perform_get, after_registry]
    exact Registry.find?_after_iff
  · intro name
    rw [perform_answer]
    exact registry.perform_get_unknown name
  · rw [perform_answer]
    rfl
  · rw [alone]
    exact Registry.names_strict _

theorem write_once_manual :
    let manual : Backend := ⟨"Manual", .unstated "Manual", fun _ => ⟨[], []⟩⟩
    let before : List (Side × Registry.Operation) := [(.own, .register "vue" (.backend manual))]
    let later : List (Side × Registry.Operation) := [(.own, .loadBuiltins), (.shared, .get "vue")]
    let another : Registry.Operation := .register "vue" (.other "dict")
    ((after (before ++ later)).registry .own).find? "vue" = some manual ∧
    ((after before).perform .own another).1 = .error (.nameTaken "vue" "dict") ∧
    ((after before).perform .own another).2.registry .own = (after before).registry .own := by
  intro manual before later another
  obtain ⟨_, first, _, stays, _, _, _, unchanged, _⟩ := write_once before .own
  have bound : ((after before).registry .own).find? "vue" = some manual := by
    rw [first]
    exact List.lookup_cons_self
  have refused : ((after before).perform .own another).1 = .error (.nameTaken "vue" "dict") := by
    simp only [perform_answer, another, Registry.perform, Registry.register, bound,
      Candidate.className]
  exact ⟨stays _ _ bound later, refused, unchanged another _ refused⟩

end Registries

end AppDescription
