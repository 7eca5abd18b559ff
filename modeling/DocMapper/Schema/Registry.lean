import DocMapper.Assoc
import DocMapper.Schema.Type
import DocMapper.Value.Diagnostic

/-!
# Registries of types

The descriptions a mapper works from, by name. Registering a type again replaces its description.
`ancestry` walks from a type to its superclasses as far as they are registered; the number of
registered types that a walk has not seen bounds it, cyclic hierarchies included.
-/

namespace DocMapper

/-- Descriptions of types by name. -/
abbrev Registry := List (ClassName × TypeSchema)

namespace Registry

def register (registry : Registry) (schema : TypeSchema) : Registry :=
  Assoc.insert schema.name schema registry

def ofTypes (schemas : List TypeSchema) : Registry :=
  schemas.foldl register []

def find? (registry : Registry) (name : ClassName) : Option TypeSchema :=
  List.lookup name registry

def contains (registry : Registry) (name : ClassName) : Bool :=
  (registry.find? name).isSome

def size (registry : Registry) : Nat :=
  List.length registry

/-- The diagnostic form: the names in order. -/
def diagnostic (registry : Registry) : String :=
  let names := (registry.map Prod.fst).mergeSort fun a b => (compare a b).isLE
  "SchemaRegistry \x7b types: " ++ bracketed (names.map ClassName.diagnostic) ++ " \x7d"

/-- The number of registered types that are not among `seen`. -/
def unseen (registry : Registry) (seen : List ClassName) : Nat :=
  (registry.filter fun entry => entry.1 ∉ seen).length

/-- Seeing another registered type leaves fewer to see. -/
theorem unseen_cons_lt {registry : Registry} {seen : List ClassName} {name : ClassName}
    {schema : TypeSchema} (found : registry.find? name = some schema) (fresh : name ∉ seen) :
    registry.unseen (name :: seen) < registry.unseen seen := by
  induction registry with
  | nil => simp [find?] at found
  | cons entry rest ih =>
    obtain ⟨key, description⟩ := entry
    by_cases same : key = name
    · have mono : unseen rest (name :: seen) ≤ unseen rest seen := by
        simp only [unseen, ← List.countP_eq_length_filter]
        exact List.countP_mono_left fun e _ h => by simp_all
      simp only [unseen] at mono ⊢
      simpa [same, fresh] using Nat.lt_succ_of_le mono
    · have differs : (name == key) = false := by simpa using fun e => same e.symm
      have := ih (by simpa [find?, List.lookup_cons, differs] using found)
      simp only [unseen] at this ⊢
      by_cases h : key ∈ seen <;> simp_all

/-- A type and its superclasses, as far as they are registered and new. -/
def ancestry (registry : Registry) (seen : List ClassName) (schema : TypeSchema) :
    List TypeSchema :=
  schema ::
    match schema.superclass with
    | none => []
    | some parent =>
      if fresh : parent ∉ seen then
        match found : registry.find? parent with
        | none => []
        | some parentSchema =>
          have := unseen_cons_lt found fresh
          registry.ancestry (parent :: seen) parentSchema
      else []
termination_by registry.unseen seen

/-- Puts a method in the place of the one with the same name, or behind all others. -/
def override : List Method → Method → List Method
  | [], method => [method]
  | other :: rest, method =>
    if other.name = method.name then method :: rest else other :: override rest method

/-- The instance methods of a type and its superclasses. A method keeps the place of the furthest
ancestor that declares one of its name, and the body of the nearest. -/
def methods (registry : Registry) (schema : TypeSchema) : List Method :=
  ((registry.ancestry [schema.name] schema).reverse.flatMap fun ancestor =>
    ancestor.methods.filter (!·.isStatic)).foldl override []

end Registry

end DocMapper
