import DocMapper.Hook.Script
import DocMapper.Proofs.Hook.Table

/-!
# How the methods of a line of types are put in a row

A type and its superclasses may declare a method of one name several times, each of them and all
together. In the row of methods that the type has the name stands once. Its place is decided by the
first declaration, counted from the furthest ancestor down, and its body by the last one in the type
nearest by; a static method decides neither.

The main result is that the gathered methods of a type make this row, whether its superclasses end,
lead to a type that is not registered or come back to one of them.
-/

namespace DocMapper

namespace TypeSchema

/-- The type itself declares an instance method of the name. -/
def Declares (schema : TypeSchema) (name : String) : Prop :=
  ∃ method ∈ schema.methods, method.isStatic = false ∧ method.name = name

/-- The method is the last instance method of its name that the type itself declares. -/
def DeclaresLast (schema : TypeSchema) (method : Method) : Prop :=
  ∃ before after, schema.methods = before ++ method :: after ∧ method.isStatic = false ∧
    ∀ later ∈ after, later.isStatic = false → later.name ≠ method.name

end TypeSchema

namespace Registry

/-- The instance methods that the types of a line declare, those of the furthest ancestor first. -/
def declarations (line : List TypeSchema) : List Method :=
  line.reverse.flatMap fun ancestor => ancestor.methods.filter (!·.isStatic)

/-- Where the name is first declared on a line. -/
def place (line : List TypeSchema) (name : String) : Nat :=
  ((declarations line).map Method.name).idxOf name

/-- The methods that a line of types, the nearest first, comes to. -/
structure Linearizes (line : List TypeSchema) (methods : List Method) : Prop where
  names : ∀ name, name ∈ methods.map Method.name ↔ ∃ type ∈ line, type.Declares name
  once : (methods.map Method.name).Nodup
  /-- A body is the last of its name in the nearest type that declares one. -/
  bodies : ∀ method ∈ methods, ∃ nearer owner farther, line = nearer ++ owner :: farther ∧
    (∀ type ∈ nearer, ¬ type.Declares method.name) ∧ owner.DeclaresLast method
  order : methods.Pairwise fun earlier later => place line earlier.name < place line later.name

variable {registry : Registry} {line : List TypeSchema} {methods : List Method} {method : Method}
  {schema : TypeSchema} {name : String}

theorem mem_names_declarations :
    name ∈ (declarations line).map Method.name ↔ ∃ type ∈ line, type.Declares name := by
  simp only [declarations, TypeSchema.Declares, List.mem_map, List.mem_flatMap, List.mem_reverse,
    List.mem_filter, Bool.not_eq_true']
  constructor
  · rintro ⟨method, ⟨type, member, declared, isInstance⟩, named⟩
    exact ⟨type, member, method, declared, isInstance, named⟩
  · rintro ⟨type, member, method, declared, isInstance, named⟩
    exact ⟨method, ⟨type, member, declared, isInstance⟩, named⟩

/-! ### The last declaration -/

/-- Looking for a name from the last instance method of a type on. -/
theorem find?_reverse_filter_eq_none :
    (schema.methods.filter (!·.isStatic)).reverse.find? (·.name = name) = none ↔
      ¬ schema.Declares name := by
  simp [TypeSchema.Declares]

theorem declaresLast_of_find?
    (found : (schema.methods.filter (!·.isStatic)).reverse.find? (·.name = name) = some method) :
    method.name = name ∧ schema.DeclaresLast method := by
  rw [← List.filter_reverse, List.find?_filter, List.find?_eq_some_iff_append] at found
  obtain ⟨isFound, after, before, split, others⟩ := found
  obtain ⟨isInstance, rfl⟩ : method.isStatic = false ∧ method.name = name := by
    simpa using isFound
  refine ⟨rfl, before.reverse, after.reverse, ?_, isInstance, ?_⟩
  · simpa using congrArg List.reverse split
  · intro later member isInstance
    simpa [isInstance] using others later (List.mem_reverse.mp member)

/-- Looking for a name from the last declaration of a line on, one comes to the nearest type that
declares it. -/
theorem exists_owner_of_find?
    (found : (declarations line).reverse.find? (·.name = name) = some method) :
    ∃ nearer owner farther, line = nearer ++ owner :: farther ∧
      (∀ type ∈ nearer, ¬ type.Declares name) ∧ method.name = name ∧ owner.DeclaresLast method := by
  rw [declarations, List.reverse_flatMap, List.reverse_reverse, List.find?_flatMap,
    List.findSome?_eq_some_iff] at found
  obtain ⟨nearer, owner, farther, split, here, missing⟩ := found
  refine ⟨nearer, owner, farther, split, ?_, declaresLast_of_find? here⟩
  intro type member
  exact find?_reverse_filter_eq_none.mp (missing type member)

/-! ### The row of methods -/

/-- Overriding the declarations of a line one after the other makes its row. -/
theorem Overrides.linearizes (overrides : Overrides (declarations line) methods) :
    Linearizes line methods where
  names name := by
    rw [overrides.names, List.mem_eraseDups]
    exact mem_names_declarations
  once := by
    rw [overrides.names]
    exact nodup_eraseDups _
  bodies method member := by
    obtain ⟨nearer, owner, farther, split, missing, -, last⟩ :=
      exists_owner_of_find? (overrides.latest method member)
    exact ⟨nearer, owner, farther, split, missing, last⟩
  order := by
    have sorted := pairwise_idxOf_eraseDups ((declarations line).map Method.name)
    rw [← overrides.names, List.pairwise_map] at sorted
    exact sorted

/-- A type has one line of superclasses, and the methods that it has are the row of this line: each
name that an instance method on the line has stands there once, with the last body in the nearest
type that declares it, in the order in which the names are first declared. -/
theorem methods_linearize (named : registry.Named) (schema : TypeSchema) :
    ∃ line, registry.Lineage schema line ∧ (∀ other, registry.Lineage schema other → other = line) ∧
      Linearizes line (registry.methods schema) := by
  obtain ⟨line, isLine, overrides⟩ := inherits_methods named schema
  refine ⟨line, isLine, ?_, overrides.linearizes⟩
  intro other isOther
  exact isOther.unique named isLine

end Registry

namespace Samples

/-- A type that grows and sheds, and comes from its own descendant. -/
def trunk : TypeSchema where
  name := ⟨"Trunk"⟩
  superclass := some ⟨"Leaf"⟩
  methods := [
    .scripted ⟨"Trunk"⟩ "grow" [] .zero false [],
    .scripted ⟨"Trunk"⟩ "help" [] .zero true [],
    .scripted ⟨"Trunk"⟩ "shed" [] .zero false []]

/-- A type that sheds in two ways, and whose own growing is static. -/
def branch : TypeSchema where
  name := ⟨"Branch"⟩
  superclass := some trunk.name
  methods := [
    .scripted ⟨"Branch"⟩ "shed" [] .one false [],
    .scripted ⟨"Branch"⟩ "bend" [] .zero false [],
    .scripted ⟨"Branch"⟩ "grow" [] .zero true [],
    .scripted ⟨"Branch"⟩ "shed" [] .two false []]

def leaf : TypeSchema where
  name := ⟨"Leaf"⟩
  superclass := some branch.name
  methods := [
    .scripted ⟨"Leaf"⟩ "shed" [] .zero true [],
    .scripted ⟨"Leaf"⟩ "grow" [] .two false []]

def tree : Registry := .ofTypes [trunk, branch, leaf]

/-- The line of leaves ends where it comes back to them. They grow in their own way, in the place of
the trunk, shed in the second way of branches, and bend as branches do. -/
theorem methods_linearize_tree :
    tree.Named ∧ ∃ line, tree.Lineage leaf line ∧
      (∀ other, tree.Lineage leaf other → other = line) ∧
      Registry.Linearizes line (tree.methods leaf) ∧
      line.map TypeSchema.name = [leaf.name, branch.name, trunk.name] ∧
      (tree.methods leaf).map (fun method => (method.declaredBy, method.name, method.arity)) =
        [(leaf.name, "grow", .two), (branch.name, "shed", .two), (branch.name, "bend", .zero)] := by
  have named : tree.Named := Registry.named_ofTypes _
  obtain ⟨line, isLine, only, linearizes⟩ := Registry.methods_linearize named leaf
  have walked : tree.ancestry [leaf.name] leaf = line :=
    only _ (Registry.lineage_ancestry named leaf)
  refine ⟨named, line, isLine, only, linearizes, ?_, by decide +kernel⟩
  rw [← walked]
  decide +kernel

end Samples

end DocMapper
