import Mathlib.Logic.Relation
import DocMapper.Mapping.Catalog

/-!
# What a class is described as

`Describes` says which descriptor the registered types give a class. It has a finite derivation, one
step for each supertype, so it knows neither a cache nor a path of types under way. A class has at
most one descriptor, and a class that is its own ancestor has none.
-/

namespace DocMapper

namespace Registry

/-- The second type is the superclass or an interface of the first. -/
def Link (registry : Registry) (name super : ClassName) : Prop :=
  ∃ schema, registry.find? name = some schema ∧
    (schema.superclass = some super ∨ super ∈ schema.interfaces)

/-- Every type is registered under its own name. -/
def Named (registry : Registry) : Prop :=
  ∀ name schema, registry.find? name = some schema → schema.name = name

theorem Named.register {registry : Registry} (named : registry.Named) (schema : TypeSchema) :
    (registry.register schema).Named := by
  intro name found h
  by_cases same : name = schema.name
  · subst same
    simp only [find?, Registry.register, Assoc.lookup_insert_self, Option.some.injEq] at h
    rw [← h]
  · rw [find?, Registry.register, Assoc.lookup_insert_of_ne same] at h
    exact named name found h

/-- Registering types one after the other keeps them under their names. -/
theorem named_ofTypes (schemas : List TypeSchema) : (ofTypes schemas).Named := by
  have keeps : ∀ (types : List TypeSchema) (registry : Registry), registry.Named →
      (types.foldl Registry.register registry).Named := by
    intro types
    induction types with
    | nil => exact fun _ named => named
    | cons type rest ih => exact fun registry named => ih _ (named.register type)
  exact keeps schemas [] (by intro _ _ h; simp [find?] at h)

end Registry

namespace Catalog

/-- The descriptor that the registered types give a class. -/
inductive Describes (catalog : Catalog) : ClassName → Descriptor → Prop
  | intro {name : ClassName} {schema : TypeSchema} {superclass : Option Descriptor}
      {interfaces : List Descriptor} {handlers : List Handler}
      (registered : catalog.registry.find? name = some schema)
      (nesting : schema.nesting ≠ .innerMember)
      (hasParent : superclass.isSome = schema.superclass.isSome)
      (parent : ∀ super descriptor, schema.superclass = some super →
        superclass = some descriptor → Describes catalog super descriptor)
      (interfaceCount : interfaces.length = schema.interfaces.length)
      (interface : ∀ super descriptor, (super, descriptor) ∈ schema.interfaces.zip interfaces →
        Describes catalog super descriptor)
      (served : catalog.registry.handlers schema = .ok handlers)
      (lawful : (catalog.assemble schema superclass interfaces handlers).violations
        catalog.registry = []) :
      Describes catalog name (catalog.assemble schema superclass interfaces handlers)

/-- A type without a superclass has the methods that it declares. -/
theorem methods_alone {registry : Registry} {schema : TypeSchema}
    (noParent : schema.superclass = none) :
    registry.methods schema = (schema.methods.filter (!·.isStatic)).foldl Registry.override [] := by
  rw [Registry.methods, Registry.ancestry]
  simp [noParent]

/-- A listener without a superclass contributes the methods that it declares. -/
theorem listenerHandlers_alone {registry : Registry} {schema described : TypeSchema}
    {listener : ClassName} {factory : ListenerFactory} (other : listener ≠ schema.name)
    (registered : registry.find? listener = some described)
    (makes : described.factory = some factory) (noParent : described.superclass = none) :
    registry.listenerHandlers schema listener =
      .ok (((described.methods.filter (!·.isStatic)).foldl Registry.override []).map
        (Handler.mk (some ⟨listener, factory⟩))) := by
  rw [Registry.listenerHandlers, if_neg other, registered]
  simp only [makes, methods_alone noParent]

/-- A type without supertypes is described by its own fields and those who serve its events. -/
theorem describes_served {catalog : Catalog} {schema : TypeSchema} {handlers : List Handler}
    (registered : catalog.registry.find? schema.name = some schema)
    (nesting : schema.nesting ≠ .innerMember) (noParent : schema.superclass = none)
    (noInterfaces : schema.interfaces = [])
    (served : catalog.registry.handlers schema = .ok handlers)
    (lawful : (catalog.assemble schema none [] handlers).violations catalog.registry = []) :
    catalog.Describes schema.name (catalog.assemble schema none [] handlers) := by
  refine .intro registered nesting ?_ ?_ ?_ ?_ served lawful
  · simp [noParent]
  · intro _ _ isParent
    simp [noParent] at isParent
  · simp [noInterfaces]
  · intro _ _ isInterface
    simp at isInterface

/-- A type without supertypes, methods and listeners is described by its own fields. -/
theorem describes_alone {catalog : Catalog} {schema : TypeSchema}
    (registered : catalog.registry.find? schema.name = some schema)
    (nesting : schema.nesting ≠ .innerMember) (noParent : schema.superclass = none)
    (noInterfaces : schema.interfaces = []) (noMethods : schema.methods = [])
    (noListeners : schema.listenerNames = [])
    (lawful : (catalog.assemble schema none [] []).violations catalog.registry = []) :
    catalog.Describes schema.name (catalog.assemble schema none [] []) := by
  have served : catalog.registry.handlers schema = .ok [] := by
    rw [Registry.handlers, methods_alone noParent, noMethods, noListeners]
    rfl
  exact describes_served registered nesting noParent noInterfaces served lawful

/-- Lists that go with the same keys are equal if what goes with one key is. -/
private theorem eq_of_zip {α β : Type} {keys : List α} {first second : List β}
    (count : first.length = keys.length) (count' : second.length = keys.length)
    (same : ∀ key a b, (key, a) ∈ keys.zip first → (key, b) ∈ keys.zip second → a = b) :
    first = second := by
  induction keys generalizing first second with
  | nil => rw [List.eq_nil_of_length_eq_zero count, List.eq_nil_of_length_eq_zero count']
  | cons key keys ih =>
    obtain ⟨a, first, rfl⟩ := List.exists_cons_of_length_eq_add_one count
    obtain ⟨b, second, rfl⟩ := List.exists_cons_of_length_eq_add_one count'
    have head : a = b := same key a b (by simp) (by simp)
    have tail : first = second :=
      ih (by simpa using count) (by simpa using count') fun key a b ha hb =>
        same key a b (List.mem_cons_of_mem _ ha) (List.mem_cons_of_mem _ hb)
    rw [head, tail]

/-- Options that go with the same key are equal if what goes with it is. -/
private theorem eq_of_key {α β : Type} {key : Option α} {first second : Option β}
    (present : first.isSome = key.isSome) (present' : second.isSome = key.isSome)
    (same : ∀ k a b, key = some k → first = some a → second = some b → a = b) :
    first = second := by
  cases key with
  | none => simp_all
  | some k =>
    obtain ⟨a, rfl⟩ := Option.isSome_iff_exists.mp (present.trans rfl)
    obtain ⟨b, rfl⟩ := Option.isSome_iff_exists.mp (present'.trans rfl)
    rw [same k a b rfl rfl rfl]

/-- Every supertype of a type goes with one of the descriptors given for its supertypes. -/
theorem given_of_link {registry : Registry} {name super : ClassName} {schema : TypeSchema}
    {superclass : Option Descriptor} {interfaces : List Descriptor}
    (registered : registry.find? name = some schema)
    (hasParent : superclass.isSome = schema.superclass.isSome)
    (interfaceCount : interfaces.length = schema.interfaces.length)
    (link : registry.Link name super) :
    (∃ d, schema.superclass = some super ∧ superclass = some d) ∨
      ∃ d, (super, d) ∈ schema.interfaces.zip interfaces := by
  obtain ⟨schema', found, isSuper⟩ := link
  obtain rfl := Option.some.inj (registered.symm.trans found)
  rcases isSuper with isParent | isInterface
  · rw [isParent] at hasParent
    obtain ⟨d, rfl⟩ := Option.isSome_iff_exists.mp hasParent
    exact .inl ⟨d, isParent, rfl⟩
  · obtain ⟨i, bound, rfl⟩ := List.getElem_of_mem isInterface
    have bound' : i < interfaces.length := by omega
    refine .inr ⟨interfaces[i], List.mem_iff_getElem.mpr ⟨i, ?_, List.getElem_zip⟩⟩
    rw [List.length_zip]
    omega

namespace Describes

variable {catalog : Catalog} {name super : ClassName} {descriptor other : Descriptor}

/-- A class has at most one descriptor. -/
theorem unique (h : catalog.Describes name descriptor) (h' : catalog.Describes name other) :
    descriptor = other := by
  induction h generalizing other with
  | intro registered _ hasParent _ interfaceCount _ served _ parentUnique interfaceUnique =>
    cases h' with
    | intro registered' _ hasParent' parent' interfaceCount' interface' served' _ =>
      obtain rfl := Option.some.inj (registered.symm.trans registered')
      obtain rfl := Except.ok.inj (served.symm.trans served')
      have parents := eq_of_key hasParent hasParent' fun super a b ha hb hc =>
        parentUnique super a ha hb (parent' super b ha hc)
      have interfaces := eq_of_zip interfaceCount interfaceCount' fun super a b ha hb =>
        interfaceUnique super a ha (interface' super b hb)
      rw [parents, interfaces]

/-- A described class is not its own ancestor: a way back to it would lead through one of its
supertypes, which then were its own ancestor. -/
theorem not_ancestor_self (h : catalog.Describes name descriptor) :
    ¬ Relation.TransGen catalog.registry.Link name name := by
  induction h with
  | intro registered _ hasParent _ interfaceCount _ _ _ parentStep interfaceStep =>
    intro cycle
    obtain ⟨super, link, back⟩ := Relation.TransGen.head'_iff.mp cycle
    have again := Relation.TransGen.tail' back link
    rcases given_of_link registered hasParent interfaceCount link with
      ⟨d, isParent, given⟩ | ⟨d, given⟩
    · exact parentStep super d isParent given again
    · exact interfaceStep super d given again

/-- The schema that a descriptor is made of is the registered one. -/
theorem find?_eq (h : catalog.Describes name descriptor) :
    catalog.registry.find? name = some descriptor.schema := by
  cases h with
  | intro registered => exact registered

theorem className_eq (named : catalog.registry.Named) (h : catalog.Describes name descriptor) :
    descriptor.className = name :=
  named name descriptor.schema h.find?_eq

theorem violations_eq (h : catalog.Describes name descriptor) :
    descriptor.violations catalog.registry = [] := by
  cases h with
  | intro _ _ _ _ _ _ _ lawful => exact lawful

/-- The supertypes of a described class are described. -/
theorem of_link (described : catalog.Describes name descriptor)
    (link : catalog.registry.Link name super) : ∃ other, catalog.Describes super other := by
  cases described with
  | intro registered _ hasParent parent interfaceCount interface _ _ =>
    rcases given_of_link registered hasParent interfaceCount link with
      ⟨d, isParent, given⟩ | ⟨d, given⟩
    · exact ⟨d, parent super d isParent given⟩
    · exact ⟨d, interface super d given⟩

theorem of_ancestor (described : catalog.Describes name descriptor) {ancestor : ClassName}
    (reached : Relation.ReflTransGen catalog.registry.Link name ancestor) :
    ∃ other, catalog.Describes ancestor other := by
  induction reached with
  | refl => exact ⟨descriptor, described⟩
  | tail _ link ih =>
    obtain ⟨_, described⟩ := ih
    exact described.of_link link

/-- An object of a described class can only stand for the class itself and its ancestors. -/
theorem reaches_of_isAssignableTo (named : catalog.registry.Named)
    (described : catalog.Describes name descriptor) {target : ClassName}
    (assignable : descriptor.isAssignableTo target = true) :
    Relation.ReflTransGen catalog.registry.Link name target := by
  induction described with
  | @intro name schema superclass interfaces _ registered _ hasParent _ interfaceCount _ _ _
      parentReaches interfaceReaches =>
    simp only [assemble, Descriptor.isAssignableTo, Bool.or_eq_true, decide_eq_true_eq,
      Descriptor.superclassAssignable_eq_true, Descriptor.someAssignable_eq_true] at assignable
    rcases assignable with (sameName | ⟨d, rfl, inParent⟩) | ⟨d, member, inInterface⟩
    · obtain rfl : name = target := (named name schema registered).symm.trans sameName
      exact .refl
    · obtain ⟨super, isParent⟩ := Option.isSome_iff_exists.mp hasParent.symm
      exact .head ⟨schema, registered, .inl isParent⟩ (parentReaches super d isParent rfl inParent)
    · obtain ⟨i, bound, rfl⟩ := List.getElem_of_mem member
      have given : (schema.interfaces[i], interfaces[i]) ∈ schema.interfaces.zip interfaces :=
        List.mem_iff_getElem.mpr ⟨i, by rw [List.length_zip]; omega, List.getElem_zip⟩
      exact .head ⟨schema, registered, .inr (List.getElem_mem _)⟩
        (interfaceReaches _ _ given inInterface)

/-- An object of a described class can stand for the class itself and for all of its ancestors. -/
theorem isAssignableTo_of_reaches (named : catalog.registry.Named)
    (described : catalog.Describes name descriptor) {target : ClassName}
    (reached : Relation.ReflTransGen catalog.registry.Link name target) :
    descriptor.isAssignableTo target = true := by
  induction described with
  | @intro name schema superclass interfaces _ registered _ hasParent _ interfaceCount _ _ _
      parentAssignable interfaceAssignable =>
    simp only [assemble, Descriptor.isAssignableTo, Bool.or_eq_true, decide_eq_true_eq,
      Descriptor.superclassAssignable_eq_true, Descriptor.someAssignable_eq_true]
    rcases Relation.ReflTransGen.cases_head reached with rfl | ⟨super, link, reached⟩
    · exact .inl (.inl (named name schema registered))
    · rcases given_of_link registered hasParent interfaceCount link with
        ⟨d, isParent, given⟩ | ⟨d, given⟩
      · exact .inl (.inr ⟨d, given, parentAssignable super d isParent given reached⟩)
      · exact .inr ⟨d, (List.of_mem_zip given).2, interfaceAssignable super d given reached⟩

theorem isAssignableTo_iff_reaches (named : catalog.registry.Named)
    (described : catalog.Describes name descriptor) {target : ClassName} :
    descriptor.isAssignableTo target = true ↔
      Relation.ReflTransGen catalog.registry.Link name target :=
  ⟨described.reaches_of_isAssignableTo named, described.isAssignableTo_of_reaches named⟩

end Describes

end Catalog

end DocMapper
