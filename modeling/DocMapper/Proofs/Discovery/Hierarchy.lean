import Mathlib.Order.Defs.Unbundled
import DocMapper.Proofs.Discovery.Coherent
import DocMapper.Samples

/-!
# The order of classes

An object can stand where a class is declared if that class is its own or an ancestor of its own. A
descriptor decides this by itself, by walking through the descriptors of supertypes inside it, and
whatever the mapper was asked for before, its answer is that of the links between the registered
types. A supertype that the descriptor names is one link away.

Since a class that can be described is not its own ancestor, no way leads there and back between two
of them: standing for each other orders these classes.
-/

namespace DocMapper

namespace Catalog

variable {catalog : Catalog} {name target : ClassName} {descriptor : Descriptor}

namespace Describes

private theorem superclass_any_iff (named : catalog.registry.Named) {parent : Option ClassName}
    {superclass : Option Descriptor} (rel : Option.Rel catalog.Describes parent superclass) :
    superclass.any (·.className = target) = true ↔ parent = some target := by
  cases rel with
  | none => simp
  | some described => simp [described.className_eq named]

private theorem interfaces_any_iff (named : catalog.registry.Named) {names : List ClassName}
    {interfaces : List Descriptor} (rel : List.Forall₂ catalog.Describes names interfaces) :
    interfaces.any (·.className = target) = true ↔ target ∈ names := by
  induction rel with
  | nil => simp
  | cons described _ ih =>
    rw [List.any_cons, Bool.or_eq_true, ih, List.mem_cons, described.className_eq named]
    simp [eq_comm]

/-- The supertypes that a descriptor names are those of the registered type. -/
theorem isSubType_iff_link (named : catalog.registry.Named)
    (described : catalog.Describes name descriptor) :
    descriptor.isSubType target = true ↔ catalog.registry.Link name target := by
  rw [Descriptor.isSubType, Bool.or_eq_true, superclass_any_iff named described.superclass_rel,
    interfaces_any_iff named described.interfaces_rel]
  constructor
  · intro isSuper
    exact ⟨descriptor.schema, described.find?_eq, isSuper⟩
  · rintro ⟨schema, registered, isSuper⟩
    obtain rfl := Option.some.inj (registered.symm.trans described.find?_eq)
    exact isSuper

/-- Between two classes of which one can be described, no way leads there and back. -/
theorem eq_of_reaches (described : catalog.Describes name descriptor)
    (there : Relation.ReflTransGen catalog.registry.Link name target)
    (back : Relation.ReflTransGen catalog.registry.Link target name) : name = target := by
  rcases Relation.reflTransGen_iff_eq_or_transGen.mp there with same | beyond
  · exact same.symm
  · exact absurd (beyond.trans_left back) described.not_ancestor_self

end Describes

/-- After some questions, the mapper gives the class a descriptor by which objects of the class can
stand where the target is declared. -/
def Assignable (catalog : Catalog) (earlier : List ClassName) (name target : ClassName) : Prop :=
  ∃ descriptor, ((catalog.describe name).outcome (catalog.asked earlier)).1 = .ok descriptor ∧
    descriptor.isAssignableTo target = true

theorem describe_after_asked_eq_ok {earlier : List ClassName} :
    ((catalog.describe name).outcome (catalog.asked earlier)).1 = .ok descriptor ↔
      catalog.Describes name descriptor := by
  rw [describe_after_asked, answer_describe_eq_ok]

theorem assignable_iff (named : catalog.registry.Named) {earlier : List ClassName} :
    catalog.Assignable earlier name target ↔
      (∃ descriptor, catalog.Describes name descriptor) ∧
        Relation.ReflTransGen catalog.registry.Link name target := by
  simp only [Assignable, describe_after_asked_eq_ok]
  constructor
  · rintro ⟨descriptor, described, assignable⟩
    exact ⟨⟨descriptor, described⟩, described.reaches_of_isAssignableTo named assignable⟩
  · rintro ⟨⟨descriptor, described⟩, reached⟩
    exact ⟨descriptor, described, described.isAssignableTo_of_reaches named reached⟩

/-- Whatever a mapper was asked for before, the descriptor that it gives a class leads where the
links of the registered types lead, to the classes next to it by one link, and so the classes that
it gives descriptors are ordered. -/
theorem assignability_is_order (named : catalog.registry.Named) (earlier : List ClassName) :
    (∀ name descriptor,
      ((catalog.describe name).outcome (catalog.asked earlier)).1 = .ok descriptor → ∀ target,
        (descriptor.isAssignableTo target = true ↔
          Relation.ReflTransGen catalog.registry.Link name target) ∧
        (descriptor.isSubType target = true ↔ catalog.registry.Link name target)) ∧
    IsPartialOrder
      {name // ∃ descriptor,
        ((catalog.describe name).outcome (catalog.asked earlier)).1 = .ok descriptor}
      fun sub super => catalog.Assignable earlier sub super := by
  constructor
  · intro name descriptor answered target
    have described := describe_after_asked_eq_ok.mp answered
    exact ⟨described.isAssignableTo_iff_reaches named, described.isSubType_iff_link named⟩
  · refine
      { refl := fun ⟨name, descriptor, answered⟩ => ?_
        trans := fun _ _ _ there further => ?_
        antisymm := fun ⟨name, descriptor, answered⟩ _ there back => ?_ }
    · have described := describe_after_asked_eq_ok.mp answered
      exact (assignable_iff named).mpr ⟨⟨descriptor, described⟩, .refl⟩
    · obtain ⟨isClass, reached⟩ := (assignable_iff named).mp there
      exact (assignable_iff named).mpr
        ⟨isClass, reached.trans ((assignable_iff named).mp further).2⟩
    · have described := describe_after_asked_eq_ok.mp answered
      exact Subtype.ext (described.eq_of_reaches ((assignable_iff named).mp there).2
        ((assignable_iff named).mp back).2)

end Catalog

namespace Samples

def nameable : TypeSchema where
  name := ⟨"Nameable"⟩
  kind := .interface

def contact : TypeSchema where
  name := ⟨"Contact"⟩
  kind := .interface
  interfaces := [nameable.name]

def account : TypeSchema where
  name := ⟨"Account"⟩
  kind := .abstract
  interfaces := [contact.name, nameable.name]

def admin : TypeSchema :=
  { entity "Admin" "admins" [marked "id" integer .id] with
    superclass := some account.name
    interfaces := [contact.name] }

/-- Accounts and those who look after them. Two ways lead to a contact, and four to what has a
name. -/
def accounts : Registry := .ofTypes [admin, account, contact, nameable]

/-- After a question for contacts, an administrator can stand for whatever has a name, which is no
supertype that the type names itself; a contact cannot stand for an administrator. -/
theorem admin_stands_for_nameable :
    let catalog : Catalog := { registry := accounts }
    (∃ descriptor,
      ((catalog.describe admin.name).outcome (catalog.asked [contact.name])).1 = .ok descriptor ∧
        descriptor.isAssignableTo nameable.name = true ∧
          descriptor.isSubType account.name = true ∧
            descriptor.isSubType nameable.name = false) ∧
    ¬ catalog.Assignable [contact.name] contact.name admin.name := by
  intro catalog
  have named : catalog.registry.Named := Registry.named_ofTypes _
  obtain ⟨agrees, order⟩ := Catalog.assignability_is_order named [contact.name]
  have accepted : ∀ name,
      ((catalog.describe name).outcome (catalog.asked [contact.name])).1.toOption.isSome = true →
      ∃ descriptor, ((catalog.describe name).outcome (catalog.asked [contact.name])).1 =
        .ok descriptor := by
    intro name isSome
    obtain ⟨descriptor, found⟩ := Option.isSome_iff_exists.mp isSome
    exact ⟨descriptor, Result.eq_ok_of_toOption found⟩
  have toAccount : catalog.registry.Link admin.name account.name := ⟨admin, rfl, .inl rfl⟩
  have toContact : catalog.registry.Link admin.name contact.name :=
    ⟨admin, rfl, .inr List.mem_cons_self⟩
  have toNameable : catalog.registry.Link contact.name nameable.name :=
    ⟨contact, rfl, .inr List.mem_cons_self⟩
  obtain ⟨ofAdmin, described⟩ := accepted admin.name (by decide +kernel)
  obtain ⟨ofContact, described'⟩ := accepted contact.name (by decide +kernel)
  have agreesAdmin := agrees admin.name ofAdmin described
  refine ⟨⟨ofAdmin, described, ?_, ?_, ?_⟩, ?_⟩
  · exact (agreesAdmin nameable.name).1.mpr (.tail (.single toContact) toNameable)
  · exact (agreesAdmin account.name).2.mpr toAccount
  · rw [Bool.eq_false_iff, ne_eq, (agreesAdmin nameable.name).2]
    rintro ⟨schema, registered, isSuper⟩
    obtain rfl : admin = schema := Option.some.inj registered
    revert isSuper
    decide
  · intro back
    have there : catalog.Assignable [contact.name] admin.name contact.name :=
      ⟨ofAdmin, described, (agreesAdmin contact.name).1.mpr (.single toContact)⟩
    have same := order.antisymm ⟨admin.name, ofAdmin, described⟩
      ⟨contact.name, ofContact, described'⟩ there back
    have same : admin.name = contact.name := congrArg Subtype.val same
    exact absurd same (by decide)

end Samples

end DocMapper
