import DocMapper.Proofs.Discovery.Acceptable
import DocMapper.Proofs.Ending

/-!
# Kept descriptors fit together

A mapper keeps the descriptor of a class only after those of its supertypes, and never drops one, so
whatever it was asked for, and whether or not it failed, the kept descriptors are closed under
supertypes. `Publishes` says this of an operation, together with the classes that it keeps where it
succeeds, and is closed under sequences.

The main result is that all that is kept is coherent: the descriptors agree with each other on the
hierarchy and on what is inherited, and each of them obeys the mapping rules.
-/

namespace DocMapper

namespace Memory

/-- The descriptor of a class is kept. -/
def Published (memory : Memory) (name : ClassName) : Prop :=
  (memory.descriptor? name).isSome = true

/-- Where a class is kept, so are its supertypes. -/
def Closed (registry : Registry) (memory : Memory) : Prop :=
  ∀ name super, memory.Published name → registry.Link name super → memory.Published super

/-- The second memory keeps what the first does, and supertypes with it. -/
structure Grows (registry : Registry) (before after : Memory) : Prop where
  closed : after.Closed registry
  kept : ∀ name, before.Published name → after.Published name

variable {registry : Registry} {memory first second third : Memory} {name other : ClassName}
  {descriptor : Descriptor}

theorem not_published_empty (name : ClassName) : ¬ Published {} name := by
  simp [Published, descriptor?]

theorem closed_empty (registry : Registry) : Closed registry {} :=
  fun name _ published => absurd published (not_published_empty name)

theorem published_publish : (memory.publish name descriptor).Published other ↔
    other = name ∨ memory.Published other := by
  rw [publish]
  cases kept : memory.descriptor? name with
  | some found =>
    refine ⟨.inr, ?_⟩
    rintro (rfl | published)
    · exact congrArg Option.isSome kept
    · exact published
  | none =>
    by_cases same : other = name
    · simp [same, Published, descriptor?]
    · simp [same, Published, descriptor?, Assoc.lookup_insert_of_ne same]

theorem Grows.refl (closed : memory.Closed registry) : memory.Grows registry memory :=
  ⟨closed, fun _ published => published⟩

theorem Grows.trans (h : first.Grows registry second) (h' : second.Grows registry third) :
    first.Grows registry third :=
  ⟨h'.closed, fun name published => h'.kept name (h.kept name published)⟩

theorem Grows.publish (closed : memory.Closed registry)
    (supers : ∀ super, registry.Link name super → memory.Published super) :
    memory.Grows registry (memory.publish name descriptor) := by
  refine ⟨fun sub super published link => ?_, fun other published =>
    published_publish.mpr (.inr published)⟩
  rcases published_publish.mp published with rfl | published
  · exact published_publish.mpr (.inr (supers super link))
  · exact published_publish.mpr (.inr (closed sub super published link))

end Memory

/-! ### Operations that publish -/

namespace Catalog

variable {catalog : Catalog} {registry : Registry} {α β : Type} {act : MapM α}
  {names more : ClassName → Prop}

/-- From a closed memory, the operation leaves one that keeps more, and the given classes as well if
it succeeds. -/
def Publishes (registry : Registry) (act : MapM α) (names : ClassName → Prop) : Prop :=
  ∀ memory : Memory, memory.Closed registry →
    act.Ends memory
      (fun _ after => memory.Grows registry after ∧ ∀ name, names name → after.Published name)
      fun _ after => memory.Grows registry after

namespace Publishes

theorem ofExcept (result : Except MapError α) :
    Publishes registry (Run.ofExcept result) fun _ => False :=
  fun _ closed => Run.ends_ofExcept (fun _ _ => ⟨.refl closed, fun _ => False.elim⟩)
    fun _ _ => .refl closed

theorem bind {next : α → MapM β} (publishes : Publishes registry act names)
    (rest : ∀ a, Publishes registry (next a) more) :
    Publishes registry (act >>= next) fun name => names name ∨ more name := by
  intro memory closed
  refine Run.ends_bind.mpr ((publishes memory closed).mono ?_ fun _ _ grows => grows)
  rintro a middle ⟨grows, here⟩
  refine (rest a middle grows.closed).mono ?_ fun _ _ grows' => grows.trans grows'
  rintro b after ⟨grows', later⟩
  refine ⟨grows.trans grows', ?_⟩
  rintro name (isHere | isLater)
  · exact grows'.kept name (here name isHere)
  · exact later name isLater

theorem weaken (publishes : Publishes registry act names)
    (implies : ∀ name, more name → names name) : Publishes registry act more := by
  intro memory closed
  refine (publishes memory closed).mono ?_ fun _ _ grows => grows
  rintro a after ⟨grows, all⟩
  exact ⟨grows, fun name isMore => all name (implies name isMore)⟩

theorem mapError (f : MapError → MapError) (publishes : Publishes registry act names) :
    Publishes registry (act.mapError f) names :=
  fun memory closed => Run.ends_mapError.mpr (publishes memory closed)

theorem mapM {f : ClassName → MapM α} {items : List ClassName}
    (each : ∀ name ∈ items, Publishes registry (f name) (· = name)) :
    Publishes registry (items.mapM f) (· ∈ items) := by
  induction items with
  | nil => exact (ofExcept (.ok [])).weaken (by simp)
  | cons name rest ih =>
    rw [List.mapM_cons]
    have later := ih fun name member => each name (List.mem_cons_of_mem _ member)
    refine ((each name List.mem_cons_self).bind fun a =>
      later.bind fun as => ofExcept (.ok (a :: as))).weaken fun other member => ?_
    exact (List.mem_cons.mp member).imp_right .inl

theorem optionMapM {f : ClassName → MapM α} {item : Option ClassName}
    (each : ∀ name, item = some name → Publishes registry (f name) (· = name)) :
    Publishes registry (item.mapM f) (item = some ·) := by
  cases item with
  | none => exact (ofExcept (.ok none)).weaken (by simp)
  | some name =>
    rw [Option.mapM_some, map_eq_pure_bind]
    exact ((each name rfl).bind fun a => ofExcept (.ok (some a))).weaken (by simp +contextual)

end Publishes

/-- Describing a type publishes its supertypes, if describing each of them does. -/
theorem publishes_describeType {schema : TypeSchema} {describeSuper : ClassName → MapM Descriptor}
    (each : ∀ super, schema.superclass = some super ∨ super ∈ schema.interfaces →
      Publishes registry (describeSuper super) (· = super)) :
    Publishes registry (catalog.describeType schema describeSuper) fun super =>
      schema.superclass = some super ∨ super ∈ schema.interfaces := by
  have parents : Publishes registry
      (schema.superclass.mapM fun parent => asSupertype schema.name (describeSuper parent))
      (schema.superclass = some ·) :=
    .optionMapM fun super isParent => (each super (.inl isParent)).mapError _
  have interfaces : Publishes registry
      (schema.interfaces.mapM fun interface => asSupertype schema.name (describeSuper interface))
      (· ∈ schema.interfaces) :=
    .mapM fun super isInterface => (each super (.inr isInterface)).mapError _
  rw [describeType]
  split
  · intro memory closed
    exact Run.ends_bind.mpr (Memory.Grows.refl closed)
  · refine (parents.bind fun _ => interfaces.bind fun _ =>
      (Publishes.ofExcept _).bind fun _ => .ofExcept _).weaken fun super isSuper => ?_
    exact isSuper.imp_right .inl

/-- Describing a class publishes it. The induction is on the registered types that are not on the
path yet; how a path leads to the class does not matter here. -/
theorem publishes_describeFrom (path : List ClassName) (name : ClassName) :
    Publishes catalog.registry (catalog.describeFrom path name) (· = name) := by
  induction hn : catalog.registry.unseen path using Nat.strongRecOn generalizing path name with
  | ind n ih =>
    intro memory closed
    cases kept : memory.descriptor? name with
    | some descriptor =>
      refine (Run.ends_of_ok (outcome_describeFrom_of_kept kept)).mpr ⟨.refl closed, ?_⟩
      rintro _ rfl
      exact congrArg Option.isSome kept
    | none =>
      by_cases underWay : name ∈ path
      · exact (Run.ends_of_error (outcome_describeFrom_of_cycle kept underWay)).mpr (.refl closed)
      cases registered : catalog.registry.find? name with
      | none =>
        exact (Run.ends_of_error (outcome_describeFrom_of_unknown kept underWay registered)).mpr
          (.refl closed)
      | some schema =>
        have fewer := Registry.unseen_cons_lt registered underWay
        have described := @publishes_describeType catalog catalog.registry schema _
          fun super _ => ih _ (hn ▸ fewer) (name :: path) super rfl
        rw [Run.Ends, outcome_describeFrom_of_new kept underWay registered, ← Run.Ends,
          Run.ends_bind]
        refine (described memory closed).mono ?_ fun _ _ grows => grows
        rintro descriptor middle ⟨grows, supers⟩
        have grown : middle.Grows catalog.registry (middle.publish name descriptor) := by
          refine .publish grows.closed ?_
          rintro super ⟨schema', found, isSuper⟩
          obtain rfl := Option.some.inj (registered.symm.trans found)
          exact supers super isSuper
        refine ⟨grows.trans grown, ?_⟩
        rintro _ rfl
        exact Memory.published_publish.mpr (.inl rfl)

/-- What is kept stays closed under supertypes, also where the operation fails. -/
theorem Publishes.closed_after {memory : Memory} (publishes : Publishes registry act names)
    (closed : memory.Closed registry) : (act.outcome memory).2.Closed registry := by
  have ends := publishes memory closed
  rw [Run.Ends] at ends
  rcases ran : act.outcome memory with ⟨error | a, after⟩
  all_goals rw [ran] at ends
  · exact ends.closed
  · exact ends.1.closed

theorem closed_after_describe {memory : Memory} (closed : memory.Closed catalog.registry)
    (name : ClassName) : ((catalog.describe name).outcome memory).2.Closed catalog.registry :=
  (publishes_describeFrom [] name).closed_after closed

theorem closed_asked (catalog : Catalog) (names : List ClassName) :
    (catalog.asked names).Closed catalog.registry := by
  induction names using List.reverseRecOn with
  | nil => exact Memory.closed_empty _
  | append_singleton earlier name ih =>
    rw [asked_append_singleton]
    exact closed_after_describe ih name

/-! ### What described classes inherit -/

namespace Describes

variable {name : ClassName} {descriptor parent : Descriptor} {field : MappedField}

/-- The superclass of a descriptor is what the superclass of the type is described as. -/
theorem superclass_rel (described : catalog.Describes name descriptor) :
    Option.Rel catalog.Describes descriptor.schema.superclass descriptor.superclass := by
  cases described with
  | @intro name schema superclass _ _ _ _ hasParent parent =>
    change Option.Rel catalog.Describes schema.superclass superclass
    cases isParent : schema.superclass with
    | none =>
      obtain rfl : superclass = none := by simpa [isParent] using hasParent
      exact .none
    | some super =>
      obtain ⟨above, rfl⟩ := Option.isSome_iff_exists.mp (hasParent.trans (by simp [isParent]))
      exact .some (parent super above isParent rfl)

/-- The interfaces of a descriptor are what those of the type are described as, in their order. -/
theorem interfaces_rel (described : catalog.Describes name descriptor) :
    List.Forall₂ catalog.Describes descriptor.schema.interfaces descriptor.interfaces := by
  cases described with
  | intro _ _ _ _ interfaceCount interface =>
    exact List.forall₂_iff_zip.mpr ⟨interfaceCount.symm, fun given => interface _ _ given⟩

/-- The fields of the superclass come first. -/
theorem fields_prefix (described : catalog.Describes name descriptor)
    (isParent : descriptor.superclass = some parent) : parent.fields <+: descriptor.fields := by
  cases described with
  | @intro _ schema superclass =>
    obtain rfl : superclass = some parent := isParent
    exact List.prefix_append _ _

/-- What marks a field of the superclass marks no earlier field of the class. -/
theorem find?_inherited (described : catalog.Describes name descriptor)
    (isParent : descriptor.superclass = some parent) {marked : MappedField → Bool}
    (found : parent.fields.find? marked = some field) :
    descriptor.fields.find? marked = some field := by
  obtain ⟨declared, same⟩ := described.fields_prefix isParent
  rw [← same, List.find?_append, found, Option.some_or]

end Describes

end Catalog

/-! ### Coherence -/

namespace Memory

/-- The superclass or an interface of a kept class. -/
def Link (memory : Memory) (name super : ClassName) : Prop :=
  ∃ descriptor, memory.descriptor? name = some descriptor ∧
    (descriptor.schema.superclass = some super ∨ super ∈ descriptor.schema.interfaces)

/-- A kept descriptor fits in with the others and obeys the rules. -/
structure Fitting (registry : Registry) (memory : Memory) (descriptor : Descriptor) : Prop where
  /-- The superclass is kept as the descriptor has it. -/
  superclass : Option.Rel (fun super parent => memory.descriptor? super = some parent)
    descriptor.schema.superclass descriptor.superclass
  interfaces : List.Forall₂ (fun super parent => memory.descriptor? super = some parent)
    descriptor.schema.interfaces descriptor.interfaces
  inherits : ∀ parent, descriptor.superclass = some parent → parent.fields <+: descriptor.fields
  storedNames : (descriptor.fields.map MappedField.storedName).Nodup
  oneId : descriptor.fields.countP (·.isId) ≤ 1
  oneVersion : descriptor.fields.countP (·.isVersion) ≤ 1
  version : ∀ field ∈ descriptor.fields, field.isVersion = true → field.type = .scalar .integer
  id : ∀ field ∈ descriptor.fields, field.isId = true → field.isReference = false
  reference : ∀ field ∈ descriptor.fields, field.isReference = true →
    ∃ target, field.target? = some target ∧ registry.contains target = true
  sameId : ∀ parent field, descriptor.superclass = some parent → parent.idField? = some field →
    descriptor.idField? = some field
  sameVersion : ∀ parent field, descriptor.superclass = some parent →
    parent.versionField? = some field → descriptor.versionField? = some field

/-- Kept descriptors fit together, and no kept class is its own ancestor. -/
structure Coherent (registry : Registry) (memory : Memory) : Prop where
  fitting : ∀ name descriptor, memory.descriptor? name = some descriptor →
    memory.Fitting registry descriptor
  acyclic : ∀ name, ¬ Relation.TransGen memory.Link name name

variable {catalog : Catalog} {memory : Memory} {name super : ClassName} {descriptor : Descriptor}

/-- What is kept for a supertype of a kept class is what the supertype is described as. -/
theorem Sound.descriptor?_of_link (sound : memory.Sound catalog)
    (closed : memory.Closed catalog.registry) (published : memory.Published name)
    (link : catalog.registry.Link name super) (described : catalog.Describes super descriptor) :
    memory.descriptor? super = some descriptor := by
  obtain ⟨found, kept⟩ := Option.isSome_iff_exists.mp (closed name super published link)
  rw [kept, (sound super found kept).unique described]

private theorem rel_imp {α β : Type} {related related' : α → β → Prop} {a : Option α}
    {b : Option β} (rel : Option.Rel related a b)
    (implies : ∀ x, a = some x → ∀ y, related x y → related' x y) : Option.Rel related' a b := by
  cases rel with
  | some here => exact .some (implies _ rfl _ here)
  | none => exact .none

theorem Sound.link (sound : memory.Sound catalog) (link : memory.Link name super) :
    catalog.registry.Link name super := by
  obtain ⟨descriptor, kept, isSuper⟩ := link
  exact ⟨descriptor.schema, (sound name descriptor kept).find?_eq, isSuper⟩

theorem Sound.fitting (sound : memory.Sound catalog) (closed : memory.Closed catalog.registry)
    (kept : memory.descriptor? name = some descriptor) :
    memory.Fitting catalog.registry descriptor := by
  have described := sound name descriptor kept
  have published : memory.Published name := congrArg Option.isSome kept
  have link : ∀ super, descriptor.schema.superclass = some super ∨
      super ∈ descriptor.schema.interfaces → catalog.registry.Link name super :=
    fun super isSuper => ⟨descriptor.schema, described.find?_eq, isSuper⟩
  obtain ⟨oneId, oneVersion, -, storedNames, -⟩ :=
    Descriptor.violations_eq_nil_iff.mp described.violations_eq
  refine
    { superclass := ?_
      interfaces := ?_
      inherits := fun parent isParent => described.fields_prefix isParent
      storedNames
      oneId
      oneVersion
      version := fun field member => described.type_of_isVersion member
      id := fun field member => described.isReference_of_isId member
      reference := fun field member => described.target_of_isReference member
      sameId := fun parent field isParent => described.find?_inherited isParent
      sameVersion := fun parent field isParent => described.find?_inherited isParent }
  · exact rel_imp described.superclass_rel fun super isParent _ describedAbove =>
      sound.descriptor?_of_link closed published (link super (.inl isParent)) describedAbove
  · refine List.forall₂_iff_zip.mpr ⟨described.interfaces_rel.length_eq, fun given => ?_⟩
    have describedAbove := (List.forall₂_iff_zip.mp described.interfaces_rel).2 given
    exact sound.descriptor?_of_link closed published
      (link _ (.inr (List.of_mem_zip given).1)) describedAbove

end Memory

/-- Whatever a mapper was asked for, and whether or not it succeeded, the descriptors that it keeps
are coherent. -/
theorem Catalog.coherent_asked (catalog : Catalog) (names : List ClassName) :
    (catalog.asked names).Coherent catalog.registry where
  fitting name descriptor kept :=
    (catalog.sound_asked names).fitting (catalog.closed_asked names) kept
  acyclic name cycle := by
    have sound := catalog.sound_asked names
    obtain ⟨super, ⟨descriptor, kept, -⟩, -⟩ := Relation.TransGen.head'_iff.mp cycle
    exact (sound name descriptor kept).not_ancestor_self (cycle.lift id fun _ _ => sound.link)

end DocMapper
