import Mathlib.Data.List.Chain
import Mathlib.Data.Option.Basic
import DocMapper.Proofs.Discovery.Describes
import DocMapper.Proofs.FirstOccurrences
import DocMapper.Proofs.Outcome

/-!
# Who serves an event

The methods that serve an event of a class come from its line of superclasses and from the types
that its last annotation of listeners names, each with superclasses of its own. Along a line a name
counts once: it keeps the place where the furthest ancestor declares it, and the nearest decides
what it does and which events it serves, so that an override without the annotation of an event
hides what it overrides.
-/

namespace DocMapper

/-- These types are named by the last annotation of listeners, none if there is no such
annotation. -/
inductive TypeSchema.Lists (schema : TypeSchema) : List ClassName → Prop
  | last {before after : List TypeAnnotation} {listeners : List ClassName}
      (annotated : schema.annotations = before ++ .listeners listeners :: after)
      (isLast : ∀ mark ∈ after, mark.kind ≠ .listeners) : Lists schema listeners
  | none (unmarked : ∀ mark ∈ schema.annotations, mark.kind ≠ .listeners) : Lists schema []

namespace Registry

/-- A type and its superclasses, the nearest first: as far as they are registered, and each name
once. -/
structure Lineage (registry : Registry) (schema : TypeSchema) (line : List TypeSchema) : Prop where
  head : line.head? = some schema
  parents : line.IsChain fun child parent =>
    ∃ name, child.superclass = some name ∧ registry.find? name = some parent
  distinct : (line.map TypeSchema.name).Nodup
  complete : ∀ last ∈ line.getLast?, ∀ name parent, last.superclass = some name →
    registry.find? name = some parent → name ∈ line.map TypeSchema.name

/-- Of declared methods each name counts once, at the place of the first and with the body of the
last. -/
structure Overrides (declared methods : List Method) : Prop where
  names : methods.map Method.name = (declared.map Method.name).eraseDups
  latest : ∀ method ∈ methods, declared.reverse.find? (·.name = method.name) = some method

/-- The methods that a type has by itself and from its superclasses: the instance methods of its
line, declared from the furthest ancestor on. -/
def Inherits (registry : Registry) (schema : TypeSchema) (methods : List Method) : Prop :=
  ∃ line, registry.Lineage schema line ∧
    Overrides (line.reverse.flatMap fun ancestor => ancestor.methods.filter (!·.isStatic)) methods

/-- What a type contributes that `schema` names as a listener. A type that names itself contributes
its own methods once more; the methods of any other go with an instance of it. -/
inductive Contributes (registry : Registry) (schema : TypeSchema) :
    ClassName → List Handler → Prop
  | self {methods : List Method} (inherits : registry.Inherits schema methods) :
      Contributes registry schema schema.name (methods.map (Handler.mk none))
  | listener {name : ClassName} {described : TypeSchema} {factory : ListenerFactory}
      {methods : List Method} (other : name ≠ schema.name)
      (registered : registry.find? name = some described)
      (makes : described.factory = some factory) (inherits : registry.Inherits described methods) :
      Contributes registry schema name (methods.map (Handler.mk (some ⟨name, factory⟩)))

/-- The handlers that serve an event of a type: of its own methods and then of those that its
listeners contribute in turn, the ones that are annotated with the event. -/
inductive Serves (registry : Registry) (schema : TypeSchema) (event : Event) : List Handler → Prop
  | intro {own : List Method} {listeners : List ClassName} {contributed : List (List Handler)}
      (inherits : registry.Inherits schema own) (lists : schema.Lists listeners)
      (contributes : List.Forall₂ (registry.Contributes schema) listeners contributed) :
      Serves registry schema event
        ((own.map (Handler.mk none) ++ contributed.flatten).filter (·.method.handles event))

variable {registry : Registry} {schema : TypeSchema} {declared methods : List Method}
  {method : Method}

/-! ### The line of superclasses -/

/-- A walk from a type to superclasses whose names were not seen before. -/
structure Walk (registry : Registry) (seen : List ClassName) (schema : TypeSchema)
    (beyond : List TypeSchema) : Prop where
  parents : (schema :: beyond).IsChain fun child parent =>
    ∃ name, child.superclass = some name ∧ registry.find? name = some parent
  distinct : (beyond.map TypeSchema.name).Nodup
  fresh : ∀ ancestor ∈ beyond, ancestor.name ∉ seen
  complete : ∀ last ∈ (schema :: beyond).getLast?, ∀ name parent, last.superclass = some name →
    registry.find? name = some parent → name ∈ seen ∨ name ∈ beyond.map TypeSchema.name

theorem Walk.alone {seen : List ClassName} (ends : ∀ name parent,
    schema.superclass = some name → registry.find? name = some parent → name ∈ seen) :
    registry.Walk seen schema [] where
  parents := .singleton schema
  distinct := .nil
  fresh := by simp
  complete := by
    rintro last ⟨rfl⟩ name parent isParent registered
    exact .inl (ends name parent isParent registered)

/-- A walk that goes to the superclass and on from there. -/
theorem Walk.step {seen : List ClassName} {parent : TypeSchema} {name : ClassName}
    {beyond : List TypeSchema} (isParent : schema.superclass = some name)
    (registered : registry.find? name = some parent) (own : parent.name = name)
    (unseen : name ∉ seen) (walk : registry.Walk (name :: seen) parent beyond) :
    registry.Walk seen schema (parent :: beyond) where
  parents := .cons_cons ⟨name, isParent, registered⟩ walk.parents
  distinct := by
    rw [List.map_cons, List.nodup_cons, own]
    refine ⟨fun met => ?_, walk.distinct⟩
    obtain ⟨ancestor, member, same⟩ := List.mem_map.mp met
    exact walk.fresh ancestor member (same ▸ List.mem_cons_self)
  fresh := by
    rw [List.forall_mem_cons, own]
    exact ⟨unseen, fun ancestor member seen => walk.fresh ancestor member (.tail _ seen)⟩
  complete last isLast next schema isNext found := by
    rcases walk.complete last isLast next schema isNext found with met | met
    · rcases List.mem_cons.mp met with rfl | met
      · exact .inr (by simp [own])
      · exact .inl met
    · exact .inr (List.mem_cons_of_mem _ met)

theorem walk_ancestry (named : registry.Named) (seen : List ClassName) (schema : TypeSchema) :
    ∃ beyond, registry.ancestry seen schema = schema :: beyond ∧
      registry.Walk seen schema beyond := by
  fun_induction registry.ancestry seen schema with
  | case1 seen schema ih =>
    refine ⟨_, rfl, ?_⟩
    cases isParent : schema.superclass with
    | none => exact .alone (by simp [isParent])
    | some name =>
      dsimp only
      split
      next unseen =>
        split
        next unregistered =>
          refine .alone fun other parent isOther found => ?_
          obtain rfl := Option.some.inj (isParent.symm.trans isOther)
          rw [unregistered] at found
          cases found
        next parent registered =>
          obtain ⟨beyond, walked, walk⟩ := ih name unseen parent registered
          rw [walked]
          exact .step isParent registered (named _ _ registered) unseen walk
      next met =>
        refine .alone fun other parent isOther _ => ?_
        obtain rfl := Option.some.inj (isParent.symm.trans isOther)
        exact not_not.mp met

/-- The walk from a type that has seen only the type meets its line. -/
theorem lineage_ancestry (named : registry.Named) (schema : TypeSchema) :
    registry.Lineage schema (registry.ancestry [schema.name] schema) := by
  obtain ⟨beyond, walked, walk⟩ := walk_ancestry named [schema.name] schema
  rw [walked]
  refine ⟨rfl, walk.parents, ?_, ?_⟩
  · rw [List.map_cons, List.nodup_cons]
    refine ⟨fun met => ?_, walk.distinct⟩
    obtain ⟨ancestor, member, same⟩ := List.mem_map.mp met
    exact walk.fresh ancestor member (List.mem_singleton.mpr same)
  · intro last isLast name parent isParent registered
    rw [List.map_cons, List.mem_cons]
    exact (walk.complete last isLast name parent isParent registered).imp_left
      List.mem_singleton.mp

theorem Lineage.beyond_unique (named : registry.Named) {other : TypeSchema}
    {upTo beyond beyond' : List TypeSchema} {last : TypeSchema}
    (line : registry.Lineage schema (upTo ++ last :: beyond))
    (line' : registry.Lineage other (upTo ++ last :: beyond')) : beyond = beyond' := by
  -- Where one line ends and the other goes on, the latter meets a name again.
  have ends : ∀ {schema other first : TypeSchema} {upTo rest : List TypeSchema} {last : TypeSchema},
      registry.Lineage schema (upTo ++ [last]) →
      ¬ registry.Lineage other (upTo ++ last :: first :: rest) := by
    intro schema other first upTo rest last line line'
    obtain ⟨name, isParent, registered⟩ :=
      (List.isChain_append.mp line'.parents).2.1.rel
    have again := line.complete last (by simp) name first isParent registered
    rw [← named _ _ registered] at again
    have distinct := line'.distinct
    rw [List.append_cons, List.map_append, List.nodup_append] at distinct
    exact distinct.2.2 _ again _ List.mem_cons_self rfl
  induction beyond generalizing upTo last beyond' with
  | nil =>
    cases beyond' with
    | nil => rfl
    | cons => exact absurd line' (ends line)
  | cons first rest ih =>
    cases beyond' with
    | nil => exact absurd line (ends line')
    | cons first' rest' =>
      obtain ⟨name, isParent, registered⟩ := (List.isChain_append.mp line.parents).2.1.rel
      obtain ⟨name', isParent', registered'⟩ := (List.isChain_append.mp line'.parents).2.1.rel
      obtain rfl := Option.some.inj (isParent.symm.trans isParent')
      obtain rfl := Option.some.inj (registered.symm.trans registered')
      rw [List.append_cons] at line line'
      rw [ih line line']

theorem Lineage.unique (named : registry.Named) {line line' : List TypeSchema}
    (isLine : registry.Lineage schema line) (isLine' : registry.Lineage schema line') :
    line = line' := by
  obtain ⟨beyond, rfl⟩ := List.head?_eq_some_iff.mp isLine.head
  obtain ⟨beyond', rfl⟩ := List.head?_eq_some_iff.mp isLine'.head
  rw [@Lineage.beyond_unique _ _ named _ [] _ _ _ isLine isLine']

/-! ### Overriding -/

/-- What methods declared methods come to is determined. -/
theorem Overrides.unique {methods' : List Method} (overrides : Overrides declared methods)
    (overrides' : Overrides declared methods') : methods = methods' := by
  have found : ∀ methods, Overrides declared methods → methods.map some =
      (methods.map Method.name).map fun name => declared.reverse.find? (·.name = name) := by
    intro methods overrides
    rw [List.map_map]
    exact List.map_congr_left fun method member => (overrides.latest method member).symm
  have same := (found methods overrides).trans
    ((congrArg _ (overrides.names.trans overrides'.names.symm)).trans (found _ overrides').symm)
  exact List.map_injective_iff.mpr (Option.some_injective _) same

theorem Inherits.unique (named : registry.Named) {methods' : List Method}
    (inherits : registry.Inherits schema methods) (inherits' : registry.Inherits schema methods') :
    methods = methods' := by
  obtain ⟨line, isLine, overrides⟩ := inherits
  obtain ⟨line', isLine', overrides'⟩ := inherits'
  obtain rfl := isLine.unique named isLine'
  exact overrides.unique overrides'

theorem names_override (methods : List Method) (method : Method) :
    (override methods method).map Method.name =
      if method.name ∈ methods.map Method.name then methods.map Method.name
      else methods.map Method.name ++ [method.name] := by
  induction methods with
  | nil => rfl
  | cons first rest ih =>
    rw [override]
    by_cases same : first.name = method.name
    · simp [same]
    · rw [if_neg same, List.map_cons, ih, List.map_cons]
      have apart : ¬ method.name = first.name := fun other => same other.symm
      by_cases later : method.name ∈ rest.map Method.name <;> simp [later, apart]

/-- Where names are distinct, a method drives out the one of its name. -/
theorem mem_override_of_nodup {other : Method} (distinct : (methods.map Method.name).Nodup)
    (member : other ∈ override methods method) :
    other = method ∨ other ∈ methods ∧ other.name ≠ method.name := by
  induction methods with
  | nil => exact .inl (List.mem_singleton.mp member)
  | cons first rest ih =>
    rw [List.map_cons, List.nodup_cons] at distinct
    rw [override] at member
    split at member
    next same =>
      rcases List.mem_cons.mp member with rfl | member
      · exact .inl rfl
      · refine .inr ⟨.tail _ member, fun equal => distinct.1 ?_⟩
        rw [same, ← equal]
        exact List.mem_map_of_mem member
    next apart =>
      rcases List.mem_cons.mp member with rfl | member
      · exact .inr ⟨List.mem_cons_self, apart⟩
      · exact (ih distinct.2 member).imp_right fun ⟨later, other⟩ => ⟨.tail _ later, other⟩

/-- Overriding one declared method after the other leaves each name once. -/
theorem overrides_foldl (declared : List Method) :
    Overrides declared (declared.foldl override []) ∧
      ((declared.foldl override []).map Method.name).Nodup := by
  induction declared using List.reverseRecOn with
  | nil => exact ⟨⟨rfl, by simp⟩, .nil⟩
  | append_singleton earlier method ih =>
    obtain ⟨overrides, distinct⟩ := ih
    have known : ∀ name, name ∈ (earlier.foldl override []).map Method.name ↔
        name ∈ earlier.map Method.name := by
      intro name
      rw [overrides.names, List.mem_eraseDups]
    have names := names_override (earlier.foldl override []) method
    rw [List.foldl_append, List.foldl_cons, List.foldl_nil]
    refine ⟨⟨?_, ?_⟩, ?_⟩
    · rw [names, List.map_append, List.map_singleton, eraseDups_concat, ← overrides.names]
      simp only [known]
    · intro other member
      rw [List.reverse_append, List.reverse_singleton, List.singleton_append, List.find?_cons]
      rcases mem_override_of_nodup distinct member with rfl | ⟨member, apart⟩
      · simp
      · rw [decide_eq_false (Ne.symm apart)]
        exact overrides.latest other member
    · rw [names]
      split
      · exact distinct
      next new =>
        refine List.nodup_append.mpr ⟨distinct, by simp, ?_⟩
        rintro name member other isNew rfl
        exact new (List.mem_singleton.mp isNew ▸ member)

theorem inherits_methods (named : registry.Named) (schema : TypeSchema) :
    registry.Inherits schema (registry.methods schema) :=
  ⟨_, lineage_ancestry named schema, (overrides_foldl _).1⟩

end Registry

/-! ### Listeners -/

namespace TypeSchema

variable {schema : TypeSchema} {listeners : List ClassName}

theorem lists_listenerNames (schema : TypeSchema) : schema.Lists schema.listenerNames := by
  have fromBehind : (schema.annotationsOf .listeners).getLast? =
      schema.annotations.reverse.find? (·.kind = .listeners) := by
    rw [annotationsOf, List.getLast?_eq_head?_reverse, ← List.filter_reverse,
      List.head?_filter]
  rw [listenerNames, fromBehind]
  cases found : schema.annotations.reverse.find? (·.kind = .listeners) with
  | none => exact .none (by simpa using found)
  | some mark =>
    obtain ⟨isListeners, after, before, split, others⟩ := List.find?_eq_some_iff_append.mp found
    cases mark with
    | listeners classes =>
      have marks : schema.annotations =
          before.reverse ++ .listeners classes :: after.reverse := by
        simpa using congrArg List.reverse split
      exact .last marks (by simpa using others)
    | _ => cases isListeners

theorem Lists.eq_listenerNames (lists : schema.Lists listeners) :
    listeners = schema.listenerNames := by
  rw [listenerNames, annotationsOf]
  cases lists with
  | @last before after _ annotated isLast =>
    have others : after.filter (·.kind = .listeners) = [] :=
      List.filter_eq_nil_iff.mpr (by simpa using isLast)
    rw [annotated, List.filter_append, List.filter_cons, if_pos (by rfl), others]
    simp
  | none unmarked => rw [List.filter_eq_nil_iff.mpr (by simpa using unmarked)]; rfl

end TypeSchema

namespace Registry

variable {registry : Registry} {schema : TypeSchema}

theorem Contributes.unique (named : registry.Named) {listener : ClassName}
    {handlers handlers' : List Handler}
    (contributes : registry.Contributes schema listener handlers)
    (contributes' : registry.Contributes schema listener handlers') : handlers = handlers' := by
  cases contributes with
  | self inherits =>
    generalize isSelf : schema.name = listener at contributes'
    cases contributes' with
    | self inherits' => rw [inherits.unique named inherits']
    | listener other => exact absurd isSelf.symm other
  | listener other registered makes inherits =>
    cases contributes' with
    | self => exact absurd rfl other
    | listener _ registered' makes' inherits' =>
      obtain rfl := Option.some.inj (registered.symm.trans registered')
      obtain rfl := Option.some.inj (makes.symm.trans makes')
      rw [inherits.unique named inherits']

/-- The handlers that serve an event of a type are determined. -/
theorem Serves.unique (named : registry.Named) {event : Event} {handlers handlers' : List Handler}
    (serves : registry.Serves schema event handlers)
    (serves' : registry.Serves schema event handlers') : handlers = handlers' := by
  obtain ⟨inherits, lists, contributes⟩ := serves
  obtain ⟨inherits', lists', contributes'⟩ := serves'
  obtain rfl := lists.eq_listenerNames.trans lists'.eq_listenerNames.symm
  obtain rfl := inherits.unique named inherits'
  have same : Relator.RightUnique (registry.Contributes schema) :=
    fun _ _ _ contributes contributes' => contributes.unique named contributes'
  rw [List.right_unique_forall₂' same contributes contributes']

/-- The instances that a handler is called on are made by the registered type of its listener. -/
theorem Serves.exists_factory {event : Event} {handlers : List Handler} {handler : Handler}
    {binding : ListenerBinding} (serves : registry.Serves schema event handlers)
    (member : handler ∈ handlers) (belongs : handler.listener = some binding) :
    ∃ described, registry.find? binding.className = some described ∧
      described.factory = some binding.factory := by
  obtain ⟨inherits, lists, contributes⟩ := serves
  rcases List.mem_append.mp (List.mem_filter.mp member).1 with own | foreign
  · obtain ⟨method, -, rfl⟩ := List.mem_map.mp own
    cases belongs
  · obtain ⟨group, inGroups, inGroup⟩ := List.mem_flatten.mp foreign
    obtain ⟨listener, -, given⟩ := Result.exists_of_mem_right contributes inGroups
    cases given with
    | self =>
      obtain ⟨method, -, rfl⟩ := List.mem_map.mp inGroup
      cases belongs
    | listener _ registered makes =>
      obtain ⟨method, -, rfl⟩ := List.mem_map.mp inGroup
      cases belongs
      exact ⟨_, registered, makes⟩

theorem contributes_of_listenerHandlers (named : registry.Named) {listener : ClassName}
    {handlers : List Handler} (given : registry.listenerHandlers schema listener = .ok handlers) :
    registry.Contributes schema listener handlers := by
  rw [listenerHandlers] at given
  split at given
  next self =>
    cases given
    subst self
    exact .self (inherits_methods named schema)
  next other =>
    split at given
    · cases given
    next described registered =>
      split at given
      · cases given
      next factory makes =>
        cases given
        exact .listener other registered makes (inherits_methods named described)

end Registry

/-- The handlers of a described class that serve an event are those of its registered type. -/
theorem Catalog.Describes.serves {catalog : Catalog} {name : ClassName} {descriptor : Descriptor}
    (described : catalog.Describes name descriptor) (named : catalog.registry.Named)
    (event : Event) :
    catalog.registry.find? name = some descriptor.schema ∧
      catalog.registry.Serves descriptor.schema event (descriptor.handlersFor event) := by
  cases described with
  | @intro _ schema _ _ _ registered _ _ _ _ _ served _ =>
    obtain ⟨contributed, listeners, all⟩ := Result.bind_eq_ok.mp served
    cases all
    refine ⟨registered, .intro (Registry.inherits_methods named schema)
      (TypeSchema.lists_listenerNames schema) ?_⟩
    exact (Result.mapM_eq_ok.mp listeners).imp fun _ _ given =>
      Registry.contributes_of_listenerHandlers named given

end DocMapper
