import DocMapper.Proofs.Discovery.Coherent
import DocMapper.Samples

/-!
# What a failed discovery leaves behind

The supertypes of a class are described before the class itself, one after the other, and each is
kept as soon as it is complete. If the class is refused in the end, those that were complete by then
stay. `Tries` says to which supertypes the work on a class gets: to the first that is not
acceptable, and no further.

The main result is that a refused class leaves exactly the acceptable classes behind to which the
work on it gets. So the mapper is left as it was exactly if it had described all of these before.
-/

namespace DocMapper

def TypeSchema.supers (schema : TypeSchema) : List ClassName :=
  schema.superclass.toList ++ schema.interfaces

namespace Registry

/-- Describing the first class gets to the second: a supertype with none but acceptable ones before
it. -/
def Tries (registry : Registry) (name super : ClassName) : Prop :=
  ∃ schema before after, registry.find? name = some schema ∧ schema.nesting ≠ .innerMember ∧
    schema.supers = before ++ super :: after ∧
      ∀ earlier ∈ before, registry.Acceptable earlier

/-- Describing the first class gets to the second and finds that it is not yet under way. -/
def Onward (registry : Registry) (path : List ClassName) (name super : ClassName) : Prop :=
  registry.Tries name super ∧ super ∉ path

variable {registry : Registry} {path : List ClassName} {name super other : ClassName}
  {schema : TypeSchema}

theorem link_iff_mem_supers (registered : registry.find? name = some schema) :
    registry.Link name super ↔ super ∈ schema.supers := by
  have isSuper : super ∈ schema.supers ↔
      schema.superclass = some super ∨ super ∈ schema.interfaces := by
    simp [TypeSchema.supers]
  rw [isSuper]
  constructor
  · rintro ⟨schema', found, given⟩
    obtain rfl := Option.some.inj (registered.symm.trans found)
    exact given
  · exact fun given => ⟨schema, registered, given⟩

theorem Tries.link (tries : registry.Tries name super) : registry.Link name super := by
  obtain ⟨schema, before, after, registered, -, order, -⟩ := tries
  rw [link_iff_mem_supers registered, order]
  simp

theorem Onward.link (onward : registry.Onward path name super) : registry.Link name super :=
  onward.1.link

/-- A way that leads elsewhere leaves its start for good at some step. -/
private theorem exists_last_exit {α : Type} {related : α → α → Prop} {start goal : α}
    (way : Relation.ReflTransGen related start goal) :
    goal = start ∨ ∃ next, related start next ∧ next ≠ start ∧
      Relation.ReflTransGen (fun a b => related a b ∧ b ≠ start) next goal := by
  induction way with
  | refl => exact .inl rfl
  | @tail middle goal _ step ih =>
    by_cases back : goal = start
    · exact .inl back
    · right
      rcases ih with rfl | ⟨next, first, away, rest⟩
      · exact ⟨goal, step, back, .refl⟩
      · exact ⟨next, first, away, rest.tail ⟨step, back⟩⟩

/-- Where describing a class gets to, it gets to without coming back to the class. -/
theorem onward_iff : Relation.ReflTransGen (registry.Onward path) name other ↔
    other = name ∨ ∃ super, registry.Tries name super ∧ super ∉ name :: path ∧
      Relation.ReflTransGen (registry.Onward (name :: path)) super other := by
  have onward_cons : ∀ a b, registry.Onward (name :: path) a b ↔
      registry.Onward path a b ∧ b ≠ name := by
    intro a b
    simp only [Onward, List.mem_cons, not_or, and_assoc, and_comm]
  constructor
  · intro way
    refine (exists_last_exit way).imp_right ?_
    rintro ⟨super, ⟨tries, fresh⟩, away, rest⟩
    exact ⟨super, tries, by simp [away, fresh],
      rest.lift id fun a b step => (onward_cons a b).mpr step⟩
  · rintro (rfl | ⟨super, tries, fresh, rest⟩)
    · exact .refl
    · simp only [List.mem_cons, not_or] at fresh
      exact .head ⟨tries, fresh.2⟩ (rest.lift id fun a b step => ((onward_cons a b).mp step).1)

end Registry

namespace Memory

/-- The second memory is the first with correct descriptors for these classes as well, and no
others. -/
structure Gains (catalog : Catalog) (before after : Memory) (names : ClassName → Prop) : Prop where
  sound : after.Sound catalog
  closed : after.Closed catalog.registry
  published : ∀ name, after.Published name ↔ before.Published name ∨ names name

namespace Gains

variable {catalog : Catalog} {first second third : Memory} {names more : ClassName → Prop}

theorem refl (sound : first.Sound catalog) (closed : first.Closed catalog.registry) :
    Gains catalog first first fun _ => False :=
  ⟨sound, closed, by simp⟩

theorem trans (h : Gains catalog first second names) (h' : Gains catalog second third more) :
    Gains catalog first third fun name => names name ∨ more name :=
  ⟨h'.sound, h'.closed, fun name => by rw [h'.published, h.published, or_assoc]⟩

theorem congr (h : Gains catalog first second names)
    (same : ∀ name, first.Published name ∨ names name ↔ first.Published name ∨ more name) :
    Gains catalog first second more :=
  ⟨h.sound, h.closed, fun name => (h.published name).trans (same name)⟩

end Gains

end Memory

theorem Memory.Closed.of_reaches {registry : Registry} {memory : Memory} {name ancestor : ClassName}
    (closed : memory.Closed registry) (published : memory.Published name)
    (reached : Relation.ReflTransGen registry.Link name ancestor) : memory.Published ancestor := by
  induction reached with
  | refl => exact published
  | tail _ link ih => exact closed _ _ ih link

namespace Catalog

variable {catalog : Catalog} {α β : Type} {act : MapM α} {names more : ClassName → Prop}

/-- The operation has its answer whatever is kept, and leaves descriptors of these classes. -/
def Leaves (catalog : Catalog) (act : MapM α) (names : ClassName → Prop) : Prop :=
  ∀ memory : Memory, memory.Sound catalog → memory.Closed catalog.registry →
    ∃ after, act.outcome memory = (answer act, after) ∧ memory.Gains catalog after names

/-- What is kept for the members of a list, one after the other, up to the first that is refused. -/
def KeptFor (accepted : ClassName → Prop) (kept : ClassName → ClassName → Prop) :
    List ClassName → ClassName → Prop
  | [], _ => False
  | name :: rest, other =>
    kept name other ∨ (accepted name ∧ KeptFor accepted kept rest other)

section KeptFor

variable {accepted : ClassName → Prop} {kept : ClassName → ClassName → Prop}
  {items rest : List ClassName} {other : ClassName}

theorem keptFor_append : KeptFor accepted kept (items ++ rest) other ↔
    KeptFor accepted kept items other ∨
      ((∀ name ∈ items, accepted name) ∧ KeptFor accepted kept rest other) := by
  induction items with
  | nil => simp [KeptFor]
  | cons name items ih =>
    rw [List.cons_append, KeptFor, KeptFor, ih, List.forall_mem_cons]
    tauto

theorem keptFor_iff : KeptFor accepted kept items other ↔
    ∃ before name after, items = before ++ name :: after ∧
      (∀ earlier ∈ before, accepted earlier) ∧ kept name other := by
  constructor
  · intro here
    induction items with
    | nil => exact here.elim
    | cons name rest ih =>
      rcases here with here | ⟨isAccepted, later⟩
      · exact ⟨[], name, rest, rfl, by simp, here⟩
      · obtain ⟨before, found, after, rfl, all, here⟩ := ih later
        exact ⟨name :: before, found, after, rfl,
          List.forall_mem_cons.mpr ⟨isAccepted, all⟩, here⟩
  · rintro ⟨before, name, after, rfl, all, here⟩
    exact keptFor_append.mpr (.inr ⟨all, .inl here⟩)

end KeptFor

namespace Leaves

/-- It is enough that the operation always has one result. -/
theorem of_result (result : Except MapError α)
    (always : ∀ memory : Memory, memory.Sound catalog → memory.Closed catalog.registry →
      ∃ after, act.outcome memory = (result, after) ∧ memory.Gains catalog after names) :
    catalog.Leaves act names := by
  obtain ⟨_, ran, -⟩ := always {} (Memory.sound_empty catalog) (Memory.closed_empty _)
  have answered : answer act = result := congrArg Prod.fst ran
  rw [Leaves, answered]
  exact always

theorem congr (leaves : catalog.Leaves act names) (same : ∀ name, names name ↔ more name) :
    catalog.Leaves act more := by
  intro memory sound closed
  obtain ⟨after, ran, gains⟩ := leaves memory sound closed
  exact ⟨after, ran, gains.congr fun name => by rw [same]⟩

theorem ofExcept (result : Except MapError α) :
    catalog.Leaves (Run.ofExcept result) fun _ => False :=
  fun memory sound closed => ⟨memory, rfl, .refl sound closed⟩

/-- The second part of a sequence leaves something behind only if the first succeeds. -/
theorem bind {next : α → MapM β} (first : catalog.Leaves act names)
    (second : ∀ a, answer act = .ok a → catalog.Leaves (next a) more) :
    catalog.Leaves (act >>= next) fun name =>
      names name ∨ ((∃ a, answer act = .ok a) ∧ more name) := by
  cases answered : answer act with
  | error error =>
    refine of_result (.error error) fun memory sound closed => ?_
    obtain ⟨after, ran, gains⟩ := first memory sound closed
    rw [answered] at ran
    exact ⟨after, Run.outcome_bind_of_error ran, gains.congr (by simp)⟩
  | ok a =>
    refine of_result (answer (next a)) fun memory sound closed => ?_
    obtain ⟨middle, ran, gains⟩ := first memory sound closed
    obtain ⟨after, ran', gains'⟩ := second a answered middle gains.sound gains.closed
    rw [answered] at ran
    exact ⟨after, (Run.outcome_bind_of_ok ran).trans ran', (gains.trans gains').congr (by simp)⟩

theorem mapError (f : MapError → MapError) (leaves : catalog.Leaves act names) :
    catalog.Leaves (act.mapError f) names := by
  refine of_result ((answer act).mapError f) fun memory sound closed => ?_
  obtain ⟨after, ran, gains⟩ := leaves memory sound closed
  exact ⟨after, by rw [Run.outcome_mapError, ran], gains⟩

section Lists

variable {f : ClassName → MapM α} {accepted : ClassName → Prop}
  {kept : ClassName → ClassName → Prop}

theorem mapM {items : List ClassName}
    (each : ∀ name ∈ items, catalog.Leaves (f name) (kept name))
    (isAccepted : ∀ name ∈ items, (∃ a, answer (f name) = .ok a) ↔ accepted name) :
    catalog.Leaves (items.mapM f) (KeptFor accepted kept items) := by
  induction items with
  | nil => exact ofExcept (.ok [])
  | cons name rest ih =>
    obtain ⟨here, later⟩ := List.forall_mem_cons.mp each
    obtain ⟨isAcceptedHere, isAcceptedLater⟩ := List.forall_mem_cons.mp isAccepted
    rw [List.mapM_cons]
    refine (here.bind fun a _ =>
      (ih later isAcceptedLater).bind fun as _ => ofExcept (.ok (a :: as))).congr fun other => ?_
    simp [KeptFor, isAcceptedHere]

theorem optionMapM {item : Option ClassName}
    (each : ∀ name ∈ item.toList, catalog.Leaves (f name) (kept name))
    (isAccepted : ∀ name ∈ item.toList, (∃ a, answer (f name) = .ok a) ↔ accepted name) :
    catalog.Leaves (item.mapM f) (KeptFor accepted kept item.toList) := by
  cases item with
  | none => exact ofExcept (.ok none)
  | some name =>
    have here := each name (by simp)
    rw [Option.mapM_some, map_eq_pure_bind]
    refine (here.bind fun a _ => ofExcept (.ok (some a))).congr fun other => ?_
    simp [KeptFor]

end Lists

end Leaves

/-! ### Describing a class -/

variable {path : List ClassName} {name : ClassName} {schema : TypeSchema}
  {describeSuper : ClassName → MapM Descriptor} {accepted : ClassName → Prop}
  {kept : ClassName → ClassName → Prop}

theorem exists_answer_optionMapM_iff {f : ClassName → MapM α} {item : Option ClassName} :
    (∃ result, answer (item.mapM f) = .ok result) ↔
      ∀ name ∈ item.toList, ∃ a, answer (f name) = .ok a := by
  cases item with
  | none => simp
  | some name => simp [Result.exists_map_eq_ok_iff]

/-- An inner type is refused before anything else. -/
theorem leaves_describeType_of_inner (inner : schema.nesting = .innerMember) :
    catalog.Leaves (catalog.describeType schema describeSuper) fun _ => False := by
  rw [describeType, if_pos inner]
  exact .of_result _ fun memory sound closed => ⟨memory, rfl, .refl sound closed⟩

/-- Describing a type leaves behind what is left behind for its supertypes, up to the first that is
refused. -/
theorem leaves_describeType (nesting : schema.nesting ≠ .innerMember)
    (steady : ∀ super ∈ schema.supers, catalog.Steady (describeSuper super))
    (each : ∀ super ∈ schema.supers, catalog.Leaves (describeSuper super) (kept super))
    (isAccepted : ∀ super ∈ schema.supers,
      (∃ descriptor, answer (describeSuper super) = .ok descriptor) ↔ accepted super) :
    catalog.Leaves (catalog.describeType schema describeSuper)
      (KeptFor accepted kept schema.supers) := by
  have ofParent : ∀ super ∈ schema.superclass.toList, super ∈ schema.supers :=
    fun super member => List.mem_append_left _ member
  have ofInterface : ∀ super ∈ schema.interfaces, super ∈ schema.supers :=
    fun super member => List.mem_append_right _ member
  have leaves : ∀ super ∈ schema.supers,
      catalog.Leaves (asSupertype schema.name (describeSuper super)) (kept super) :=
    fun super member => (each super member).mapError _
  have isAccepted' : ∀ super ∈ schema.supers, (∃ descriptor,
      answer (asSupertype schema.name (describeSuper super)) = .ok descriptor) ↔
        accepted super := by
    intro super member
    simp only [(steady super member).answer_asSupertype_eq_ok]
    exact isAccepted super member
  have parent := Leaves.optionMapM (fun super member => leaves super (ofParent super member))
    fun super member => isAccepted' super (ofParent super member)
  have interfaces := Leaves.mapM (fun super member => leaves super (ofInterface super member))
    fun super member => isAccepted' super (ofInterface super member)
  -- The interfaces are looked at only if the superclass is accepted.
  have parentAccepted : (∃ superclass, answer (schema.superclass.mapM fun parent =>
      asSupertype schema.name (describeSuper parent)) = .ok superclass) ↔
        ∀ super ∈ schema.superclass.toList, accepted super := by
    rw [exists_answer_optionMapM_iff]
    exact forall₂_congr fun super member => isAccepted' super (ofParent super member)
  rw [describeType, if_neg nesting]
  refine (parent.bind fun superclass _ => interfaces.bind fun interfaces _ =>
    (Leaves.ofExcept _).bind fun handlers _ => .ofExcept _).congr fun other => ?_
  rw [TypeSchema.supers, keptFor_append, parentAccepted]
  simp

section DescribeFrom

/-- Describing a type on behalf of those on a path leaves behind what its supertypes lead to. -/
theorem leaves_describeType_onward (registered : catalog.registry.find? name = some schema)
    (leads : ∀ super, catalog.registry.Link name super → ∀ under ∈ name :: path,
      Relation.TransGen catalog.registry.Link under super)
    (each : ∀ super, catalog.registry.Link name super →
      catalog.Leaves (catalog.describeFrom (name :: path) super) fun other =>
        super ∉ name :: path ∧
          Relation.ReflTransGen (catalog.registry.Onward (name :: path)) super other ∧
            catalog.registry.Acceptable other) :
    catalog.Leaves (catalog.describeType schema (catalog.describeFrom (name :: path)))
      fun other => ∃ super, catalog.registry.Tries name super ∧ super ∉ name :: path ∧
        Relation.ReflTransGen (catalog.registry.Onward (name :: path)) super other ∧
          catalog.registry.Acceptable other := by
  by_cases inner : schema.nesting = .innerMember
  · refine (leaves_describeType_of_inner inner).congr fun other => (iff_of_false id ?_)
    rintro ⟨super, ⟨schema', _, _, found, nesting, -⟩, -⟩
    obtain rfl := Option.some.inj (registered.symm.trans found)
    exact nesting inner
  · have isLink : ∀ super ∈ schema.supers, catalog.registry.Link name super :=
      fun super => (Registry.link_iff_mem_supers registered).mpr
    have isAccepted : ∀ super ∈ schema.supers, (∃ descriptor,
        answer (catalog.describeFrom (name :: path) super) = .ok descriptor) ↔
          catalog.registry.Acceptable super := by
      intro super member
      simp only [(steady_describeFrom (leads super (isLink super member))).2,
        exists_describes_iff_acceptable]
    refine (leaves_describeType inner
      (fun super member => (steady_describeFrom (leads super (isLink super member))).1)
      (fun super member => each super (isLink super member)) isAccepted).congr fun other => ?_
    rw [keptFor_iff]
    constructor
    · rintro ⟨before, super, after, order, all, leftBehind⟩
      exact ⟨super, ⟨schema, before, after, registered, inner, order, all⟩, leftBehind⟩
    · rintro ⟨super, ⟨schema', before, after, found, -, order, all⟩, leftBehind⟩
      obtain rfl := Option.some.inj (registered.symm.trans found)
      exact ⟨before, super, after, order, all, leftBehind⟩

/-- Keeping what was made adds its class to what was left behind. -/
theorem Leaves.published_of_publish {act : MapM Descriptor} (leaves : catalog.Leaves act names)
    {memory after : Memory} {result : Except MapError Descriptor} (sound : memory.Sound catalog)
    (closed : memory.Closed catalog.registry)
    (ran : (do
      let descriptor ← act
      modify (Memory.publish · name descriptor)
      return descriptor : MapM Descriptor).outcome memory = (result, after)) (other : ClassName) :
    after.Published other ↔ memory.Published other ∨ names other ∨
      (other = name ∧ ∃ descriptor, result = .ok descriptor) := by
  obtain ⟨middle, made, gains⟩ := leaves memory sound closed
  cases answered : answer act with
  | error error =>
    rw [answered] at made
    obtain ⟨rfl, rfl⟩ := Prod.mk.inj ((Run.outcome_bind_of_error made).symm.trans ran)
    simp [gains.published]
  | ok descriptor =>
    rw [answered] at made
    rw [Run.outcome_bind_of_ok made] at ran
    obtain ⟨rfl, rfl⟩ := Prod.mk.inj ran
    rw [Memory.published_publish, gains.published]
    simp only [Except.ok.injEq, exists_eq', and_true]
    tauto

/-- Describing a class leaves behind the acceptable classes that it gets to. The induction is on the
registered types that are not on the path. -/
theorem leaves_describeFrom (path : List ClassName) (name : ClassName)
    (leads : ∀ under ∈ path, Relation.TransGen catalog.registry.Link under name) :
    catalog.Leaves (catalog.describeFrom path name) fun other => name ∉ path ∧
      Relation.ReflTransGen (catalog.registry.Onward path) name other ∧
        catalog.registry.Acceptable other := by
  induction hn : catalog.registry.unseen path using Nat.strongRecOn generalizing path name with
  | ind n ih =>
    intro memory sound closed
    obtain ⟨steady, answers⟩ := steady_describeFrom leads
    obtain ⟨after, learns, ran⟩ := steady.outcome sound
    have closedAfter : after.Closed catalog.registry := by
      simpa [ran] using (publishes_describeFrom path name).closed_after closed
    refine ⟨after, ran, learns.sound, closedAfter, fun other => ?_⟩
    cases found : memory.descriptor? name with
    | some descriptor =>
      -- The ancestors of a class that is kept are kept with it.
      obtain ⟨-, rfl⟩ := Prod.mk.inj ((outcome_describeFrom_of_kept found).symm.trans ran)
      have published : memory.Published name := congrArg Option.isSome found
      refine ⟨.inl, Or.rec id ?_⟩
      rintro ⟨-, way, -⟩
      exact closed.of_reaches published (way.lift id fun _ _ step => step.link)
    | none =>
      by_cases underWay : name ∈ path
      · obtain ⟨-, rfl⟩ := Prod.mk.inj
          ((outcome_describeFrom_of_cycle found underWay).symm.trans ran)
        simp [underWay]
      rw [Registry.onward_iff]
      cases registered : catalog.registry.find? name with
      | none =>
        obtain ⟨-, rfl⟩ := Prod.mk.inj
          ((outcome_describeFrom_of_unknown found underWay registered).symm.trans ran)
        refine ⟨.inl, Or.rec id ?_⟩
        rintro ⟨-, rfl | ⟨super, ⟨schema, _, _, isRegistered, -⟩, -⟩, acceptable⟩
        · obtain ⟨schema, isRegistered, -⟩ := acceptable.obeys _ .refl
          simp [registered] at isRegistered
        · simp [registered] at isRegistered
      | some schema =>
        have fewer := Registry.unseen_cons_lt registered underWay
        have leadsOn : ∀ super, catalog.registry.Link name super → ∀ under ∈ name :: path,
            Relation.TransGen catalog.registry.Link under super := by
          intro super link under isUnder
          rcases List.mem_cons.mp isUnder with rfl | isUnder
          · exact .single link
          · exact .tail (leads under isUnder) link
        have leaves := leaves_describeType_onward registered leadsOn fun super link =>
          ih _ (hn ▸ fewer) (name :: path) super (leadsOn super link) rfl
        rw [outcome_describeFrom_of_new found underWay registered] at ran
        have isAccepted : (∃ descriptor,
            answer (catalog.describeFrom path name) = .ok descriptor) ↔
              catalog.registry.Acceptable name := by
          simp only [answers, exists_describes_iff_acceptable]
        rw [leaves.published_of_publish sound closed ran, isAccepted]
        refine or_congr_right ⟨?_, ?_⟩
        · rintro (⟨super, tries, fresh, way, acceptable⟩ | ⟨rfl, acceptable⟩)
          · exact ⟨underWay, .inr ⟨super, tries, fresh, way⟩, acceptable⟩
          · exact ⟨underWay, .inl rfl, acceptable⟩
        · rintro ⟨-, rfl | ⟨super, tries, fresh, way⟩, acceptable⟩
          · exact .inr ⟨rfl, acceptable⟩
          · exact .inl ⟨super, tries, fresh, way, acceptable⟩

end DescribeFrom

/-- Whatever a mapper was asked for before, a class that it refuses leaves exactly the acceptable
classes behind that the work on it gets to. So everything stays as it was exactly if these were all
kept before. -/
theorem refused_describe_leaves (catalog : Catalog) (earlier : List ClassName) {name : ClassName}
    {error : MapError} {after : Memory}
    (refused : (catalog.describe name).outcome (catalog.asked earlier) = (.error error, after)) :
    (∀ other, after.Published other ↔ (catalog.asked earlier).Published other ∨
      (Relation.ReflTransGen catalog.registry.Tries name other ∧
        catalog.registry.Acceptable other)) ∧
    ((∀ other, after.descriptor? other = (catalog.asked earlier).descriptor? other) ↔
      ∀ other, Relation.ReflTransGen catalog.registry.Tries name other →
        catalog.registry.Acceptable other → (catalog.asked earlier).Published other) := by
  have sound := catalog.sound_asked earlier
  have closed := catalog.closed_asked earlier
  obtain ⟨_, ran, gains⟩ :=
    leaves_describeFrom [] name (by simp) (catalog.asked earlier) sound closed
  obtain ⟨-, rfl⟩ := Prod.mk.inj (ran.symm.trans refused)
  have everywhere : catalog.registry.Onward [] = catalog.registry.Tries := by
    funext a b
    simp [Registry.Onward]
  have published := gains.published
  simp only [everywhere, List.not_mem_nil, not_false_eq_true, true_and] at published
  refine ⟨published, ?_⟩
  constructor
  · intro same other way acceptable
    have kept := (published other).mpr (.inr ⟨way, acceptable⟩)
    rwa [Memory.Published, same] at kept
  · intro before other
    have unchanged : _ ↔ (catalog.asked earlier).Published other :=
      (published other).trans (or_iff_left_of_imp fun left => before other left.1 left.2)
    cases kept : (catalog.asked earlier).descriptor? other with
    | none =>
      have fresh : ¬ (catalog.asked earlier).Published other := by simp [Memory.Published, kept]
      simpa [Memory.Published] using mt unchanged.mp fresh
    | some descriptor =>
      obtain ⟨found, isFound⟩ := Option.isSome_iff_exists.mp
        (unchanged.mpr (congrArg Option.isSome kept))
      rw [isFound, (gains.sound other found isFound).unique (sound other descriptor kept)]

end Catalog

namespace Samples

/-- A place to be folded; nobody has registered what can be folded. -/
def brochure : TypeSchema where
  name := ⟨"Brochure"⟩
  superclass := some address.name
  interfaces := [⟨"Foldable"⟩]

def brochures : Registry := .ofTypes [address, brochure]

/-- Once places are described, a refused brochure changes nothing. -/
theorem brochure_refused_after_address :
    let catalog : Catalog := { registry := brochures }
    ∃ error after,
      (catalog.describe brochure.name).outcome (catalog.asked [address.name]) =
        (.error error, after) ∧
      ∀ other, after.descriptor? other = (catalog.asked [address.name]).descriptor? other := by
  intro catalog
  have isRefused : ((catalog.describe brochure.name).outcome
      (catalog.asked [address.name])).1.toOption.isSome = false := by decide +kernel
  have isKept : (catalog.asked [address.name]).Published address.name := by
    rw [Memory.Published]
    decide +kernel
  rcases refused : (catalog.describe brochure.name).outcome (catalog.asked [address.name]) with
    ⟨error | descriptor, after⟩
  · refine ⟨error, after, rfl, (Catalog.refused_describe_leaves catalog _ refused).2.mpr ?_⟩
    have unknown : ¬ catalog.registry.Acceptable ⟨"Foldable"⟩ := by
      intro acceptable
      obtain ⟨schema, registered, -⟩ := acceptable.obeys _ .refl
      cases registered
    have ofBrochure : catalog.registry.find? brochure.name = some brochure := rfl
    have ofAddress : catalog.registry.find? address.name = some address := rfl
    -- The work on a brochure gets to a place and to what can be folded, and from neither further.
    have stops : ∀ super ∈ brochure.supers, ∀ beyond, ¬ catalog.registry.Tries super beyond := by
      intro super isSuper beyond tries
      rcases List.mem_pair.mp isSuper with rfl | rfl
      · exact absurd ((Registry.link_iff_mem_supers ofAddress).mp tries.link) List.not_mem_nil
      · obtain ⟨schema, _, _, registered, -⟩ := tries
        cases registered
    intro other way acceptable
    rcases Relation.ReflTransGen.cases_head way with rfl | ⟨super, tries, rest⟩
    · exact absurd (acceptable.of_link ⟨brochure, rfl, .inr List.mem_cons_self⟩) unknown
    have isSuper : super ∈ brochure.supers :=
      (Registry.link_iff_mem_supers ofBrochure).mp tries.link
    rcases Relation.ReflTransGen.cases_head rest with rfl | ⟨beyond, further, -⟩
    · rcases List.mem_pair.mp isSuper with rfl | rfl
      · exact isKept
      · exact absurd acceptable unknown
    · exact absurd further (stops super isSuper beyond)
  · simp [refused, Except.toOption] at isRefused

/-- A refusal need not leave the mapper as it was: the place that a brochure is stays described. -/
theorem refused_brochure_leaves_address :
    ¬ ∀ (catalog : Catalog) (earlier : List ClassName) (name : ClassName) (error : MapError)
      (after : Memory),
      (catalog.describe name).outcome (catalog.asked earlier) = (.error error, after) →
        ∀ other, after.Published other ↔ (catalog.asked earlier).Published other := by
  intro clean
  let catalog : Catalog := { registry := brochures }
  have isRefused : ((catalog.describe brochure.name).outcome (catalog.asked [])).1.toOption.isSome =
      false := by decide +kernel
  have isKept : (((catalog.describe brochure.name).outcome (catalog.asked [])).2.descriptor?
      address.name).isSome = true := by decide +kernel
  rcases refused : (catalog.describe brochure.name).outcome (catalog.asked []) with
    ⟨error | descriptor, after⟩
  · rw [refused] at isKept
    exact Memory.not_published_empty _ ((clean catalog [] _ error after refused _).mp isKept)
  · simp [refused, Except.toOption] at isRefused

end Samples

end DocMapper
