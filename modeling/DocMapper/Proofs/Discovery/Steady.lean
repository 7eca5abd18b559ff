import DocMapper.Proofs.Discovery.Describes
import DocMapper.Proofs.Outcome

/-!
# Answers that do not depend on what is remembered

A mapper keeps descriptors, so the same question may be answered from memory at one time and worked
out at another. An operation is *steady* if its answer is the same whatever correct descriptors are
kept, and if it adds nothing but correct descriptors. `answer` is then the answer as such, and
equations between answers take the place of statements about runs on a memory.

Main statement: describing a class is steady (`steady_describe`), and its answer is the descriptor
that the registered types give (`answer_describe_eq_ok`).
-/

namespace DocMapper

namespace Memory

/-- Every descriptor that is kept is the one that the registered types give. -/
def Sound (catalog : Catalog) (memory : Memory) : Prop :=
  ∀ name descriptor, memory.descriptor? name = some descriptor →
    catalog.Describes name descriptor

theorem sound_empty (catalog : Catalog) : Sound catalog {} := by
  intro name descriptor h
  simp [descriptor?] at h

/-- The second memory is the first with correct descriptors in it. -/
structure Learns (catalog : Catalog) (before after : Memory) : Prop where
  sound : after.Sound catalog
  rest : after = { before with descriptors := after.descriptors }

namespace Learns

variable {catalog : Catalog} {first second third : Memory}

theorem refl (sound : first.Sound catalog) : Learns catalog first first := ⟨sound, rfl⟩

theorem trans (h : Learns catalog first second) (h' : Learns catalog second third) :
    Learns catalog first third := by
  refine ⟨h'.sound, ?_⟩
  rw [h'.rest, h.rest]

end Learns

theorem learns_publish {catalog : Catalog} {memory : Memory} {name : ClassName}
    {descriptor : Descriptor} (sound : memory.Sound catalog)
    (described : catalog.Describes name descriptor) :
    Learns catalog memory (memory.publish name descriptor) := by
  rw [publish]
  split
  · exact .refl sound
  · refine ⟨?_, rfl⟩
    intro other found h
    by_cases same : other = name
    · subst same
      simp only [descriptor?, Assoc.lookup_insert_self, Option.some.injEq] at h
      exact h ▸ described
    · rw [descriptor?, Assoc.lookup_insert_of_ne same] at h
      exact sound other found h

end Memory

namespace Catalog

variable {catalog : Catalog} {α β : Type}

/-- The operation has this result whatever correct descriptors are kept, and adds none but correct
ones. -/
def Gives (catalog : Catalog) (act : MapM α) (result : Except MapError α) : Prop :=
  ∀ memory : Memory, memory.Sound catalog →
    ∃ after, Memory.Learns catalog memory after ∧ act.outcome memory = (result, after)

/-- The result of an operation on a mapper that has described nothing yet. -/
def answer (act : MapM α) : Except MapError α := (act.outcome {}).1

/-- The operation has the same result whatever correct descriptors are kept. -/
def Steady (catalog : Catalog) (act : MapM α) : Prop := catalog.Gives act (answer act)

theorem Gives.answer_eq {act : MapM α} {result : Except MapError α}
    (h : catalog.Gives act result) : answer act = result := by
  obtain ⟨after, -, outcome⟩ := h {} (Memory.sound_empty catalog)
  rw [answer, outcome]

theorem Gives.steady {act : MapM α} {result : Except MapError α}
    (h : catalog.Gives act result) : catalog.Steady act := by
  rw [Steady, h.answer_eq]
  exact h

/-- A steady operation has its answer in every memory. -/
theorem Steady.outcome {act : MapM α} (h : catalog.Steady act) {memory : Memory}
    (sound : memory.Sound catalog) :
    ∃ after, Memory.Learns catalog memory after ∧ act.outcome memory = (answer act, after) :=
  h memory sound

theorem Steady.result_eq {act : MapM α} (h : catalog.Steady act) {memory : Memory}
    (sound : memory.Sound catalog) : (act.outcome memory).1 = answer act := by
  obtain ⟨after, -, outcome⟩ := h.outcome sound
  rw [outcome]

theorem Steady.of_outcome {act : MapM α} (h : catalog.Steady act) {memory after : Memory}
    (sound : memory.Sound catalog) {result : Except MapError α}
    (ran : act.outcome memory = (result, after)) :
    answer act = result ∧ Memory.Learns catalog memory after := by
  obtain ⟨_, learns, outcome⟩ := h.outcome sound
  obtain ⟨answered, rfl⟩ := Prod.mk.inj (outcome.symm.trans ran)
  exact ⟨answered, learns⟩

theorem Steady.gives {act : MapM α} {result : Except MapError α} (h : catalog.Steady act)
    (answered : answer act = result) : catalog.Gives act result :=
  answered ▸ h

theorem gives_pure (a : α) : catalog.Gives (pure a) (.ok a) :=
  fun memory sound => ⟨memory, .refl sound, rfl⟩

theorem gives_throw (error : MapError) : catalog.Gives (throw error : MapM α) (.error error) :=
  fun memory sound => ⟨memory, .refl sound, rfl⟩

theorem gives_ofExcept (result : Except MapError α) :
    catalog.Gives (Run.ofExcept result) result :=
  fun memory sound => ⟨memory, .refl sound, rfl⟩

theorem Gives.bind {act : MapM α} {next : α → MapM β} {a : α} {result : Except MapError β}
    (h : catalog.Gives act (.ok a)) (h' : catalog.Gives (next a) result) :
    catalog.Gives (act >>= next) result := by
  intro memory sound
  obtain ⟨middle, learns, outcome⟩ := h memory sound
  obtain ⟨after, learns', outcome'⟩ := h' middle learns.sound
  exact ⟨after, learns.trans learns', by rw [Run.outcome_bind_of_ok outcome, outcome']⟩

theorem Gives.bind_error {act : MapM α} {next : α → MapM β} {error : MapError}
    (h : catalog.Gives act (.error error)) : catalog.Gives (act >>= next) (.error error) := by
  intro memory sound
  obtain ⟨after, learns, outcome⟩ := h memory sound
  exact ⟨after, learns, Run.outcome_bind_of_error outcome⟩

theorem Gives.mapError {act : MapM α} {result : Except MapError α} (f : MapError → MapError)
    (h : catalog.Gives act result) : catalog.Gives (act.mapError f) (result.mapError f) := by
  intro memory sound
  obtain ⟨after, learns, outcome⟩ := h memory sound
  exact ⟨after, learns, by rw [Run.outcome_mapError, outcome]⟩

@[simp] theorem answer_pure (a : α) : answer (pure a) = .ok a := rfl

@[simp] theorem answer_throw (error : MapError) : answer (throw error : MapM α) = .error error := by
  rw [answer, Run.outcome_throw]

@[simp] theorem answer_ofExcept (result : Except MapError α) :
    answer (Run.ofExcept result) = result := rfl

@[simp] theorem answer_ofExcept_bind (result : Except MapError α) (next : α → MapM β) :
    answer (Run.ofExcept result >>= next) = result >>= fun a => answer (next a) := by
  cases result <;> rfl

@[simp] theorem answer_map (f : α → β) (act : MapM α) :
    answer (f <$> act) = (answer act).map f := by
  rw [answer, Run.outcome_map, answer]

theorem steady_pure (a : α) : catalog.Steady (pure a) := (gives_pure a).steady

theorem steady_throw (error : MapError) : catalog.Steady (throw error : MapM α) :=
  (gives_throw error).steady

theorem steady_ofExcept (result : Except MapError α) : catalog.Steady (Run.ofExcept result) :=
  (gives_ofExcept result).steady

/-- A sequence of steady operations gives what its second part gives on the answer of its first. -/
theorem Steady.gives_bind {act : MapM α} {next : α → MapM β} (h : catalog.Steady act)
    (h' : ∀ a, answer act = .ok a → catalog.Steady (next a)) :
    catalog.Gives (act >>= next) (answer act >>= fun a => answer (next a)) := by
  rw [Steady] at h
  cases hanswer : answer act with
  | ok a => exact Gives.bind (hanswer ▸ h) (h' a hanswer)
  | error error => exact Gives.bind_error (hanswer ▸ h)

theorem Steady.bind {act : MapM α} {next : α → MapM β} (h : catalog.Steady act)
    (h' : ∀ a, answer act = .ok a → catalog.Steady (next a)) : catalog.Steady (act >>= next) :=
  (h.gives_bind h').steady

theorem Steady.answer_bind {act : MapM α} {next : α → MapM β} (h : catalog.Steady act)
    (h' : ∀ a, answer act = .ok a → catalog.Steady (next a)) :
    answer (act >>= next) = answer act >>= fun a => answer (next a) :=
  (h.gives_bind h').answer_eq

theorem Steady.answer_bind_eq_ok {act : MapM α} {next : α → MapM β} {b : β}
    (h : catalog.Steady act) (h' : ∀ a, answer act = .ok a → catalog.Steady (next a)) :
    answer (act >>= next) = .ok b ↔ ∃ a, answer act = .ok a ∧ answer (next a) = .ok b := by
  rw [h.answer_bind h', Result.bind_eq_ok]

/-- Steady work on every member of a list. -/
theorem Steady.gives_mapM {f : α → MapM β} {items : List α}
    (h : ∀ a ∈ items, catalog.Steady (f a)) :
    catalog.Gives (items.mapM f) (items.mapM fun a => answer (f a)) := by
  induction items with
  | nil => exact gives_pure []
  | cons a rest ih =>
    have head := h a (by simp)
    have tail := ih fun b hb => h b (List.mem_cons_of_mem a hb)
    have tails : ∀ b, catalog.Gives (do return b :: (← rest.mapM f))
        (do return b :: (← answer (rest.mapM f))) :=
      fun b => tail.steady.gives_bind fun bs _ => steady_pure (b :: bs)
    rw [List.mapM_cons, List.mapM_cons, ← tail.answer_eq]
    simpa only [(tails _).answer_eq] using head.gives_bind fun b _ => (tails b).steady

theorem Steady.gives_optionMapM {f : α → MapM β} {item : Option α}
    (h : ∀ a, item = some a → catalog.Steady (f a)) :
    catalog.Gives (item.mapM f) (item.mapM fun a => answer (f a)) := by
  cases item with
  | none => exact gives_pure none
  | some a =>
    simp only [Option.mapM_some, map_eq_pure_bind]
    exact (h a rfl).gives_bind fun b _ => steady_pure (some b)

theorem Steady.answer_mapM_eq_ok {f : α → MapM β} {items : List α} {results : List β}
    (h : ∀ a ∈ items, catalog.Steady (f a)) :
    answer (items.mapM f) = .ok results ↔
      List.Forall₂ (fun a b => answer (f a) = .ok b) items results := by
  rw [(Steady.gives_mapM h).answer_eq, Result.mapM_eq_ok]

/-- Lists whose members are answered the same, one by one, are answered the same. -/
theorem Steady.answer_mapM_eq_of_forall₂ {f : α → MapM β} (h : ∀ a, catalog.Steady (f a))
    {items others : List α}
    (same : List.Forall₂ (fun a b => answer (f a) = answer (f b)) items others) :
    answer (items.mapM f) = answer (others.mapM f) := by
  rw [(Steady.gives_mapM fun a _ => h a).answer_eq, (Steady.gives_mapM fun a _ => h a).answer_eq]
  exact Result.mapM_eq_of_forall₂ same

theorem Steady.answer_optionMapM_eq_ok {f : α → MapM β} {item : Option α} {result : Option β}
    (h : ∀ a, item = some a → catalog.Steady (f a)) :
    answer (item.mapM f) = .ok result ↔ result.isSome = item.isSome ∧
      ∀ a b, item = some a → result = some b → answer (f a) = .ok b := by
  rw [(Steady.gives_optionMapM h).answer_eq]
  cases item <;> cases result <;> simp [Result.bind_eq_ok, map_eq_pure_bind]

theorem Steady.gives_foldlM {f : β → α → MapM β} {items : List α} {start : β}
    (h : ∀ b, ∀ a ∈ items, catalog.Steady (f b a)) :
    catalog.Gives (items.foldlM f start) (items.foldlM (fun b a => answer (f b a)) start) := by
  induction items generalizing start with
  | nil => exact gives_pure start
  | cons a rest ih =>
    have tail : ∀ b, catalog.Gives (rest.foldlM f b) _ :=
      fun b => ih fun b a' ha => h b a' (List.mem_cons_of_mem a ha)
    rw [List.foldlM_cons, List.foldlM_cons]
    simpa only [(tail _).answer_eq] using
      (h start a (by simp)).gives_bind fun b _ => (tail b).steady

theorem Steady.asSupertype {name : ClassName} {act : MapM α} (h : catalog.Steady act) :
    catalog.Steady (asSupertype name act) :=
  (Gives.mapError _ h).steady

theorem Steady.answer_asSupertype_eq_ok {name : ClassName} {act : MapM α} {a : α}
    (h : catalog.Steady act) :
    answer (Catalog.asSupertype name act) = .ok a ↔ answer act = .ok a := by
  rw [Catalog.asSupertype, (Gives.mapError _ h).answer_eq]
  cases answer act <;> simp [Except.mapError]

/-! ### Describing a class -/

variable {name : ClassName} {schema : TypeSchema} {describeSuper : ClassName → MapM Descriptor}

theorem check_eq_ok {descriptor checked : Descriptor} :
    catalog.check descriptor = .ok checked ↔
      descriptor.violations catalog.registry = [] ∧ descriptor = checked := by
  rw [check]
  split
  · simp_all
  · rename_i broken
    simpa using fun none => absurd none broken

/-- The descriptor of a type is worked out steadily if those of its supertypes are. -/
theorem steady_describeType
    (h : ∀ super, schema.superclass = some super ∨ super ∈ schema.interfaces →
      catalog.Steady (describeSuper super)) :
    catalog.Steady (catalog.describeType schema describeSuper) := by
  rw [describeType]
  split
  · exact (gives_throw _).bind_error.steady
  · refine Steady.bind (Steady.gives_optionMapM fun super hs =>
      (h super (.inl hs)).asSupertype).steady fun superclass _ => ?_
    refine Steady.bind (Steady.gives_mapM fun super hs =>
      (h super (.inr hs)).asSupertype).steady fun interfaces _ => ?_
    exact (steady_ofExcept _).bind fun handlers _ => steady_ofExcept _

/-- The descriptor that is worked out from those of the supertypes is the one that the registered
types give. -/
theorem answer_describeType_eq_ok (registered : catalog.registry.find? name = some schema)
    (steady : ∀ super, catalog.registry.Link name super → catalog.Steady (describeSuper super))
    (supers : ∀ super, catalog.registry.Link name super → ∀ descriptor,
      answer (describeSuper super) = .ok descriptor ↔ catalog.Describes super descriptor)
    (descriptor : Descriptor) :
    answer (catalog.describeType schema describeSuper) = .ok descriptor ↔
      catalog.Describes name descriptor := by
  have isSteady : ∀ super, schema.superclass = some super ∨ super ∈ schema.interfaces →
      catalog.Steady (asSupertype schema.name (describeSuper super)) :=
    fun super hs => (steady super ⟨schema, registered, hs⟩).asSupertype
  have isSuper : ∀ super, schema.superclass = some super ∨ super ∈ schema.interfaces → ∀ d,
      (answer (asSupertype schema.name (describeSuper super)) = .ok d ↔
        catalog.Describes super d) := fun super hs d => by
    rw [(steady super ⟨schema, registered, hs⟩).answer_asSupertype_eq_ok,
      supers super ⟨schema, registered, hs⟩]
  rw [describeType]
  split
  next inner =>
    apply iff_of_false (by simp)
    rintro ⟨registered', nesting⟩
    obtain rfl := Option.some.inj (registered.symm.trans registered')
    exact nesting inner
  next nesting =>
    have parentSteady := fun super hs => isSteady super (.inl hs)
    have interfaceSteady := fun super hs => isSteady super (.inr hs)
    have parts : ∀ superclass interfaces, catalog.Steady (do
        let handlers ← Run.ofExcept (catalog.registry.handlers schema)
        Run.ofExcept (catalog.check (catalog.assemble schema superclass interfaces handlers))) :=
      fun superclass interfaces => (steady_ofExcept _).bind fun handlers _ => steady_ofExcept _
    rw [(Steady.gives_optionMapM parentSteady).steady.answer_bind_eq_ok fun superclass _ =>
      (Steady.gives_mapM interfaceSteady).steady.bind fun interfaces _ => parts _ _]
    simp only [(Steady.gives_mapM interfaceSteady).steady.answer_bind_eq_ok
        (fun interfaces _ => parts _ interfaces),
      Steady.answer_optionMapM_eq_ok parentSteady, Steady.answer_mapM_eq_ok interfaceSteady,
      answer_ofExcept_bind, Result.bind_eq_ok, answer_ofExcept, check_eq_ok, List.forall₂_iff_zip]
    constructor
    · rintro ⟨superclass, ⟨hasParent, parent⟩, interfaces, ⟨count, interface⟩, handlers, served,
        lawful, rfl⟩
      refine .intro registered nesting hasParent ?_ count.symm ?_ served lawful
      · intro super d isParent given
        exact (isSuper super (.inl isParent) d).mp (parent super d isParent given)
      · intro super d given
        exact (isSuper super (.inr (List.of_mem_zip given).1) d).mp (interface given)
    · rintro ⟨registered', _, hasParent, parent, count, interface, served, lawful⟩
      obtain rfl := Option.some.inj (registered.symm.trans registered')
      refine ⟨_, ⟨hasParent, ?_⟩, _, ⟨count.symm, ?_⟩, _, served, lawful, rfl⟩
      · intro super d isParent given
        exact (isSuper super (.inl isParent) d).mpr (parent super d isParent given)
      · intro super d given
        exact (isSuper super (.inr (List.of_mem_zip given).1) d).mpr (interface super d given)

section DescribeFrom

variable {path : List ClassName} {memory : Memory} {descriptor : Descriptor}

theorem outcome_describeFrom_of_kept (kept : memory.descriptor? name = some descriptor) :
    (catalog.describeFrom path name).outcome memory = (.ok descriptor, memory) := by
  rw [describeFrom, Run.outcome_bind_of_ok (Run.outcome_get memory), kept, Run.outcome_pure]

theorem outcome_describeFrom_of_cycle (new : memory.descriptor? name = none)
    (underWay : name ∈ path) :
    (catalog.describeFrom path name).outcome memory =
      (.error (.mapping (.cyclicHierarchy (path.reverse ++ [name]))), memory) := by
  rw [describeFrom, Run.outcome_bind_of_ok (Run.outcome_get memory), new]
  simp [underWay]

theorem outcome_describeFrom_of_unknown (new : memory.descriptor? name = none)
    (fresh : name ∉ path) (unknown : catalog.registry.find? name = none) :
    (catalog.describeFrom path name).outcome memory = (.error (.unknownClass name), memory) := by
  rw [describeFrom, Run.outcome_bind_of_ok (Run.outcome_get memory), new]
  simp only [fresh, not_false_eq_true, dif_pos]
  split
  · rw [Run.outcome_throw]
  · simp_all

theorem outcome_describeFrom_of_new (new : memory.descriptor? name = none) (fresh : name ∉ path)
    (registered : catalog.registry.find? name = some schema) :
    (catalog.describeFrom path name).outcome memory =
      (do
        let descriptor ← catalog.describeType schema (catalog.describeFrom (name :: path))
        modify (Memory.publish · name descriptor)
        return descriptor : MapM Descriptor).outcome memory := by
  rw [describeFrom, Run.outcome_bind_of_ok (Run.outcome_get memory), new]
  simp only [fresh, not_false_eq_true, dif_pos]
  split <;> simp_all

/-- What is kept is what would be worked out: it is enough to look at classes that are not kept. -/
private theorem gives_describeFrom_of_new {body : MapM Descriptor}
    {result : Except MapError Descriptor}
    (same : ∀ memory : Memory, memory.descriptor? name = none →
      (catalog.describeFrom path name).outcome memory = body.outcome memory)
    (gives : catalog.Gives body result)
    (isDescriptor : ∀ descriptor, result = .ok descriptor ↔ catalog.Describes name descriptor) :
    catalog.Gives (catalog.describeFrom path name) result := by
  intro memory sound
  cases kept : memory.descriptor? name with
  | none =>
    rw [same memory kept]
    exact gives memory sound
  | some descriptor =>
    rw [outcome_describeFrom_of_kept kept,
      (isDescriptor descriptor).mpr (sound name descriptor kept)]
    exact ⟨memory, .refl sound, rfl⟩

/-- Keeping what was worked out changes nothing about it. -/
private theorem Gives.publish {act : MapM Descriptor} {result : Except MapError Descriptor}
    (gives : catalog.Gives act result)
    (isDescriptor : ∀ descriptor, result = .ok descriptor ↔ catalog.Describes name descriptor) :
    catalog.Gives (do
      let descriptor ← act
      modify (Memory.publish · name descriptor)
      return descriptor) result := by
  cases result with
  | error error => exact gives.bind_error
  | ok descriptor =>
    apply gives.bind
    intro memory sound
    exact ⟨_, Memory.learns_publish sound ((isDescriptor descriptor).mp rfl), rfl⟩

/-- The induction is on the registered types that are not on the path yet. Every type on the path
leads to the class asked for, so a class that the types give a descriptor is not on it: what is kept
can never hide a cycle. -/
theorem steady_describeFrom (leads : ∀ under ∈ path,
      Relation.TransGen catalog.registry.Link under name) :
    catalog.Steady (catalog.describeFrom path name) ∧ ∀ descriptor,
      answer (catalog.describeFrom path name) = .ok descriptor ↔
        catalog.Describes name descriptor := by
  suffices h : ∃ result, catalog.Gives (catalog.describeFrom path name) result ∧
      ∀ descriptor, result = .ok descriptor ↔ catalog.Describes name descriptor by
    obtain ⟨result, gives, isDescriptor⟩ := h
    exact ⟨gives.steady, gives.answer_eq ▸ isDescriptor⟩
  induction hn : catalog.registry.unseen path using Nat.strongRecOn generalizing path name with
  | ind n ih =>
    by_cases underWay : name ∈ path
    · have isDescriptor : ∀ descriptor, Except.error (MapError.mapping
          (.cyclicHierarchy (path.reverse ++ [name]))) = .ok descriptor ↔
          catalog.Describes name descriptor := fun descriptor =>
        iff_of_false (by simp) fun described => described.not_ancestor_self (leads name underWay)
      exact ⟨_, gives_describeFrom_of_new
        (fun memory new => outcome_describeFrom_of_cycle new underWay) (gives_throw _)
        isDescriptor, isDescriptor⟩
    cases registered : catalog.registry.find? name with
    | none =>
      have isDescriptor : ∀ descriptor, Except.error (MapError.unknownClass name) =
          .ok descriptor ↔ catalog.Describes name descriptor := fun descriptor =>
        iff_of_false (by simp) fun described => by
          have := described.find?_eq
          simp_all
      exact ⟨_, gives_describeFrom_of_new
        (fun memory new => outcome_describeFrom_of_unknown new underWay registered)
        (gives_throw _) isDescriptor, isDescriptor⟩
    | some schema =>
      have supers : ∀ super, catalog.registry.Link name super →
          catalog.Steady (catalog.describeFrom (name :: path) super) ∧ ∀ descriptor,
            answer (catalog.describeFrom (name :: path) super) = .ok descriptor ↔
              catalog.Describes super descriptor := by
        intro super link
        have fewer := Registry.unseen_cons_lt registered underWay
        obtain ⟨result, gives, isDescriptor⟩ := ih _ (hn ▸ fewer) (by
          intro under member
          rcases List.mem_cons.mp member with rfl | member
          · exact .single link
          · exact .tail (leads under member) link) rfl
        exact ⟨gives.steady, gives.answer_eq ▸ isDescriptor⟩
      have isDescriptor := answer_describeType_eq_ok registered
        (fun super link => (supers super link).1) fun super link => (supers super link).2
      have steady := steady_describeType fun super hs => (supers super ⟨schema, registered, hs⟩).1
      exact ⟨_, gives_describeFrom_of_new
        (fun memory new => outcome_describeFrom_of_new new underWay registered)
        (Gives.publish steady isDescriptor) isDescriptor, isDescriptor⟩

end DescribeFrom

theorem steady_describe (name : ClassName) : catalog.Steady (catalog.describe name) :=
  (steady_describeFrom (by simp)).1

/-- The answer to a question for a class is the descriptor that the registered types give it. -/
theorem answer_describe_eq_ok {name : ClassName} {descriptor : Descriptor} :
    answer (catalog.describe name) = .ok descriptor ↔ catalog.Describes name descriptor :=
  (steady_describeFrom (by simp)).2 descriptor

theorem Describes.answer_eq {name : ClassName} {descriptor : Descriptor}
    (described : catalog.Describes name descriptor) :
    answer (catalog.describe name) = .ok descriptor :=
  answer_describe_eq_ok.mpr described

end Catalog

end DocMapper
