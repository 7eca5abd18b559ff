import DocMapper.Proofs.Conversion.Decoded
import DocMapper.Proofs.Datastore.Loading
import DocMapper.Proofs.Store.Searchable

/-!
# Strangers in a collection

Classes may share a collection. A document that holds the name of a class whose objects cannot stand
for those of another is a stranger to the other class, and searching that class passes over it.
Counting, asking for an identity and deleting do not look at the class: a stranger is counted and
deleted like any other document, and asking for it fails. So these operations agree with searching
exactly where there are no strangers.
-/

namespace DocMapper

namespace Mapper

/-- The document holds the name of another class, whose objects cannot stand for those of the given
one. -/
def Stranger (mapper : Mapper) (name : ClassName) (doc : Document) : Prop :=
  ∃ stored descriptor, mapper.catalog.storedClassName? doc = some stored ∧ stored ≠ name ∧
    mapper.catalog.Describes stored descriptor ∧ descriptor.isAssignableTo name = false

variable {mapper : Mapper} {world other : World} {name : ClassName} {descriptor : Descriptor}
  {doc : Document} {stored : StoredDocument} {docs : List StoredDocument} {id : Value}

/-! ### Telling strangers -/

/-- The class whose name a document holds tells what it holds an object of. With the name of the
class that is asked for, or with none, nothing is described. -/
theorem answer_holdsInstance_eq_ok {holds : Bool} :
    Catalog.answer (mapper.holdsInstance name doc) = .ok holds ↔
      ((∀ stored, mapper.catalog.storedClassName? doc = some stored → stored = name) ∧
        holds = true) ∨
      ∃ stored descriptor, mapper.catalog.storedClassName? doc = some stored ∧ stored ≠ name ∧
        mapper.catalog.Describes stored descriptor ∧ descriptor.isAssignableTo name = holds := by
  rw [holdsInstance]
  cases held : mapper.catalog.storedClassName? doc with
  | none => simp [eq_comm]
  | some stored =>
    by_cases own : stored = name
    · simp [own, Option.filter, eq_comm]
    · rw [Option.filter_some, if_pos (by simpa using own),
        (Catalog.steady_describe stored).answer_bind_eq_ok fun _ _ => Catalog.steady_pure _]
      simp [Catalog.answer_describe_eq_ok, own]

/-- Strangers are what the search for a class passes over. -/
theorem answer_holdsInstance_eq_false :
    Catalog.answer (mapper.holdsInstance name doc) = .ok false ↔ mapper.Stranger name doc := by
  rw [answer_holdsInstance_eq_ok, Stranger]
  simp

instance (mapper : Mapper) (name : ClassName) (doc : Document) :
    Decidable (mapper.Stranger name doc) :=
  match answered : Catalog.answer (mapper.holdsInstance name doc) with
  | .ok false => .isTrue (answer_holdsInstance_eq_false.mp answered)
  | .ok true => .isFalse fun stranger => by
      rw [answer_holdsInstance_eq_false.mpr stranger] at answered
      cases answered
  | .error _ => .isFalse fun stranger => by
      rw [answer_holdsInstance_eq_false.mpr stranger] at answered
      cases answered

/-- What is stored is a stranger to the class. -/
def Harbours (mapper : Mapper) (name : ClassName) (stored : StoredDocument) : Prop :=
  ∃ doc, stored.load = .ok doc ∧ mapper.Stranger name doc

instance (mapper : Mapper) (name : ClassName) (stored : StoredDocument) :
    Decidable (mapper.Harbours name stored) :=
  match read : stored.load with
  | .ok doc => decidable_of_iff (mapper.Stranger name doc) (by simp [Harbours, read])
  | .error _ => .isFalse (by simp [Harbours, read])

/-- The operations on a class treat strangers as searching it does: as if they were not there. -/
structure Overlooks (mapper : Mapper) (world : World) (name : ClassName)
    (docs : List StoredDocument) : Prop where
  counts : ((mapper.count name).outcome world).1 =
    .ok (docs.filter fun stored => ¬ mapper.Harbours name stored).length
  gets : ∀ stored ∈ docs, mapper.Harbours name stored →
    ((mapper.get name stored.id).outcome world).1 = .ok none
  deletes : ∀ stored ∈ docs, mapper.Harbours name stored →
    ((mapper.delete name stored.id).outcome world).1 = .ok false ∧
      ((mapper.delete name stored.id).outcome world).2.store.collections = world.store.collections

/-! ### Searching -/

/-- Searching passes over a stranger without looking at anything else. -/
theorem Stranger.outcome_loadFound (stranger : mapper.Stranger name doc)
    (ready : world.Ready mapper.catalog) (cache : EntityCache) :
    ∃ after, world.Keeps mapper.catalog after ∧
      (mapper.loadFound name doc).outcome (world, cache) = (.ok none, after, cache) := by
  obtain ⟨after, keeps, ran⟩ := World.outcome_onMemory (steady_holdsInstance mapper name doc) ready
  rw [answer_holdsInstance_eq_false.mpr stranger] at ran
  exact ⟨after, keeps, Run.outcome_bind_of_ok (Run.outcome_onFirst_eq cache ran)⟩

theorem outcome_mapM_loadFound {found : List Document}
    (strangers : ∀ doc ∈ found, mapper.Stranger name doc) (ready : world.Ready mapper.catalog)
    (cache : EntityCache) :
    ∃ after, world.Keeps mapper.catalog after ∧
      (found.mapM (mapper.loadFound name)).outcome (world, cache) =
        (.ok (found.map fun _ => none), after, cache) := by
  induction found generalizing world with
  | nil => exact ⟨world, .refl ready, rfl⟩
  | cons doc rest ih =>
    obtain ⟨stranger, strangers⟩ := List.forall_mem_cons.mp strangers
    obtain ⟨first, keeps, passes⟩ := stranger.outcome_loadFound ready cache
    obtain ⟨second, keeps', ran⟩ := ih strangers keeps.ready
    refine ⟨second, keeps.trans keeps', ?_⟩
    rw [List.mapM_cons, Run.outcome_bind_of_ok passes, Run.outcome_bind_of_ok ran]
    rfl

/-- A search loads what the store finds, one document after the other, with nothing known before. -/
theorem result_find (ready : world.Ready mapper.catalog)
    (described : mapper.catalog.Describes name descriptor) (isEntity : descriptor.isEntity = true)
    (filter : Filter) :
    ∃ middle, world.Keeps mapper.catalog middle ∧ ((mapper.find name filter).outcome world).1 =
      (world.store.collections.find descriptor.collection filter).mapError .store >>= fun found =>
        ((found.mapM (mapper.loadFound name)).outcome (middle, [])).1.map List.reduceOption := by
  obtain ⟨first, keeps, asks⟩ := outcome_entityClass ready described isEntity
  obtain ⟨second, keeps', searches⟩ := World.outcome_find keeps.ready descriptor.collection filter
  rw [keeps.collections] at searches
  refine ⟨second, keeps.trans keeps', ?_⟩
  rw [find, Run.outcome_bind_of_ok asks]
  cases searched : world.store.collections.find descriptor.collection filter with
  | error error =>
    rw [searched] at searches
    rw [Run.outcome_bind_of_error searches]
    rfl
  | ok found =>
    rw [searched] at searches
    rw [Run.outcome_bind_of_ok searches, ← map_eq_pure_bind, Run.outcome_map,
      outcome_withFreshCache]
    rfl

/-- A search gives nothing where all that it finds are strangers. -/
theorem result_find_of_strangers (ready : world.Ready mapper.catalog)
    (described : mapper.catalog.Describes name descriptor) (isEntity : descriptor.isEntity = true)
    {filter : Filter} {found : List Document}
    (searched : world.store.collections.find descriptor.collection filter = .ok found)
    (strangers : ∀ doc ∈ found, mapper.Stranger name doc) :
    ((mapper.find name filter).outcome world).1 = .ok [] := by
  obtain ⟨middle, keeps, ran⟩ := result_find ready described isEntity filter
  obtain ⟨_, -, passes⟩ := outcome_mapM_loadFound strangers keeps.ready []
  rw [ran, searched, Except.mapError, Result.ok_bind, passes]
  simp [Except.map, List.reduceOption]

/-! ### Asking for an identity -/

/-- A stranger cannot be read as an object of the class. -/
theorem Stranger.answer_concreteClass (stranger : mapper.Stranger name doc) :
    ∃ stored, mapper.catalog.storedClassName? doc = some stored ∧
      Catalog.answer (mapper.catalog.concreteClass name doc) =
        .error (.invalidDocument name (.notAssignable stored name)) := by
  obtain ⟨stored, descriptor, held, differs, described, apart⟩ := stranger
  refine ⟨stored, held, ?_⟩
  rw [Catalog.concreteClass, held, Option.filter_some, if_pos (by simpa using differs),
    (Catalog.steady_describe stored).answer_bind fun found _ => by
      split
      · exact Catalog.steady_pure _
      · exact Catalog.steady_throw _,
    described.answer_eq]
  simp [apart]

theorem Stranger.outcome_loadResolved (stranger : mapper.Stranger name doc)
    (ready : world.Ready mapper.catalog) (cache : EntityCache) :
    ∃ stored after, mapper.catalog.storedClassName? doc = some stored ∧
      (mapper.loadResolved name doc).outcome (world, cache) =
        (.error (.invalidDocument name (.notAssignable stored name)), after) := by
  obtain ⟨stored, held, fails⟩ := stranger.answer_concreteClass
  obtain ⟨after, -, ran⟩ :=
    World.outcome_onMemory (Catalog.steady_concreteClass name doc) ready
  rw [fails] at ran
  exact ⟨stored, _, held, Run.outcome_bind_of_error (Run.outcome_onFirst_eq cache ran)⟩

/-- Asking for the identity of a stranger fails. -/
theorem Stranger.result_get (stranger : mapper.Stranger name doc)
    (ready : world.Ready mapper.catalog) (described : mapper.catalog.Describes name descriptor)
    (isEntity : descriptor.isEntity = true)
    (found : world.store.collections.findFirst descriptor.collection (.idEq id) =
      .ok (some doc)) :
    ∃ stored, mapper.catalog.storedClassName? doc = some stored ∧
      ((mapper.get name id).outcome world).1 =
        .error (.invalidDocument name (.notAssignable stored name)) := by
  obtain ⟨first, keeps, ran⟩ := outcome_get_of_found ready described isEntity found
  obtain ⟨stored, after, held, fails⟩ := stranger.outcome_loadResolved keeps.ready []
  refine ⟨stored, held, ?_⟩
  rw [ran, Run.outcome_map, outcome_withFreshCache, fails]
  rfl

/-! ### Deleting -/

/-- A stored document is deleted by its identifier, whatever its class. -/
theorem result_delete_of_mem (ready : world.Ready mapper.catalog)
    (described : mapper.catalog.Describes name descriptor) (isEntity : descriptor.isEntity = true)
    (member : stored ∈ world.store.collections.documents descriptor.collection) :
    ((mapper.delete name stored.id).outcome world).1 = .ok true ∧
      ((mapper.delete name stored.id).outcome world).2.store.collections.documents
          descriptor.collection =
        (world.store.collections.documents descriptor.collection).filter (·.id != stored.id) := by
  obtain ⟨after, -, left, ran⟩ := outcome_delete ready described isEntity stored.id
  rw [ran, left, Collections.documents_delete_self]
  refine ⟨congrArg Except.ok ?_, rfl⟩
  simp only [Collections.delete, decide_eq_true_eq]
  exact List.length_filter_lt_length_iff_exists.mpr ⟨stored, member, by simp⟩

/-! ### All operations -/

/-- Counting, asking and deleting overlook strangers as searching does exactly where there are none.
For a stranger, searching passes over it, also where its own identifier is searched for, while it is
counted with the others, asking for it fails, and deleting removes it. -/
theorem overlooks_iff (ready : world.Ready mapper.catalog)
    (described : mapper.catalog.Describes name descriptor) (isEntity : descriptor.isEntity = true)
    (reached : Collections.Reached world.store.collections)
    (isDocs : docs = world.store.collections.documents descriptor.collection) :
    (mapper.Overlooks world name docs ↔ ∀ stored ∈ docs, ¬ mapper.Harbours name stored) ∧
    ((mapper.count name).outcome world).1 = .ok docs.length ∧
    ∀ stored ∈ docs, ∀ doc, stored.load = .ok doc → mapper.Stranger name doc →
      (∀ other cache, other.Ready mapper.catalog → ∃ after, other.Keeps mapper.catalog after ∧
        (mapper.loadFound name doc).outcome (other, cache) = (.ok none, after, cache)) ∧
      (∀ loaded, docs.mapM StoredDocument.load = .ok loaded →
        ((mapper.find name (.idEq stored.id)).outcome world).1 = .ok [] ∧
        ∃ className, mapper.catalog.storedClassName? doc = some className ∧
          ((mapper.get name stored.id).outcome world).1 =
            .error (.invalidDocument name (.notAssignable className name))) ∧
      ((mapper.delete name stored.id).outcome world).1 = .ok true ∧
      ((mapper.delete name stored.id).outcome world).2.store.collections.documents
        descriptor.collection = docs.filter (·.id != stored.id) := by
  subst isDocs
  obtain ⟨_, -, counted⟩ := outcome_count ready described isEntity
  have count : ((mapper.count name).outcome world).1 =
      .ok (world.store.collections.documents descriptor.collection).length := by rw [counted]
  refine ⟨⟨fun overlooks => ?_, fun none => ⟨?_, ?_, ?_⟩⟩, count, ?_⟩
  · have same := Except.ok.inj (count.symm.trans overlooks.counts)
    simpa using List.length_filter_eq_length_iff.mp same.symm
  · rw [count, List.filter_eq_self.mpr fun stored member => by simpa using none stored member]
  · exact fun stored member harbours => absurd harbours (none stored member)
  · exact fun stored member harbours => absurd harbours (none stored member)
  · intro stored member doc read stranger
    refine ⟨fun other cache ready => stranger.outcome_loadFound ready cache, ?_,
      result_delete_of_mem ready described isEntity member⟩
    intro loaded reads
    have intact := (reached.labelled descriptor.collection).intact reads
    have here := Collections.documentAt?_of_mem intact member read
    refine ⟨result_find_of_strangers ready described isEntity
      (Collections.find_idEq intact stored.id) ?_, stranger.result_get ready described isEntity ?_⟩
    · simpa [here] using stranger
    · rw [Collections.findFirst_idEq intact, here]

end Mapper

namespace Samples

def person : TypeSchema :=
  entity "Person" "people" [marked "id" integer .id]

def employee : TypeSchema where
  name := ⟨"Employee"⟩
  superclass := some person.name
  fields := [plain "team" text]

def staff : Catalog where
  registry := .ofTypes [person, employee]

theorem describes_person : staff.Describes person.name (staff.assemble person none [] []) :=
  Catalog.describes_alone rfl (by decide) rfl rfl rfl rfl rfl

theorem describes_employee : staff.Describes employee.name
    (staff.assemble employee (some (staff.assemble person none [] [])) [] []) := by
  have noMethods : staff.registry.methods employee = [] := by decide +kernel
  have served : staff.registry.handlers employee = .ok [] := by
    rw [Registry.handlers, noMethods]
    rfl
  refine .intro rfl (by decide) rfl ?_ rfl (by simp [employee]) served rfl
  rintro _ _ ⟨rfl⟩ ⟨rfl⟩
  exact describes_person

/-- A person without a team is stored, and an employee. -/
def staffWorld : World where
  store := { collections := (Collections.serve (Collections.serve []
    (.save "people" [("_id", .integer 1), ("className", .text "Person")])).2
    (.save "people" [("_id", .integer 2), ("className", .text "Employee")])).2 }

/-- Searching for employees overlooks the person. Counting them does not, so the operations on
employees disagree. -/
theorem overlooks_iff_staff :
    let mapper : Mapper := { catalog := staff }
    let docs := staffWorld.store.collections.documents "people"
    mapper.Plain ∧ (docs.map fun stored => decide (mapper.Harbours employee.name stored)) =
      [true, false] ∧
    ¬ mapper.Overlooks staffWorld employee.name docs ∧
    ((mapper.count employee.name).outcome staffWorld).1 = .ok 2 := by
  intro mapper docs
  have reached : Collections.Reached staffWorld.store.collections :=
    .serve (.serve .empty (by decide +kernel)) (by decide +kernel)
  have harbours : (docs.map fun stored => decide (mapper.Harbours employee.name stored)) =
      [true, false] := by decide +kernel
  obtain ⟨agree, counted, -⟩ := @Mapper.overlooks_iff mapper staffWorld _ _ docs
    ⟨Memory.sound_empty _, rfl⟩ describes_employee rfl reached rfl
  refine ⟨⟨Registry.named_ofTypes _, .of_methods_eq_nil rfl, rfl⟩, harbours, fun overlooks => ?_,
    counted.trans (by decide +kernel)⟩
  have none := agree.mp overlooks
  have spared : (docs.map fun stored => decide (mapper.Harbours employee.name stored)) =
      docs.map fun _ => false :=
    List.map_congr_left fun stored member => decide_eq_false (none stored member)
  rw [harbours] at spared
  exact absurd spared (by decide +kernel)

/-- What is left of asking for an employee: that it fails, and why. -/
def employeeFault? (id : Value) : Option MapError :=
  match ((Mapper.get { catalog := staff } employee.name id).outcome staffWorld).1 with
  | .ok _ => none
  | .error error => some error

/-- The person is passed over by a search for employees. Still he is counted as one, asking for him
fails, and he can be deleted as one. -/
theorem person_not_overlooked :
    let mapper : Mapper := { catalog := staff }
    (((mapper.find employee.name (.idEq (.integer 1))).outcome staffWorld).1.toOption.map
      List.length) = some 0 ∧
    ((mapper.count employee.name).outcome staffWorld).1.toOption = some 2 ∧
    employeeFault? (.integer 1) =
      some (.invalidDocument employee.name (.notAssignable person.name employee.name)) ∧
    ((mapper.delete employee.name (.integer 1)).outcome staffWorld).1.toOption = some true ∧
    (((mapper.delete employee.name (.integer 1)).outcome staffWorld).2.store.collections.documents
      "people").map StoredDocument.id = [.integer 2] := by
  refine ⟨?_, ?_, ?_, ?_, ?_⟩
  all_goals decide +kernel

end Samples

end DocMapper
