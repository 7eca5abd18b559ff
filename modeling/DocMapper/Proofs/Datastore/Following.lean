import DocMapper.Proofs.Datastore.Saving
import DocMapper.Proofs.Datastore.Sharing

/-!
# References lead back

A reference to a saved entity is stored as the place of its document, so following it reads that
document: there is neither a missing nor another entity at its end. An identifier by itself says no
collection and leads into the one of the class that the field is declared with; it leads back only
if the entity was saved there.
-/

namespace DocMapper

namespace MappedField

def holding (field : MappedField) (ref : Reference) : Property :=
  if field.isMultiple then .references [ref] else .reference ref

def storing (field : MappedField) (pointer : Value) : Value :=
  if field.isMultiple then .array [pointer] else pointer

end MappedField

namespace Catalog

variable {catalog : Catalog} {field : MappedField} {ref : Reference} {value pointer : Value}
  {name : ClassName} {target : Descriptor} {key : Key}

theorem answer_encodeReference_holding :
    answer (catalog.encodeReference field (field.holding ref)) = .ok value ↔
      ∃ pointer, answer (catalog.referencePointer field ref) = .ok pointer ∧
        value = field.storing pointer := by
  cases multiple : field.isMultiple <;>
    simp [encodeReference, shapeFault?, MappedField.holding, MappedField.storing, multiple,
      Result.map_eq_ok, @eq_comm Value value]

/-- What is stored for an identity that is not null is not null. -/
theorem isNull_storing_pointerTo {id : Value} (present : id.isNull = false) (collection : String) :
    (field.storing (field.pointerTo collection id)).isNull = false := by
  rw [MappedField.storing, MappedField.pointerTo]
  cases field.isMultiple with
  | true => rfl
  | false =>
    cases field.pointerOptions.idOnly with
    | false => rfl
    | true => exact present

theorem answer_keys_storing (isTarget : field.target? = some name)
    (described : catalog.Describes name target) (points : keyFor field target pointer = .ok key) :
    answer (catalog.keys field (field.storing pointer)) = .ok [key] := by
  refine answer_keys_eq_ok.mpr ⟨target, ⟨name, isTarget, described⟩, ?_⟩
  rw [MappedField.storing]
  cases multiple : field.isMultiple with
  | false => exact (keysFor_eq_ok_of_single multiple).mpr ⟨key, points, rfl⟩
  | true =>
    exact (keysFor_eq_ok_of_multiple multiple).mpr ⟨[pointer], rfl, by simp [points]⟩

theorem exists_describes_of_decodeDocument (named : catalog.registry.Named) {doc : Document}
    {entity : Entity} (read : answer (catalog.decodeDocument name doc) = .ok entity) :
    ∃ target, catalog.Describes name target := by
  rw [decodeDocument_eq, answer_readObject_eq_ok] at read
  obtain ⟨descriptor, isClass, -⟩ := read
  exact isClass.exists_describes named

end Catalog

namespace Mapper

variable {mapper : Mapper} {before after later world : World} {field : MappedField}
  {collections : Collections} {key : Key} {doc : Document} {entity left : Entity}
  {descriptor target : Descriptor} {name : ClassName} {pointer value : Value}

/-! ### One pointer -/

/-- A value that can be resolved is one of a field whose class can be described. -/
theorem exists_describes_of_resolve (ready : world.Ready mapper.catalog)
    (isTarget : field.target? = some name) (present : value.isNull = false) {property : Property}
    (resolved : ((mapper.resolve field value).outcome (world, [])).1 = .ok property) :
    ∃ target, mapper.catalog.Describes name target := by
  cases asked : Catalog.answer (mapper.catalog.keys field value) with
  | error error =>
    obtain ⟨state, -, ran⟩ := outcome_resolve_of_error (world, []) (.refl ready) present asked
    rw [ran] at resolved
    cases resolved
  | ok keys =>
    obtain ⟨target, ⟨other, isTarget', described⟩, -⟩ := Catalog.answer_keys_eq_ok.mp asked
    obtain rfl := Option.some.inj (isTarget.symm.trans isTarget')
    exact ⟨target, described⟩

/-- With nothing known, a pointer to a document is resolved to the entity that is read from it. -/
theorem Plain.resolve_storing (plain : mapper.Plain)
    (labelled : ∀ name, Collections.Labelled (world.store.collections.documents name))
    (ready : world.Ready mapper.catalog) (isTarget : field.target? = some name)
    (described : mapper.catalog.Describes name target)
    (present : (field.storing pointer).isNull = false)
    (points : Catalog.keyFor field target pointer = .ok key)
    (found : world.store.collections.findFirst key.collection (.idEq key.id) = .ok (some doc))
    (property : Property) :
    ((mapper.resolve field (field.storing pointer)).outcome (world, [])).1 = .ok property ↔
      ∃ entity, Catalog.answer (mapper.catalog.decodeDocument name doc) = .ok entity ∧
        property = field.holding (.resolved entity) := by
  have isKeys := Catalog.answer_keys_storing isTarget described points
  have sameClass : key.className = name :=
    (Catalog.className_of_keyFor points).trans (described.className_eq plain.named)
  have follows := @follow_of_found mapper field _ key doc found
  rw [sameClass] at follows
  cases multiple : field.isMultiple with
  | false =>
    have shape : field.storing pointer = pointer := by simp [MappedField.storing, multiple]
    rw [shape] at isKeys present ⊢
    rw [plain.result_resolve_of_single (world, []) (.refl ready) present multiple isKeys right_nil,
      follows, Result.map_eq_ok]
    simp only [Result.map_eq_ok, MappedField.holding, multiple, Bool.false_eq_true, if_false]
    constructor
    · rintro ⟨_, ⟨entity, read, rfl⟩, rfl⟩
      exact ⟨entity, read, rfl⟩
    · rintro ⟨entity, read, rfl⟩
      exact ⟨_, ⟨entity, read, rfl⟩, rfl⟩
  | true =>
    have shape : field.storing pointer = .array [pointer] := by
      simp [MappedField.storing, multiple]
    rw [shape] at isKeys ⊢
    rw [plain.result_resolve_of_fresh labelled ready rfl multiple isKeys]
    simp only [Result.mapM_eq_ok, List.forall₂_cons_left_iff, List.forall₂_nil_left_iff,
      follows, Result.map_eq_ok, MappedField.holding, multiple, if_true]
    constructor
    · rintro ⟨_, ⟨_, _, ⟨entity, read, rfl⟩, rfl, rfl⟩, rfl⟩
      exact ⟨entity, read, rfl⟩
    · rintro ⟨entity, read, rfl⟩
      exact ⟨_, ⟨_, _, ⟨entity, read, rfl⟩, rfl, rfl⟩, rfl⟩

/-! ### The place of a saved entity -/

/-- Where documents are within the levels, a saved entity is found under its identity. -/
theorem Saved.found (saved : mapper.Saved before entity key after left)
    (described : mapper.catalog.Describes entity.className descriptor)
    (apart : mapper.catalog.options.classNameKey ≠ idField)
    (labelled : Collections.Labelled (before.store.collections.documents descriptor.collection))
    (within : Collections.Within (after.store.collections.documents descriptor.collection)) :
    ∃ doc id, Catalog.answer (mapper.catalog.document left) = .ok doc ∧
      descriptor.idValue? left = some id ∧
        after.store.collections.findFirst descriptor.collection (.idEq id) = .ok (some doc) := by
  obtain ⟨-, doc, id, encoded, identified, held, wrote⟩ := saved.wrote described apart
  have stored := Collections.save_eq_ok.mpr ⟨id, identified, wrote⟩
  obtain ⟨_, isStored, intact, here⟩ := labelled.of_save stored within
  obtain rfl := Option.some.inj (identified.symm.trans isStored)
  refine ⟨doc, id, encoded, held, ?_⟩
  rw [Collections.findFirst_idEq intact, here]

/-- A reference to a saved entity that is still stored resolves to what its own document is read as
under the class that the field is declared with. If the entity can stand for this class, that is
what the document is read as under its own. -/
theorem Plain.resolve_encoded (plain : mapper.Plain) (ready : before.Ready mapper.catalog)
    (described : mapper.catalog.Describes entity.className descriptor)
    (apart : mapper.catalog.options.classNameKey ≠ idField)
    (labelled : Collections.Labelled (before.store.collections.documents descriptor.collection))
    (saves : mapper.save.outcome (before, entity) = (.ok key, (after, left)))
    (within : Collections.Within (after.store.collections.documents descriptor.collection))
    (ready' : later.Ready mapper.catalog)
    (labelled' : ∀ name, Collections.Labelled (later.store.collections.documents name))
    (unchanged : ∀ id, descriptor.idValue? left = some id →
      later.store.collections.findFirst descriptor.collection (.idEq id) =
        after.store.collections.findFirst descriptor.collection (.idEq id))
    (isTarget : field.target? = some name)
    (home : field.pointerOptions.idOnly = true → ∀ target,
      mapper.catalog.Describes name target → target.collection = descriptor.collection)
    (encoded : Catalog.answer (mapper.catalog.encodeReference field
      (field.holding (.resolved left))) = .ok value) :
    ∃ doc id, Catalog.answer (mapper.catalog.document left) = .ok doc ∧
      descriptor.idValue? left = some id ∧
      later.store.collections.findFirst descriptor.collection (.idEq id) = .ok (some doc) ∧
      (∀ property, ((mapper.resolve field value).outcome (later, [])).1 = .ok property ↔
        ∃ found, Catalog.answer (mapper.catalog.decodeDocument name doc) = .ok found ∧
          property = field.holding (.resolved found)) ∧
      ((∀ field ∈ descriptor.fields, field.storedName ≠ mapper.catalog.options.classNameKey) →
        mapper.catalog.StandsFor left name →
          Catalog.answer (mapper.catalog.decodeDocument name doc) =
            Catalog.answer (mapper.catalog.decodeDocument left.className doc)) := by
  have saved : mapper.Saved before entity key after left := by
    rcases plain.outcome_save ready saves with ⟨_, isKey, saved⟩ | ⟨error, fails, -⟩
    · cases isKey
      exact saved
    · cases fails
  have sameClass := (saved.wrote described apart).1
  have describedLeft : mapper.catalog.Describes left.className descriptor :=
    sameClass.symm ▸ described
  obtain ⟨doc, id, isDoc, held, found⟩ := saved.found described apart labelled within
  obtain ⟨pointer, written, rfl⟩ := Catalog.answer_encodeReference_holding.mp encoded
  obtain ⟨place, ⟨other, described', here, held'⟩, rfl⟩ :=
    Catalog.answer_referencePointer_eq_ok.mp written
  obtain rfl := describedLeft.unique described'
  obtain rfl : id = place.id := Option.some.inj (held.symm.trans held')
  have still := (unchanged _ held).trans found
  refine ⟨doc, _, isDoc, held, still, fun property => ?_, fun unnamed stands => ?_⟩
  · have present := @Catalog.isNull_storing_pointerTo field _
      (Catalog.isNull_of_idValue? held) place.collection
    by_cases isDescribed : ∃ target, mapper.catalog.Describes name target
    · obtain ⟨target, isDescribed⟩ := isDescribed
      refine plain.resolve_storing labelled' ready' isTarget isDescribed present
        (Catalog.keyFor_pointerTo field target place.collection place.id) ?_ property
      have here' : (if field.pointerOptions.idOnly then target.collection else place.collection) =
          descriptor.collection := by
        split
        next idOnly => exact home idOnly target isDescribed
        · exact here.symm
      rw [here', still]
    · refine iff_of_false (fun resolved => isDescribed ?_) ?_
      · exact exists_describes_of_resolve ready' isTarget present resolved
      · rintro ⟨entity, read, -⟩
        exact isDescribed (Catalog.exists_describes_of_decodeDocument plain.named read)
  · have isWritten := describedLeft.written_document isDoc
    rw [Catalog.answer_decodeDocument_of_readAs
        (isWritten.readAs plain.named describedLeft unnamed stands),
      Catalog.answer_decodeDocument_of_readAs
        (isWritten.readAs plain.named describedLeft unnamed (describedLeft.standsFor plain.named))]

end Mapper

namespace Samples

/-- An author with a collection for his like. -/
def guest : TypeSchema :=
  { entity "Guest" "guests" [] with superclass := some author.name }

/-- A library with guests. -/
def visitors : Registry := .ofTypes [address, author, guest, book]

def visitorsMapper (options : Options) : Mapper where
  catalog := { registry := visitors, options }

theorem plain_visitors (options : Options) : (visitorsMapper options).Plain :=
  ⟨Registry.named_ofTypes _, .of_methods_eq_nil rfl, rfl⟩

def visitorsAuthor (options : Options) : Descriptor :=
  Catalog.assemble ⟨visitors, options⟩ author none [] []

def visitorsGuest (options : Options) : Descriptor :=
  Catalog.assemble ⟨visitors, options⟩ guest (some (visitorsAuthor options)) [] []

theorem describes_visitorsAuthor (options : Options) :
    Catalog.Describes ⟨visitors, options⟩ author.name (visitorsAuthor options) :=
  Catalog.describes_alone rfl (by decide) rfl rfl rfl rfl rfl

theorem describes_visitorsGuest (options : Options) :
    Catalog.Describes ⟨visitors, options⟩ guest.name (visitorsGuest options) := by
  have noMethods : visitors.methods guest = [] := by decide +kernel
  have served : visitors.handlers guest = .ok [] := by
    rw [Registry.handlers, noMethods]
    rfl
  refine .intro rfl (by decide) rfl ?_ rfl (by simp [guest, entity]) served rfl
  rintro _ _ ⟨rfl⟩ ⟨rfl⟩
  exact describes_visitorsAuthor options

def bob : Entity :=
  .mk guest.name [("id", .value (.integer 1)), ("name", .value (.text "Bob"))]

def bobRow : Document :=
  [("_id", .integer 1), ("className", .text "Guest"), ("name", .text "Bob")]

/-- A guest is an author whom a book names by a pointer. Once he is saved, the pointer leads back to
him. -/
theorem resolve_encoded_bob :
    let mapper := visitorsMapper {}
    let saved := mapper.save.outcome ({}, bob)
    let later : World := { store := { collections := saved.2.1.store.collections } }
    ∃ value, Catalog.answer (mapper.catalog.encodeReference bookAuthors
        (bookAuthors.holding (.resolved saved.2.2))) = .ok value ∧
      ((mapper.resolve bookAuthors value).outcome (later, [])).1 =
        .ok (bookAuthors.holding (.resolved bob)) := by
  intro mapper saved later
  have collections : later.store.collections =
      (Collections.serve [] (.save "guests" bobRow)).2 := by decide +kernel
  have reached : Collections.Reached later.store.collections :=
    collections ▸ .serve .empty (by decide +kernel)
  have within : Collections.Within (later.store.collections.documents "guests") := by
    rw [collections]
    rintro _ (_ | ⟨_, ⟨⟩⟩)
    exact ⟨bobRow, ⟨by decide, by decide +kernel⟩, rfl⟩
  have saves : saved.1.toOption = some ⟨guest.name, "guests", .integer 1⟩ := by decide +kernel
  have encoded : Catalog.answer (mapper.catalog.encodeReference bookAuthors
      (bookAuthors.holding (.resolved saved.2.2))) =
        .ok (.array [Pointer.toValue ⟨"guests", .integer 1⟩]) :=
    Result.eq_ok_of_toOption (by decide +kernel)
  have written : Catalog.answer (mapper.catalog.document saved.2.2) = .ok bobRow :=
    Result.eq_ok_of_toOption (by decide +kernel)
  obtain ⟨doc, -, isDoc, -, -, resolves, -⟩ := @Mapper.Plain.resolve_encoded mapper {} _ later
    bookAuthors _ bob _ _ _ _ (plain_visitors {}) ⟨Memory.sound_empty _, rfl⟩
    (describes_visitorsGuest {}) (by decide) (Collections.Reached.empty.labelled _)
    (Run.outcome_eq_of_toOption saves) within ⟨Memory.sound_empty _, rfl⟩ reached.labelled
    (fun _ _ => rfl) rfl nofun encoded
  obtain rfl : bobRow = doc := Except.ok.inj (written.symm.trans isDoc)
  have read : Catalog.answer (mapper.catalog.decodeDocument author.name bobRow) = .ok bob :=
    Catalog.answer_readObject_eq_ok.mpr ⟨_, ⟨describes_visitorsGuest {}, rfl⟩, rfl⟩
  exact ⟨_, encoded, (resolves _).mpr ⟨bob, read, rfl⟩⟩

/-- What is stored in a field for an entity once it is saved, why that cannot be resolved with
nothing known, and the class of the entity that a single reference is resolved to. -/
def followed (mapper : Mapper) (field : MappedField) (world : World) (entity : Entity) :
    Option Value × Option MapError × Option ClassName :=
  let (saved, after, left) := mapper.save.outcome (world, entity)
  let stored := do
    let _ ← saved
    Catalog.answer (mapper.catalog.encodeReference field (field.holding (.resolved left)))
  let found := do ((mapper.resolve field (← stored)).outcome (after, [])).1
  (stored.toOption, failure? found, do
    let ref ← (← found.toOption).asReference?
    return (← ref.entity?).className)

def bookEditor : MappedField :=
  .ofSchema book.name (marked "editor" (object "Author") (.reference { idOnly := true }))

def ann : Entity :=
  .mk author.name [("id", .value (.integer 1)), ("name", .value (.text "Ann"))]

def untitled : Entity :=
  .mk book.name [("id", .value (.integer 1))]

def stacked : Nat → Value
  | 0 => .null
  | levels + 1 => .array [stacked levels]

def box : TypeSchema :=
  entity "Box" "boxes" [marked "id" integer .id, plain "content" (.scalar .any)]

/-- A box with more levels in it than a reader follows. -/
def deepBox : Entity :=
  .mk box.name [("content", .value (stacked 128)), ("id", .value (.integer 1))]

def boxMapper : Mapper where
  catalog := { registry := .ofTypes [box] }

def boxLink : MappedField :=
  .ofSchema ⟨"Shelf"⟩ (marked "box" (object "Box") (.reference {}))

/-- Where references lead away. The bare identifier of a guest leads to an author who has the same
one, or nowhere. A book passes for an author until it is loaded, and so does an author with a place
for a name. An author whose class name is written in the place of his identifier is not found under
it. A box that is too deep cannot be read. -/
theorem not_every_reference_leads_back :
    (visitorsMapper {}).Plain ∧
    followed (visitorsMapper {}) bookEditor ((visitorsMapper {}).save.outcome ({}, ann)).2.1 bob =
      (some (.integer 1), none, some author.name) ∧
    followed (visitorsMapper {}) bookEditor {} bob = (some (.integer 1), none, none) ∧
    followed (visitorsMapper {}) bookAuthors {} untitled =
      (some (.array [Pointer.toValue ⟨"books", .integer 1⟩]),
        some (.invalidDocument author.name (.notAssignable book.name author.name)), none) ∧
    followed (visitorsMapper {}) bookEditor {} misplaced =
      (some (.integer 1), some (.invalidDocument author.name (.misfit "name" "document" text)),
        none) ∧
    (visitorsMapper { classNameKey := "_id" }).Plain ∧
    followed (visitorsMapper { classNameKey := "_id" }) bookEditor {} ann =
      (some (.integer 1), none, none) ∧
    boxMapper.Plain ∧
    followed boxMapper boxLink {} deepBox =
      (some (Pointer.toValue ⟨"boxes", .integer 1⟩), some (.store .undecodable), none) := by
  refine ⟨plain_visitors _, ?_, ?_, ?_, ?_, plain_visitors _, ?_,
    ⟨Registry.named_ofTypes _, .of_methods_eq_nil rfl, rfl⟩, ?_⟩
  all_goals decide +kernel

end Samples

end DocMapper
