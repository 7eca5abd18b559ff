import DocMapper.Proofs.Conversion.Discriminator
import DocMapper.Proofs.Conversion.Layout
import DocMapper.Proofs.Discovery.Acceptable

/-!
# Documents show the fields and nothing else

Two entities agree if they are of one class and hold the same in every field of it (`Agree`). One
form of null is as good as another here, references to one object are the same whatever is known of
it, and embedded objects agree in their turn. What an entity holds under other names does not count.

Entities that agree are written as the same document, or fail with the same error. What a document
shows is then told by its layout: the keys that it and the documents inside it have, in their order.
-/

namespace DocMapper

/-- Nothing is held in a field, in a form that is written as null. A reference field takes no plain
values, so a plain null is not one of these forms there. -/
def MappedField.HoldsNull (field : MappedField) (property : Option Property) : Prop :=
  property.all Property.isNull = true ∧ (field.isReference = true → property ≠ some (.value .null))

namespace Catalog

/-- Objects of one class that have the same identity or none. -/
structure SameIdentity (catalog : Catalog) (entity other : Entity) : Prop where
  sameClass : other.className = entity.className
  sameId : ∀ descriptor, catalog.Describes entity.className descriptor →
    descriptor.idValue? other = descriptor.idValue? entity

/-- References that lead to the same object. -/
inductive SameLink (catalog : Catalog) : Reference → Reference → Prop
  | same {ref : Reference} : SameLink catalog ref ref
  | resolved {entity other : Entity} (identity : catalog.SameIdentity entity other) :
      SameLink catalog (.resolved entity) (.resolved other)

/-- Properties that say the same in a field, the embedded objects aside. -/
inductive SaysSame (catalog : Catalog) (field : MappedField) :
    Option Property → Option Property → Prop
  | null {property other : Option Property} (first : field.HoldsNull property)
      (second : field.HoldsNull other) : SaysSame catalog field property other
  | value {v : Value} : SaysSame catalog field (some (.value v)) (some (.value v))
  | embedded {part other : Entity} :
      SaysSame catalog field (some (.embedded part)) (some (.embedded other))
  | embeddedList {parts others : List Entity} (count : parts.length = others.length) :
      SaysSame catalog field (some (.embeddedList parts)) (some (.embeddedList others))
  | reference {ref other : Reference} (link : catalog.SameLink ref other) :
      SaysSame catalog field (some (.reference ref)) (some (.reference other))
  | references {refs others : List Reference} (links : List.Forall₂ catalog.SameLink refs others) :
      SaysSame catalog field (some (.references refs)) (some (.references others))

/-- Entities of one class that say the same in every field of it, the objects embedded there
included, at any depth. -/
inductive Agree (catalog : Catalog) : Entity → Entity → Prop
  | intro {entity other : Entity} (sameClass : other.className = entity.className)
      (fields : ∀ descriptor, catalog.Describes entity.className descriptor →
        ∀ field ∈ descriptor.fields,
          catalog.SaysSame field (entity.get? field.name) (other.get? field.name))
      (parts : ∀ descriptor, catalog.Describes entity.className descriptor →
        ∀ field ∈ descriptor.fields, ∀ property found,
          entity.get? field.name = some property → other.get? field.name = some found →
            ∀ part otherPart, (part, otherPart) ∈ property.parts.zip found.parts →
              Agree catalog part otherPart) :
      Agree catalog entity other

variable {catalog : Catalog} {entity other : Entity} {descriptor : Descriptor}
  {field : MappedField} {property found : Option Property}

/-! ### What does not differ agrees -/

/-- An embedded object is smaller than what it is embedded in. -/
theorem sizeOf_part_lt {name : String} {property : Property} {part : Entity}
    (held : entity.get? name = some property) (member : part ∈ property.parts) :
    sizeOf part < sizeOf entity := by
  obtain ⟨className, properties⟩ := entity
  obtain ⟨before, after, same, -⟩ := List.lookup_eq_some_iff.mp held
  have inEntity : (name, property) ∈ properties := by
    rw [Entity.properties] at same
    simp [same]
  have ofEntry := List.sizeOf_lt_of_mem inEntity
  have ofPart : sizeOf part < sizeOf property := by
    cases property with
    | embedded entity =>
      obtain rfl := List.mem_singleton.mp member
      simp
    | embeddedList entities =>
      have := List.sizeOf_lt_of_mem (show part ∈ entities from member)
      simp only [Property.embeddedList.sizeOf_spec]
      omega
    | _ => simp [Property.parts] at member
  simp only [Prod.mk.sizeOf_spec] at ofEntry
  simp only [Entity.mk.sizeOf_spec]
  omega

theorem SaysSame.refl (field : MappedField) (property : Option Property) :
    catalog.SaysSame field property property := by
  rcases property with _ | property
  · exact .null ⟨rfl, fun _ => nofun⟩ ⟨rfl, fun _ => nofun⟩
  · cases property with
    | null => exact .null ⟨rfl, fun _ => nofun⟩ ⟨rfl, fun _ => nofun⟩
    | value => exact .value
    | embedded => exact .embedded
    | embeddedList => exact .embeddedList rfl
    | reference => exact .reference .same
    | references => exact .references (List.forall₂_same.mpr fun _ _ => .same)

private theorem eq_of_mem_zip_self {α : Type} {items : List α} {a b : α}
    (member : (a, b) ∈ items.zip items) : a = b :=
  (List.forall₂_iff_zip.mp (List.forall₂_same.mpr fun _ _ => rfl : List.Forall₂ Eq items items)).2
    member

theorem Agree.refl (entity : Entity) : catalog.Agree entity entity := by
  induction size : sizeOf entity using Nat.strongRecOn generalizing entity with
  | ind n ih =>
    refine .intro rfl (fun _ _ field _ => .refl field _) ?_
    intro _ _ field _ property found held held' part otherPart member
    obtain rfl := Option.some.inj (held.symm.trans held')
    obtain rfl := eq_of_mem_zip_self member
    exact ih _ (size ▸ sizeOf_part_lt held (List.of_mem_zip member).1) part rfl

/-- It is enough to look at the fields in which the entities differ. -/
theorem Agree.of_differing (sameClass : other.className = entity.className)
    (differing : ∀ descriptor, catalog.Describes entity.className descriptor →
      ∀ field ∈ descriptor.fields, other.get? field.name ≠ entity.get? field.name →
        catalog.SaysSame field (entity.get? field.name) (other.get? field.name) ∧
          ∀ property found, entity.get? field.name = some property →
            other.get? field.name = some found →
              ∀ part otherPart, (part, otherPart) ∈ property.parts.zip found.parts →
                catalog.Agree part otherPart) : catalog.Agree entity other := by
  refine .intro sameClass (fun descriptor described field member => ?_) ?_
  · by_cases same : other.get? field.name = entity.get? field.name
    · exact same ▸ .refl field _
    · exact (differing descriptor described field member same).1
  · intro descriptor described field member property found held held' part otherPart inParts
    by_cases same : other.get? field.name = entity.get? field.name
    · obtain rfl : found = property := Option.some.inj (held'.symm.trans (same.trans held))
      exact eq_of_mem_zip_self inParts ▸ .refl part
    · exact (differing descriptor described field member same).2 property found held held' part
        otherPart inParts

/-- Whatever form nothing is held in, null is written for it. -/
theorem answer_propertyValue_of_holdsNull (null : field.HoldsNull property) :
    answer (catalog.propertyValue field (property.getD .null)) = .ok .null := by
  obtain ⟨isNull, notPlain⟩ := null
  rcases property with _ | property
  · exact answer_propertyValue_null field
  · cases property with
    | null => exact answer_propertyValue_null field
    | value v =>
      obtain rfl := (Value.isNull_iff v).mp isNull
      have noReference : field.isReference = false := by simpa using notPlain
      simp [propertyValue, noReference, encodeProperty, Value.isNull]
    | _ => cases isNull

/-- What is stored for an object is told by its class and its identity. -/
theorem SameIdentity.answer_entityPointer (identity : catalog.SameIdentity entity other)
    (field : MappedField) :
    answer (catalog.entityPointer field other) = answer (catalog.entityPointer field entity) := by
  rw [Catalog.answer_entityPointer, Catalog.answer_entityPointer, identity.sameClass]
  cases described : answer (catalog.describe entity.className) with
  | error error => rfl
  | ok target =>
    simp only [Result.ok_bind, identity.sameId target (answer_describe_eq_ok.mp described)]

theorem SameLink.answer_referencePointer {ref otherRef : Reference}
    (link : catalog.SameLink ref otherRef) (field : MappedField) :
    answer (catalog.referencePointer field otherRef) =
      answer (catalog.referencePointer field ref) := by
  cases link with
  | same => rfl
  | resolved identity => exact identity.answer_entityPointer field

theorem SaysSame.answer_propertyValue (same : catalog.SaysSame field property found)
    (each : ∀ first second, property = some first → found = some second →
      ∀ part otherPart, (part, otherPart) ∈ first.parts.zip second.parts →
        catalog.SameIdentity part otherPart ∧
          answer (catalog.document otherPart) = answer (catalog.document part)) :
    answer (catalog.propertyValue field (found.getD .null)) =
      answer (catalog.propertyValue field (property.getD .null)) := by
  cases same with
  | null first second =>
    rw [answer_propertyValue_of_holdsNull first, answer_propertyValue_of_holdsNull second]
  | value => rfl
  | @embedded part otherPart =>
    obtain ⟨identity, sameDocument⟩ := each _ _ rfl rfl part otherPart (List.mem_singleton_self _)
    simp only [Option.getD_some, propertyValue]
    split
    · have pointed := identity.answer_entityPointer field
      cases multiple : field.isMultiple <;> simp [encodeReference, shapeFault?, multiple, pointed]
    · simp [encodeProperty, answer_encodeEmbedded, sameDocument]
  | @embeddedList parts others count =>
    have pairs : List.Forall₂ (fun part otherPart => catalog.SameIdentity part otherPart ∧
        answer (catalog.document otherPart) = answer (catalog.document part)) parts others :=
      List.forall₂_iff_zip.mpr ⟨count, each _ _ rfl rfl _ _⟩
    simp only [Option.getD_some, propertyValue]
    split
    · have pointed := Steady.answer_mapM_eq_of_forall₂ (steady_entityPointer field)
        (pairs.imp fun _ _ pair => (pair.1.answer_entityPointer field).symm)
      cases multiple : field.isMultiple <;> simp [encodeReference, shapeFault?, multiple, pointed]
    · have steady : ∀ part, catalog.Steady (catalog.encodeEmbedded part) := steady_encodeEmbedded
      have written := Steady.answer_mapM_eq_of_forall₂ steady (pairs.imp fun _ _ pair => by
        rw [answer_encodeEmbedded, answer_encodeEmbedded, pair.2])
      simp [encodeProperty, encodeEmbeddedList_eq, written]
  | reference link =>
    simp only [Option.getD_some, propertyValue]
    split
    · have pointed := link.answer_referencePointer field
      cases multiple : field.isMultiple <;> simp [encodeReference, shapeFault?, multiple, pointed]
    · rfl
  | references links =>
    simp only [Option.getD_some, propertyValue]
    split
    · have pointed := Steady.answer_mapM_eq_of_forall₂ (steady_referencePointer field)
        (links.imp fun _ _ link => (link.answer_referencePointer field).symm)
      cases multiple : field.isMultiple <;> simp [encodeReference, shapeFault?, multiple, pointed]
    · rfl

/-! ### Agreeing entities -/

private theorem filter_asValue?_of_isNull (isNull : property.all Property.isNull = true) :
    (property.bind Property.asValue?).filter (!·.isNull) = none := by
  rcases property with _ | property
  · rfl
  · cases property with
    | null => rfl
    | value v => simpa [Property.asValue?, Property.isNull] using isNull
    | _ => cases isNull

/-- Properties that say the same in the identity field give the same identity. -/
theorem SaysSame.filter_asValue? (same : catalog.SaysSame field property found) :
    (found.bind Property.asValue?).filter (!·.isNull) =
      (property.bind Property.asValue?).filter (!·.isNull) := by
  cases same with
  | null first second =>
    rw [filter_asValue?_of_isNull first.1, filter_asValue?_of_isNull second.1]
  | _ => rfl

theorem Agree.sameIdentity (agree : catalog.Agree entity other) :
    catalog.SameIdentity entity other := by
  cases agree with
  | intro sameClass fields _ =>
    refine ⟨sameClass, fun descriptor described => ?_⟩
    cases isId : descriptor.idField? with
    | none => simp [Descriptor.idValue?, isId]
    | some idOwner =>
      obtain ⟨member, -⟩ := Descriptor.idField?_spec isId
      rw [idValue?_eq isId, idValue?_eq isId]
      exact (fields descriptor described idOwner member).filter_asValue?

/-- Entities that agree are written as the same document, or fail alike. The induction is on how the
entities agree: their embedded objects are written alike, so every field is. -/
theorem Agree.answer_document (agree : catalog.Agree entity other) :
    answer (catalog.document other) = answer (catalog.document entity) := by
  induction agree with
  | @intro entity other sameClass fields parts ih =>
    have identity := Agree.sameIdentity (.intro sameClass fields parts)
    have asked : ∀ object : Entity, answer (catalog.document object) =
        answer (catalog.describe object.className) >>= fun descriptor =>
          answer (catalog.encodeInto descriptor object []) :=
      fun object => (steady_describe _).answer_bind fun _ _ => steady_encodeInto _ _ _
    rw [asked, asked, sameClass]
    cases isClass : answer (catalog.describe entity.className) with
    | error error => rfl
    | ok descriptor =>
      have described := answer_describe_eq_ok.mp isClass
      rw [Result.ok_bind, Result.ok_bind, answer_encodeInto, answer_encodeInto]
      have start : catalog.writeIdentity descriptor other [] =
          catalog.writeIdentity descriptor entity [] := by
        rw [writeIdentity, writeIdentity, identity.sameId descriptor described]
      rw [start]
      -- Both are written field by field, and each field has one entry in both.
      refine Result.foldlM_congr fun current field kept => ?_
      have member := (List.mem_filter.mp kept).1
      have sameValue := (fields descriptor described field member).answer_propertyValue
        fun first second held held' part otherPart pair =>
          ⟨(parts descriptor described field member first second held held' part otherPart
            pair).sameIdentity,
          ih descriptor described field member first second held held' part otherPart pair⟩
      rw [entryOf, entryOf, sameValue]

end Catalog

namespace Samples

end Samples

end DocMapper
