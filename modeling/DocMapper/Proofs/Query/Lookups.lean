import DocMapper.Datastore.Basic
import DocMapper.Proofs.Conversion.Encoded
import DocMapper.Proofs.Discovery.Hierarchy
import DocMapper.Proofs.Query.Paths

/-!
# What the names of fields mean

A field has two names: the one it is stored under and the one it is declared with. The mapping rules
keep stored names apart, so each means one field. Declared names are nobody's care: a class that
declares the name of an inherited field again has both fields, the name means the inherited one, and
both read the same property of an entity. In a query a name is a stored name before it is a declared
one, and the names on a path are told apart by dots, so a name with a dot in it is not found there.

The main result says which fields names mean, alone and on the paths of queries, and that without
repeated declared names reading, writing and resolving by name agree on the field.
-/

namespace DocMapper

namespace Descriptor

variable {descriptor : Descriptor} {field : MappedField} {requested : String}

/-- A declared name means the first field that is declared with it. -/
theorem field?_eq_some_iff : descriptor.field? requested = some field ↔
    field.name = requested ∧ ∃ before after, descriptor.fields = before ++ field :: after ∧
      ∀ other ∈ before, other.name ≠ requested := by
  simp [field?, List.find?_eq_some_iff_append]

theorem exists_field?_eq (member : field ∈ descriptor.fields) :
    ∃ first, descriptor.field? field.name = some first := by
  refine Option.isSome_iff_exists.mp (List.find?_isSome.mpr ⟨field, member, ?_⟩)
  simp

/-- Fields are what their declared names mean exactly if these are not repeated. -/
theorem field?_name_iff_nodup (distinct : descriptor.fields.Nodup) :
    (∀ field ∈ descriptor.fields, descriptor.field? field.name = some field) ↔
      (descriptor.fields.map MappedField.name).Nodup := by
  refine ⟨fun means => distinct.map_on fun field member other member' same => ?_,
    fun names field member => field?_eq names member⟩
  exact Option.some.inj ((means field member).symm.trans (same ▸ means other member'))

/-- Queries can name the field as it is declared: it is stored under this name, or no field is and
the name means it. -/
def GoesByName (descriptor : Descriptor) (field : MappedField) : Prop :=
  field.storedName = field.name ∨
    (∀ other ∈ descriptor.fields, other.storedName ≠ field.name) ∧
      descriptor.field? field.name = some field

end Descriptor

/-- Two criteria whose paths begin with the one and with the other name, and which are the same
otherwise. -/
structure Criterion.Renames (name other : String) (criterion renamed : Criterion) : Prop where
  operator : renamed.operator = criterion.operator
  value : renamed.value = criterion.value
  path : criterion.path = name ∧ renamed.path = other ∨
    ∃ rest, criterion.path = name ++ "." ++ rest ∧ renamed.path = other ++ "." ++ rest

theorem Criterion.names_eq_singleton {criterion : Criterion} {name : String}
    (plain : '.' ∉ name.toList) (path : criterion.path = name) : criterion.names = [name] :=
  Criterion.names_eq (by simp) (by simpa using plain) (by simpa using path)

theorem Criterion.names_eq_cons {criterion : Criterion} {name rest : String}
    (plain : '.' ∉ name.toList) (path : criterion.path = name ++ "." ++ rest) :
    criterion.names = name :: (rest.toList.splitOn '.').map String.ofList :=
  Criterion.names_append (List.cons_ne_nil name []) (by simpa using plain) (by simpa using path)

/-- Names without dots are the first on the paths that begin with them. -/
theorem Criterion.Renames.exists_names {name other : String} {criterion renamed : Criterion}
    (renames : Renames name other criterion renamed) (plain : '.' ∉ name.toList)
    (plain' : '.' ∉ other.toList) :
    ∃ more, criterion.names = name :: more ∧ renamed.names = other :: more := by
  rcases renames.path with ⟨path, path'⟩ | ⟨rest, path, path'⟩
  · exact ⟨[], names_eq_singleton plain path, names_eq_singleton plain' path'⟩
  · exact ⟨_, names_eq_cons plain path, names_eq_cons plain' path'⟩

namespace Catalog

variable {catalog : Catalog} {name : ClassName} {descriptor : Descriptor} {field : MappedField}

/-! ### Names in queries -/

/-- What a query takes the declared name of a field for. -/
theorem Describes.storedField?_or_field?_iff (described : catalog.Describes name descriptor)
    (member : field ∈ descriptor.fields) :
    (descriptor.storedField? field.name <|> descriptor.field? field.name) = some field ↔
      descriptor.GoesByName field := by
  rw [Descriptor.GoesByName]
  cases stored : descriptor.storedField? field.name with
  | none =>
    have free : ∀ other ∈ descriptor.fields, other.storedName ≠ field.name := by
      simpa using List.find?_eq_none.mp stored
    have notOwn : ¬ field.storedName = field.name := free field member
    rw [or_iff_right notOwn, and_iff_right free]
    rfl
  | some other =>
    have member' := List.mem_of_find?_eq_some stored
    have same : other.storedName = field.name := by simpa using List.find?_some stored
    have taken : ¬ ∀ other ∈ descriptor.fields, other.storedName ≠ field.name :=
      fun free => free other member' same
    simp only [taken, false_and, or_false]
    constructor
    · rintro ⟨⟩
      exact same
    · intro own
      rw [described.eq_of_storedName member' member (same.trans own.symm)]
      rfl

theorem outcome_fieldAt_singleton (owner : Descriptor) (requested : String) (memory : Memory) :
    (catalog.fieldAt owner [requested]).outcome memory =
      (.ok ((owner.storedField? requested <|> owner.field? requested).map (owner, ·)), memory) := by
  rw [fieldAt]
  cases owner.storedField? requested <|> owner.field? requested <;> rfl

/-- A query by the declared name of a field is about this field exactly if that goes by its
name. -/
theorem Describes.leads_by_name_iff (described : catalog.Describes name descriptor)
    (member : field ∈ descriptor.fields) (plain : '.' ∉ field.name.toList) :
    (∀ criterion : Criterion, criterion.path = field.name → ∀ memory : Memory,
      memory.Sound catalog →
        ((catalog.fieldAt descriptor criterion.names).outcome memory).1 =
          .ok (some (descriptor, field))) ↔ descriptor.GoesByName field := by
  rw [← described.storedField?_or_field?_iff member]
  constructor
  · intro leads
    have found := leads ⟨field.name, .equal, .value .null⟩ rfl {} (Memory.sound_empty catalog)
    rw [Criterion.names_eq_singleton plain rfl, outcome_fieldAt_singleton] at found
    simpa using found
  · intro means criterion path memory _
    rw [Criterion.names_eq_singleton plain path, outcome_fieldAt_singleton, means]
    rfl

/-- Such a query has the failures that the check of the field finds. -/
theorem Describes.validate_by_name (described : catalog.Describes name descriptor)
    (member : field ∈ descriptor.fields) (plain : '.' ∉ field.name.toList)
    (goes : descriptor.GoesByName field) {criterion : Criterion}
    (path : criterion.path = field.name) {memory : Memory} (sound : memory.Sound catalog) :
    ∃ accepted found,
      (((criterion.check field).run catalog descriptor.className []).outcome memory).1 =
        .ok (accepted, found) ∧
      ((catalog.validate name [criterion]).outcome memory).1 = .ok found := by
  have resolved := (described.leads_by_name_iff member plain).mpr goes criterion path {}
    (Memory.sound_empty catalog)
  obtain ⟨accepted, found, checked, validated⟩ := answer_validate_of_field described resolved
  exact ⟨accepted, found, ((steady_run _ _ _).result_eq sound).trans checked,
    ((steady_validate name _).result_eq sound).trans validated⟩

/-- A path may begin with the declared name of a field in place of its stored one exactly if the
field goes by its name. -/
theorem Describes.fieldAt_renamed_iff (described : catalog.Describes name descriptor)
    (member : field ∈ descriptor.fields) (plain : '.' ∉ field.name.toList)
    (plain' : '.' ∉ field.storedName.toList) :
    (∀ criterion renamed, Criterion.Renames field.storedName field.name criterion renamed →
      catalog.fieldAt descriptor renamed.names = catalog.fieldAt descriptor criterion.names) ↔
      descriptor.GoesByName field := by
  have byStored : (descriptor.storedField? field.storedName <|>
      descriptor.field? field.storedName) = some field := by
    rw [described.storedField?_eq member]
    rfl
  rw [← described.storedField?_or_field?_iff member]
  constructor
  · intro same
    have same := congrArg answer (same ⟨field.storedName, .equal, .value .null⟩
      ⟨field.name, .equal, .value .null⟩ ⟨rfl, rfl, .inl ⟨rfl, rfl⟩⟩)
    rw [Criterion.names_eq_singleton plain rfl, Criterion.names_eq_singleton plain' rfl,
      answer, answer, outcome_fieldAt_singleton, outcome_fieldAt_singleton, byStored] at same
    simpa using same
  · intro byName criterion renamed renames
    obtain ⟨more, names, names'⟩ := renames.exists_names plain' plain
    simp only [names, names', fieldAt, byStored, byName]

/-! ### Names of properties -/

def written (catalog : Catalog) (entity : Entity) (field : MappedField) : MapM Value :=
  catalog.fieldValue entity (catalog.propertyEncoders entity.properties) field

/-- A property is written into no field that is declared with another name. -/
theorem written_set_of_ne {entity : Entity} {property : Property} {declared : String}
    (differs : field.name ≠ declared) :
    catalog.written (entity.set declared property) field = catalog.written entity field := by
  rw [written, written, fieldValue_propertyEncoders, fieldValue_propertyEncoders,
    Entity.get?_set_of_ne _ differs]

end Catalog

/-! ### Names in requests -/

namespace Mapper

variable {mapper : Mapper}

/-- Resolves what an entity holds in a field. -/
def resolveThrough (mapper : Mapper) (entity : Entity) (field : MappedField) : ResolveM Entity := do
  let stored ← match entity.get? field.name with
    | some property => (World.onMemory (mapper.catalog.encodeReference field property)).onFirst
    | none => pure .null
  return entity.set field.name (← mapper.resolve field stored)

/-- A request to resolve by name works on the field that the name means. -/
theorem outcome_resolveField {entity : Entity} {descriptor : Descriptor} {field : MappedField}
    (described : mapper.catalog.Describes entity.className descriptor)
    (means : descriptor.field? field.name = some field) {state : World × EntityCache}
    (sound : state.1.memory.Sound mapper.catalog) :
    (mapper.resolveField entity field.name).outcome state =
      ((World.onMemory (mapper.catalog.describe entity.className)).onFirst >>= fun _ =>
        if field.isReference then mapper.resolveThrough entity field
        else throw (.mapping (.notAReference entity.className field.name))).outcome state := by
  obtain ⟨memory, -, ran⟩ := (Catalog.steady_describe entity.className).outcome sound
  rw [described.answer_eq] at ran
  have asked : (World.onMemory (mapper.catalog.describe entity.className)).onFirst.outcome state =
      (.ok descriptor, ({ state.1 with memory }, state.2)) := by
    simp [World.onMemory, ran]
  rw [resolveField, Run.outcome_bind_of_ok asked, Run.outcome_bind_of_ok asked, means,
    Option.filter_some]
  cases field.isReference <;> rfl

/-- Whatever a mapper was asked for before: in a class that it accepts, a stored name means the
field that is stored under it. A declared name means the first field that is declared with it, and
this is a field of the superclass where it means one there; each field is what its declared name
means exactly if no name is declared twice. Then a property is written into the field of its name
alone, and a request to resolve by name works on this field. A query by a declared name without dots
is about the field exactly if that goes by its name, and then has the failures that the check of the
field finds; if the stored name has no dots either, this is also when any path can begin with the
one name in place of the other. -/
theorem names_mean (mapper : Mapper) (earlier : List ClassName) (name : ClassName)
    {descriptor : Descriptor} (accepted : ((mapper.catalog.describe name).outcome
      (mapper.catalog.asked earlier)).1 = .ok descriptor) :
    (∀ field ∈ descriptor.fields,
      descriptor.storedField? field.storedName = some field ∧
      (∃ first before after, descriptor.field? field.name = some first ∧
        first.name = field.name ∧ descriptor.fields = before ++ first :: after ∧
          ∀ other ∈ before, other.name ≠ field.name) ∧
      ('.' ∉ field.name.toList →
        ((∀ criterion : Criterion, criterion.path = field.name → ∀ memory : Memory,
          memory.Sound mapper.catalog →
            ((mapper.catalog.fieldAt descriptor criterion.names).outcome memory).1 =
              .ok (some (descriptor, field))) ↔ descriptor.GoesByName field) ∧
        (descriptor.GoesByName field → ∀ criterion : Criterion, criterion.path = field.name →
          ∀ memory : Memory, memory.Sound mapper.catalog → ∃ accepted found,
            (((criterion.check field).run mapper.catalog descriptor.className []).outcome
              memory).1 = .ok (accepted, found) ∧
            ((mapper.catalog.validate name [criterion]).outcome memory).1 = .ok found) ∧
        ('.' ∉ field.storedName.toList →
          ((∀ criterion renamed,
            Criterion.Renames field.storedName field.name criterion renamed →
              mapper.catalog.fieldAt descriptor renamed.names =
                mapper.catalog.fieldAt descriptor criterion.names) ↔
            descriptor.GoesByName field)))) ∧
    (∀ parent requested field, descriptor.superclass = some parent →
      parent.field? requested = some field → descriptor.field? requested = some field) ∧
    ((∀ field ∈ descriptor.fields, descriptor.field? field.name = some field) ↔
      (descriptor.fields.map MappedField.name).Nodup) ∧
    ((descriptor.fields.map MappedField.name).Nodup → ∀ field ∈ descriptor.fields, ∀ entity,
      (∀ property, ∀ other ∈ descriptor.fields, other ≠ field →
        mapper.catalog.written (entity.set field.name property) other =
          mapper.catalog.written entity other) ∧
      (entity.className = name → ∀ state : World × EntityCache,
        state.1.memory.Sound mapper.catalog →
          (mapper.resolveField entity field.name).outcome state =
            ((World.onMemory (mapper.catalog.describe name)).onFirst >>= fun _ =>
              if field.isReference then mapper.resolveThrough entity field
              else throw (.mapping (.notAReference name field.name))).outcome state)) := by
  have described := Catalog.describe_after_asked_eq_ok.mp accepted
  refine ⟨fun field member => ⟨described.storedField?_eq member, ?_, fun plain =>
      ⟨described.leads_by_name_iff member plain, fun goes criterion path memory sound =>
        described.validate_by_name member plain goes path sound,
        described.fieldAt_renamed_iff member plain⟩⟩,
    fun parent requested field isParent => described.find?_inherited isParent,
    Descriptor.field?_name_iff_nodup (.of_map _ described.nodup_storedNames),
    fun names field member entity => ⟨fun property other member' differs => ?_, ?_⟩⟩
  · obtain ⟨first, means⟩ := Descriptor.exists_field?_eq member
    obtain ⟨same, before, after, split, unnamed⟩ := Descriptor.field?_eq_some_iff.mp means
    exact ⟨first, before, after, means, same, split, unnamed⟩
  · refine Catalog.written_set_of_ne fun same => differs ?_
    exact List.inj_on_of_nodup_map names member' member same
  · rintro rfl state sound
    exact outcome_resolveField described (Descriptor.field?_eq names member) sound

end Mapper

namespace Samples

/-- The fields of books are what their names mean, stored and declared, and queries can use either:
the identity is stored under another name, but no field is stored under the declared one. -/
theorem names_mean_book :
    let mapper : Mapper := { catalog := { registry := library } }
    ∃ descriptor, ((mapper.catalog.describe book.name).outcome
        (mapper.catalog.asked [author.name])).1 = .ok descriptor ∧
      descriptor.fields.length = 6 ∧ ∀ field ∈ descriptor.fields,
        descriptor.storedField? field.storedName = some field ∧
          descriptor.field? field.name = some field ∧ '.' ∉ field.name.toList ∧
          ((mapper.catalog.fieldAt descriptor
            (Criterion.names { path := field.name, value := .value (.integer 1) })).outcome {}).1 =
              .ok (some (descriptor, field)) := by
  intro mapper
  have names : ((mapper.catalog.describe book.name).outcome
      (mapper.catalog.asked [author.name])).1.toOption.map
        (fun descriptor => descriptor.fields.map fun field => (field.name, field.storedName)) =
      some [("id", "_id"), ("version", "version"), ("title", "title"), ("editor", "editor"),
        ("authors", "authors"), ("reviewers", "reviewers")] := by decide +kernel
  obtain ⟨descriptor, found, names⟩ := Option.map_eq_some_iff.mp names
  have accepted := Result.eq_ok_of_toOption found
  obtain ⟨stored, -, declared, -⟩ := Mapper.names_mean mapper [author.name] book.name accepted
  have declaredNames : descriptor.fields.map MappedField.name =
      ["id", "version", "title", "editor", "authors", "reviewers"] := by
    simpa [Function.comp_def] using congrArg (List.map Prod.fst) names
  have named : ∀ field ∈ descriptor.fields, (field.name = "id" ∨ field.storedName = field.name) ∧
      field.storedName ≠ "id" ∧ '.' ∉ field.name.toList := by
    rw [← List.forall_mem_map (f := fun field : MappedField => (field.name, field.storedName))
      (P := fun pair => (pair.1 = "id" ∨ pair.2 = pair.1) ∧ pair.2 ≠ "id" ∧
        '.' ∉ pair.1.toList), names]
    decide
  refine ⟨descriptor, accepted, by simpa using congrArg List.length names, fun field member => ?_⟩
  obtain ⟨isIdOrSame, -, plain⟩ := named field member
  obtain ⟨isStored, -, byName⟩ := stored field member
  have means := declared.mpr (declaredNames ▸ by decide) field member
  have goes : descriptor.GoesByName field := by
    rcases isIdOrSame with isId | same
    · exact .inr ⟨fun other member' => isId ▸ (named other member').2.1, means⟩
    · exact .inl same
  exact ⟨isStored, means, plain, (byName plain).1.mpr goes _ rfl {} (Memory.sound_empty _)⟩

def crate : TypeSchema :=
  entity "Crate" "crates" [marked "id" integer .id, plain "label" text]

def fragile : TypeSchema where
  name := ⟨"Fragile"⟩
  superclass := some crate.name
  fields := [marked "label" integer (.property "warning")]

/-- A trade whose sides are stored under the names of each other. -/
def trade : TypeSchema :=
  entity "Trade" "trades" [
    marked "id" integer .id,
    marked "give" text (.property "take"),
    marked "take" integer (.property "give")]

def packet : TypeSchema :=
  entity "Packet" "packets" [marked "id" integer .id, plain "side.note" text]

def goods : Catalog where
  registry := .ofTypes [crate, fragile, trade, packet]

/-- A fragile crate has two fields of one name, and this means the label of any crate. The sides of
a trade have names of their own, and yet a query for the one side is one for the other. The note on
the side of a packet is what its name means, and yet a query by this name does not find it. -/
theorem goods_confused :
    (∃ descriptor field, ((goods.describe fragile.name).outcome {}).1 = .ok descriptor ∧
      field ∈ descriptor.fields ∧ ∃ other, descriptor.field? field.name = some other ∧
        other.storedName ≠ field.storedName) ∧
    (∃ descriptor field, ((goods.describe trade.name).outcome {}).1 = .ok descriptor ∧
      (descriptor.fields.map MappedField.name).Nodup ∧ field ∈ descriptor.fields ∧
        ∃ (criterion : Criterion) (other : MappedField), criterion.path = field.name ∧
          ((goods.fieldAt descriptor criterion.names).outcome {}).1 =
            .ok (some (descriptor, other)) ∧ other ≠ field) ∧
    (∃ descriptor field, ((goods.describe packet.name).outcome {}).1 = .ok descriptor ∧
      field ∈ descriptor.fields ∧ descriptor.field? field.name = some field ∧
        ∃ criterion : Criterion, criterion.path = field.name ∧
          ((goods.validate packet.name [criterion]).outcome {}).1 =
            .ok [criterion.notFound packet.name]) := by
  let label : MappedField := .ofSchema fragile.name (marked "label" integer (.property "warning"))
  let give : MappedField := .ofSchema trade.name (marked "give" text (.property "take"))
  let take : MappedField := .ofSchema trade.name (marked "take" integer (.property "give"))
  let note : MappedField := .ofSchema packet.name (plain "side.note" text)
  refine ⟨?fragile, ?trade, ?packet⟩
  case fragile =>
    have fields : ((goods.describe fragile.name).outcome {}).1.toOption.map Descriptor.fields =
        some (crate.fields.map (.ofSchema crate.name) ++ [label]) := by decide +kernel
    obtain ⟨descriptor, found, fields⟩ := Option.map_eq_some_iff.mp fields
    refine ⟨descriptor, label, Result.eq_ok_of_toOption found, by simp [fields],
      .ofSchema crate.name (plain "label" text), ?_, by decide⟩
    rw [Descriptor.field?, fields]
    rfl
  case trade =>
    have fields : ((goods.describe trade.name).outcome {}).1.toOption.map Descriptor.fields =
        some [.ofSchema trade.name (marked "id" integer .id), give, take] := by decide +kernel
    obtain ⟨descriptor, found, fields⟩ := Option.map_eq_some_iff.mp fields
    have stored : descriptor.storedField? take.name = some give := by
      rw [Descriptor.storedField?, fields]
      rfl
    refine ⟨descriptor, take, Result.eq_ok_of_toOption found, by rw [fields]; decide,
      by simp [fields], { path := "take", value := .value (.integer 5) }, give, rfl, ?_, by decide⟩
    have undotted : '.' ∉ take.name.toList := by decide
    rw [Criterion.names_eq_singleton undotted rfl, Catalog.outcome_fieldAt_singleton, stored]
    rfl
  case packet =>
    have fields : ((goods.describe packet.name).outcome {}).1.toOption.map Descriptor.fields =
        some [.ofSchema packet.name (marked "id" integer .id), note] := by decide +kernel
    obtain ⟨descriptor, found, fields⟩ := Option.map_eq_some_iff.mp fields
    refine ⟨descriptor, note, Result.eq_ok_of_toOption found, by simp [fields], ?_,
      { path := "side.note", value := .value (.text "scenic") }, rfl,
      Result.eq_ok_of_toOption (by decide +kernel)⟩
    rw [Descriptor.field?, fields]
    rfl

end Samples

end DocMapper
