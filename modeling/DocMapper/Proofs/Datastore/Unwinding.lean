import DocMapper.Proofs.Datastore.Restoring

/-!
# What a failing save takes back

A save changes an entity twice before it writes: it gives an identity to an entity without one, and
it counts the version up. If it fails afterwards, it takes back the version but not the identity.
What it puts back is the number that it had read off the version property, or no property at all if
it had not read a number. So a property that is there but holds no number is lost, and nothing else
is, by those saves that get as far as counting.
-/

namespace DocMapper

/-- A save of the entity gives it an identity under this name. -/
def Descriptor.Issues (descriptor : Descriptor) (entity : Entity) (name : String) : Prop :=
  descriptor.idValue? entity = none ∧ ∃ owner, descriptor.idField? = some owner ∧
    owner.type = .scalar .objectId ∧ owner.name = name

/-- A save of the entity counts its version up: the entity has an identity or is given one, and the
store confirms the version under it. -/
structure World.Counts (world : World) (descriptor : Descriptor) (field : MappedField)
    (entity : Entity) : Prop where
  identifiable : descriptor.Identifiable entity
  confirmed : world.store.Confirms descriptor field (world.identityOf descriptor entity)
    (Mapper.carriedVersion field entity)

/-- The property of a field is absent or a number. -/
def Entity.IsCounter (entity : Entity) (field : MappedField) : Prop :=
  entity.get? field.name = none ∨
    ∃ version, entity.get? field.name = some (.value (.integer version))

namespace Mapper

variable {mapper : Mapper} {descriptor : Descriptor} {field : MappedField} {world after : World}
  {entity named left : Entity} {id : Value} {name : String}

/-! ### What is left of an entity -/

/-- What a failing save makes of an entity, by whether it counted the version. -/
inductive Unwound (world : World) (descriptor : Descriptor) (entity : Entity) : Entity → Prop
  | unidentified (unidentifiable : ¬ descriptor.Identifiable entity) :
      Unwound world descriptor entity entity
  | unconfirmed {named : Entity}
      (identified : Identified descriptor entity (world.identityOf descriptor entity) named)
      (unconfirmed : ∀ field, descriptor.versionField? = some field →
        ¬ world.Counts descriptor field entity) : Unwound world descriptor entity named
  | unwritten {named left : Entity}
      (identified : Identified descriptor entity (world.identityOf descriptor entity) named)
      (counts : ∀ field, descriptor.versionField? = some field →
        world.Counts descriptor field entity)
      (back : PutBack descriptor named left) : Unwound world descriptor entity left

theorem Identified.identifiable (identified : Identified descriptor entity id named) :
    descriptor.Identifiable entity := by
  intro unset
  cases identified with
  | own set =>
    rw [unset] at set
    cases set
  | issued _ isId type _ => exact ⟨_, isId, type⟩

/-- Giving an identity leaves every other property. -/
theorem Identified.get?_of_not_issues (identified : Identified descriptor entity id named)
    (other : ¬ descriptor.Issues entity name) : named.get? name = entity.get? name := by
  cases identified with
  | own set => rfl
  | issued unset isId type oid =>
    apply Entity.get?_set_of_ne
    rintro rfl
    exact other ⟨unset, _, isId, type, rfl⟩

/-- The property that gets an identity holds that and nothing else. -/
theorem Identified.get?_of_issues (identified : Identified descriptor entity id named)
    (issues : descriptor.Issues entity name) : named.get? name = some (.value id) := by
  obtain ⟨unset, owner, isOwner, -, rfl⟩ := issues
  cases identified with
  | own set =>
    rw [unset] at set
    cases set
  | issued _ isId type oid =>
    obtain rfl := Option.some.inj (isOwner.symm.trans isId)
    exact Entity.get?_set_self _ _ _

theorem PutBack.className_eq (back : PutBack descriptor entity left) :
    left.className = entity.className := by
  cases back with
  | unversioned => rfl
  | restored => exact className_restoreVersion _ _ _

/-- Putting the version back leaves every other property. -/
theorem PutBack.get?_of_ne (back : PutBack descriptor entity left)
    (apart : ∀ field, descriptor.versionField? = some field → name ≠ field.name) :
    left.get? name = entity.get? name := by
  cases back with
  | unversioned => rfl
  | @restored field version isVersion =>
    have other := apart field isVersion
    cases carried : carriedVersion field entity with
    | none =>
      rw [restoreVersion, Entity.get?_unset_of_ne _ other, Entity.get?_set_of_ne _ other]
    | some n => rw [restoreVersion, Entity.get?_set_of_ne _ other, Entity.get?_set_of_ne _ other]

/-- What is put back is the number that was read, if one was. -/
theorem PutBack.get?_version (back : PutBack descriptor entity left)
    (isVersion : descriptor.versionField? = some field) :
    left.get? field.name = (carriedVersion field entity).map fun n => .value (.integer n) := by
  cases back with
  | unversioned unversioned =>
    rw [isVersion] at unversioned
    cases unversioned
  | @restored field' version isVersion' =>
    obtain rfl := Option.some.inj (isVersion.symm.trans isVersion')
    cases carriedVersion field entity with
    | none => exact Entity.get?_unset_self _ _
    | some n => exact Entity.get?_set_self _ _ _

/-- A number that was read is the whole property, and if none was read, none may be there. -/
theorem isCounter_iff : entity.IsCounter field ↔
    entity.get? field.name = (carriedVersion field entity).map fun n => .value (.integer n) := by
  constructor
  · rintro (absent | ⟨version, held⟩)
    · rw [carriedVersion, Entity.value?, absent]
      rfl
    · rw [held, carriedVersion_eq_some.mpr held]
      rfl
  · intro same
    cases carried : carriedVersion field entity with
    | none => exact .inl (by rw [same, carried]; rfl)
    | some version => exact .inr ⟨version, carriedVersion_eq_some.mp carried⟩

theorem not_issues_version {name : ClassName} (described : mapper.catalog.Describes name descriptor)
    (names : (descriptor.fields.map MappedField.name).Nodup)
    (isVersion : descriptor.versionField? = some field) :
    ¬ descriptor.Issues entity field.name := by
  rintro ⟨-, owner, isOwner, type, same⟩
  obtain ⟨member, marked⟩ := Descriptor.versionField?_spec isVersion
  have ownerMember := (Descriptor.idField?_spec isOwner).1
  rw [List.inj_on_of_nodup_map names ownerMember member same,
    described.type_of_isVersion member marked] at type
  cases type

namespace Unwound

theorem className_eq (unwound : Unwound world descriptor entity left) :
    left.className = entity.className := by
  cases unwound with
  | unidentified => rfl
  | unconfirmed identified => exact identified.className_eq
  | unwritten identified _ back => exact back.className_eq.trans identified.className_eq

/-- Properties that are neither the version nor a new identity are what they were. -/
theorem get?_of_ne (unwound : Unwound world descriptor entity left)
    (apart : ∀ field, descriptor.versionField? = some field → name ≠ field.name)
    (other : ¬ descriptor.Issues entity name) : left.get? name = entity.get? name := by
  cases unwound with
  | unidentified => rfl
  | unconfirmed identified => exact identified.get?_of_not_issues other
  | unwritten identified _ back =>
    exact (back.get?_of_ne apart).trans (identified.get?_of_not_issues other)

theorem get?_of_issues {className : ClassName} (unwound : Unwound world descriptor entity left)
    (described : mapper.catalog.Describes className descriptor)
    (names : (descriptor.fields.map MappedField.name).Nodup)
    (issues : descriptor.Issues entity name) :
    left.get? name = some (.value (.id (world.series.member (world.issued + 1)))) := by
  have isNext : world.identityOf descriptor entity =
      .id (world.series.member (world.issued + 1)) := by
    rw [World.identityOf, issues.1]
    rfl
  have apart : ∀ field, descriptor.versionField? = some field → name ≠ field.name := by
    rintro field isVersion rfl
    exact not_issues_version described names isVersion issues
  rw [← isNext]
  cases unwound with
  | unidentified unidentifiable =>
    obtain ⟨-, owner, isOwner, type, -⟩ := issues
    exact absurd (fun _ => ⟨owner, isOwner, type⟩) unidentifiable
  | unconfirmed identified => exact identified.get?_of_issues issues
  | unwritten identified _ back =>
    exact (back.get?_of_ne apart).trans (identified.get?_of_issues issues)

/-- The version is what it was, unless it was counted and is there without being a number. -/
theorem get?_version_iff (unwound : Unwound world descriptor entity left)
    (described : mapper.catalog.Describes entity.className descriptor)
    (names : (descriptor.fields.map MappedField.name).Nodup)
    (isVersion : descriptor.versionField? = some field) :
    left.get? field.name = entity.get? field.name ↔
      (world.Counts descriptor field entity → entity.IsCounter field) := by
  have other : ¬ descriptor.Issues entity field.name :=
    not_issues_version described names isVersion
  cases unwound with
  | unidentified unidentifiable =>
    exact ⟨fun _ counts => absurd counts.identifiable unidentifiable, fun _ => rfl⟩
  | unconfirmed identified unconfirmed =>
    exact ⟨fun _ counts => absurd counts (unconfirmed field isVersion),
      fun _ => identified.get?_of_not_issues other⟩
  | unwritten identified counts back =>
    rw [back.get?_version isVersion, identified.carriedVersion_eq described names isVersion,
      isCounter_iff]
    exact ⟨fun same _ => same.symm, fun restored => (restored (counts field isVersion)).symm⟩

end Unwound

/-! ### Failing saves -/

namespace Plain

/-- Where writing fails, neither the collections nor the entity have changed. -/
theorem ends_write (plain : mapper.Plain) (sound : world.memory.Sound mapper.catalog) :
    (mapper.write descriptor).Ends (world, entity) (fun _ after => after.2 = entity)
      fun _ after => after.2 = entity ∧
        after.1.store.collections = world.store.collections := by
  obtain ⟨memory, -, ran⟩ := plain.outcome_toDocument sound entity
  rw [write, Run.ends_bind, World.ends_onEntity]
  cases encoded : Catalog.answer (mapper.catalog.document entity) with
  | error error =>
    rw [encoded] at ran
    exact (Run.ends_of_error ran).mpr ⟨rfl, rfl⟩
  | ok doc =>
    rw [encoded] at ran
    rw [Run.ends_of_ok ran, Run.ends_bind, Run.ends_onFirst]
    exact World.ends_save (fun _ _ => rfl) fun _ store unchanged => ⟨rfl, unchanged⟩

/-- A save that fails has written nothing, and has taken the version back. -/
theorem ends_save (plain : mapper.Plain) (sound : world.memory.Sound mapper.catalog)
    (described : mapper.catalog.Describes entity.className descriptor)
    (names : (descriptor.fields.map MappedField.name).Nodup)
    (isEntity : descriptor.isEntity = true) :
    mapper.save.Ends (world, entity) (fun _ _ => True)
      fun _ after => after.1.store.collections = world.store.collections ∧
        Unwound world descriptor entity after.2 := by
  have answered : Catalog.answer (mapper.entityClass entity.className) = .ok descriptor :=
    answer_entityClass_eq_ok.mpr ⟨described, isEntity⟩
  rw [save, Run.ends_bind, Run.ends_get, Run.ends_bind, Run.ends_onFirst, World.ends_onMemory]
  refine ((steady_entityClass mapper _).ends_of_sound sound).mono ?_ ?_
  swap
  · rintro error memory ⟨failed, -⟩
    cases failed.symm.trans answered
  rintro found memory ⟨isFound, sound⟩
  obtain rfl := Except.ok.inj (isFound.symm.trans answered)
  refine (ends_ensureId described sound).bind ?_ ?_
  swap
  · rintro error _ ⟨-, unidentifiable, memory, rfl⟩
    exact ⟨rfl, .unidentified unidentifiable⟩
  rintro _ ⟨first, named⟩ ⟨rfl, identified, sound, sameStore⟩
  -- What confirms the version of the entity with its identity confirms that of the entity.
  have counts : ∀ field, found.versionField? = some field →
      (first.store.Confirms found field (world.identityOf found entity)
        (carriedVersion field named) ↔ world.Counts found field entity) := by
    intro field isVersion
    rw [sameStore, identified.carriedVersion_eq described names isVersion]
    exact ⟨fun confirmed => ⟨identified.identifiable, confirmed⟩, World.Counts.confirmed⟩
  refine (ends_advanceVersion _).bind ?_ ?_
  swap
  · rintro error ⟨second, _⟩ ⟨unchanged, rfl, unconfirmed⟩
    refine ⟨by rw [unchanged, sameStore], .unconfirmed identified fun field isVersion => ?_⟩
    rw [← counts field isVersion]
    exact unconfirmed field isVersion
  rintro restore ⟨second, counted⟩ ⟨⟨advanced, sameMemory, unchanged⟩, back, confirmed⟩
  have describedCounted : mapper.catalog.Describes counted.className found := by
    rw [advanced.className_eq, identified.className_eq]
    exact described
  rw [Run.ends_bind, Run.ends_onError]
  refine (plain.ends_write (sameMemory ▸ sound)).mono ?_ ?_
  · intro doc after same
    rw [plain.dispatch_eq described]
    trivial
  · rintro error ⟨third, _⟩ ⟨rfl, unwritten⟩
    refine ⟨by rw [unwritten, unchanged, sameStore], .unwritten identified ?_ back⟩
    exact fun field isVersion => (counts field isVersion).mp (confirmed field isVersion)

/-- A save that fails leaves the collections as they are, and of the entity it changes no property
but the version and an identity that it has issued. It restores the version as well, and with it all
that the entity had, exactly if it did not get to counting the version, or if the version property
was absent or a number. -/
theorem save_restores_iff (plain : mapper.Plain) (sound : world.memory.Sound mapper.catalog)
    (described : mapper.catalog.Describes entity.className descriptor)
    (names : (descriptor.fields.map MappedField.name).Nodup)
    (isEntity : descriptor.isEntity = true) {error : MapError}
    (failed : mapper.save.outcome (world, entity) = (.error error, (after, left))) :
    (after.store.collections = world.store.collections ∧ left.className = entity.className) ∧
    (∀ name, descriptor.Issues entity name →
      left.get? name = some (.value (.id (world.series.member (world.issued + 1))))) ∧
    (∀ name, ¬ descriptor.Issues entity name →
      (∀ field, descriptor.versionField? = some field → name ≠ field.name) →
        left.get? name = entity.get? name) ∧
    ((∀ name, ¬ descriptor.Issues entity name → left.get? name = entity.get? name) ↔
      ∀ field, descriptor.versionField? = some field →
        world.Counts descriptor field entity → entity.IsCounter field) := by
  obtain ⟨unchanged, unwound⟩ :=
    (Run.ends_of_error failed).mp (plain.ends_save sound described names isEntity)
  refine ⟨⟨unchanged, unwound.className_eq⟩,
    fun name issues => unwound.get?_of_issues described names issues,
    fun name other apart => unwound.get?_of_ne apart other, ?_⟩
  constructor
  · intro restored field isVersion
    apply (unwound.get?_version_iff described names isVersion).mp
    exact restored field.name (not_issues_version described names isVersion)
  · intro counters name other
    by_cases apart : ∀ field, descriptor.versionField? = some field → name ≠ field.name
    · exact unwound.get?_of_ne apart other
    · push Not at apart
      obtain ⟨field, isVersion, rfl⟩ := apart
      exact (unwound.get?_version_iff described names isVersion).mpr (counters field isVersion)

end Plain

end Mapper

namespace Samples

/-- A book with a number for a title, which cannot be written. -/
def misprint (version : Property) : Entity :=
  .ofProperties book.name
    [("id", .value (.integer 1)), ("title", .value (.integer 5)), ("version", version)]

theorem get?_misprint (version : Property) :
    (misprint version).get? "version" = some version :=
  Entity.get?_set_self _ _ _

def thirdEdition : Collections :=
  (Collections.serve [] (.save "books" [("_id", .integer 1), ("version", .integer 3)])).2

/-- The version of a misprint of the third edition is counted up, and put back. -/
theorem save_restores_iff_misprint :
    let mapper : Mapper := { catalog := { registry := library } }
    let world : World := { store := { collections := thirdEdition } }
    let entity := misprint (.value (.integer 3))
    let ended := mapper.save.outcome (world, entity)
    ended.1.toOption = none ∧ ended.2.1.store.collections = thirdEdition ∧
      ∀ name, ended.2.2.get? name = entity.get? name := by
  intro mapper world entity ended
  have described : mapper.catalog.Describes entity.className
      (mapper.catalog.assemble book none [] []) := describes_book
  have isNamed : (mapper.catalog.assemble book none [] []).versionField?.map MappedField.name =
      some "version" := by decide +kernel
  have fails : ended.1.toOption = none := by decide +kernel
  refine ⟨fails, ?_⟩
  rcases ran : mapper.save.outcome (world, entity) with ⟨error | key, after, left⟩
  · obtain ⟨⟨unchanged, -⟩, -, -, restores⟩ := Mapper.Plain.save_restores_iff (plain_library {})
      (Memory.sound_empty _) described (by decide) rfl ran
    have isEnded : ended.2 = (after, left) := congrArg Prod.snd ran
    rw [isEnded]
    refine ⟨unchanged, fun name => restores.mpr (fun field isVersion _ => ?_) name ?_⟩
    · rw [isVersion] at isNamed
      rw [Entity.IsCounter, Option.some.inj isNamed]
      exact .inr ⟨3, get?_misprint _⟩
    · rintro ⟨unset, -⟩
      revert unset
      decide +kernel
  · rw [show ended = _ from ran] at fails
    cases fails

/-- The version of a misprint is text. A save that fails removes it. -/
theorem failed_save_loses_version :
    let mapper : Mapper := { catalog := { registry := library } }
    let descriptor := mapper.catalog.assemble book none [] []
    let entity := misprint (.value (.text "draft"))
    let ended := mapper.save.outcome ({}, entity)
    (mapper.Plain ∧ mapper.catalog.Describes entity.className descriptor ∧
      (descriptor.fields.map MappedField.name).Nodup ∧ descriptor.isEntity = true) ∧
    ended.1.toOption = none ∧ entity.value? "version" = some (.text "draft") ∧
      (ended.2.2.get? "version").isNone = true :=
  ⟨⟨plain_library {}, describes_book, by decide, rfl⟩, by decide +kernel, by decide +kernel,
    by decide +kernel⟩

end Samples

end DocMapper
