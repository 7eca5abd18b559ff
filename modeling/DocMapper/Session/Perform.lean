import DocMapper.Session.Basic

/-!
# Performing steps

Every step in terms of the operations of the library. `Session.perform` is the whole of a session:
from a state and a step it gives the report and the next state.
-/

namespace DocMapper

def TypeStep.perform : TypeStep → SessionM Reply
  | .register added => do
    modify fun session => { session with registry := session.registry.register added }
    return .number (← get).registry.size
  | .registry names => do
    let registry := (← get).registry
    return .registry registry (names.map registry.contains)
  | .schema name =>
    return .schema (← Session.onCatalog fun catalog => Run.ofExcept (catalog.schemaOf name))
  | .describe name => return .descriptor (← Session.onCatalog (·.describe name))
  | .described => do
    let names := (← get).world.memory.descriptors.map Prod.fst
    return .names (names.mergeSort fun a b => (compare a b).isLE)
  | .isDescribed name => return .flag ((← get).world.memory.descriptor? name).isSome
  | .collection name => return .text (← Session.onCatalog (·.collectionName name))
  | .assignable name target => do
    let descriptor ← Session.onCatalog (·.describe name)
    return .assignability (descriptor.isAssignableTo target) (descriptor.isSubType target)
  | .annotations name kind => do
    let descriptor ← Session.onCatalog (·.describe name)
    return .annotations (descriptor.schema.annotationsOf kind)
  | .fieldsWith name kind => do
    let descriptor ← Session.onCatalog (·.describe name)
    return .annotatedFields
      ((descriptor.fieldsWith kind).map fun field => (field.name, field.annotation? kind))
  | .findField name field => do
    let descriptor ← Session.onCatalog (·.describe name)
    return .fields (descriptor.storedField? field) (descriptor.field? field)
  | .remap options plans shareListeners => do
    modify (·.remap options plans shareListeners)
    return .number plans.length
  | .listeners names => do
    let listeners := (← get).world.memory.listeners
    return .listeners listeners.length (names.map fun name => listeners.lookup name)

def EntityStep.perform : EntityStep → SessionM Reply
  | .place slot entity => do
    modify (·.keep (.slot slot) entity)
    return .done
  | .set subject field property => do
    let entity ← Session.take subject
    modify (·.keep subject (entity.set field property))
    return .optionalProperty (entity.get? field)
  | .unset subject field => do
    let entity ← Session.take subject
    modify (·.keep subject (entity.unset field))
    return .optionalProperty (entity.get? field)
  | .edit subject field property => do
    let entity ← Session.take subject
    let present := (entity.get? field).isSome
    if present then
      modify (·.keep subject (entity.set field property))
    return .flag present
  | .read subject field => return .reading ((← Session.read subject).get? field)
  | .copy subject into => do
    let entity ← Session.read subject
    Session.putInto into entity
    return .entity entity
  | .idOf subject => do
    let entity ← Session.read subject
    return .optionalValue (← Session.onCatalog (·.idOf entity))
  | .keyOf subject => do
    let entity ← Session.read subject
    return .key (← Session.onCatalog (·.keyOf entity))
  | .encode subject =>
    return .document (← Session.onEntity subject fun mapper => World.onEntity mapper.toDocument)
  | .decode name document into => do
    let entity ← Session.onWorld fun mapper => World.onMemory (mapper.fromDocument name document)
    Session.putInto into entity
    return .entity entity
  | .decodeRaw name document =>
    return .entity (← Session.onCatalog (·.decodeDocument name document))
  | .dispatch subject event document =>
    return .document (← Session.onEntity subject fun mapper => World.onEntity do
      let descriptor ← (mapper.catalog.describe (← get).2.className).onFirst
      mapper.dispatch descriptor event document)

def ReferenceStep.perform : ReferenceStep → SessionM Reply
  | .encode name declared property => do
    let (_, field) ← Session.field name declared
    return .value (← Session.onCatalog (·.encodeReference field property))
  | .decodeKeys name declared stored => do
    let (_, field) ← Session.field name declared
    return .property (← Session.onCatalog (·.decodeKeys field stored))
  | .resolve name declared stored among => do
    let (_, field) ← Session.field name declared
    return .property (← Session.onCache among (·.resolve field stored))
  | .resolveField subject declared among => do
    let entity ← Session.take subject
    let resolved ← Session.onCache among (·.resolveField entity declared)
    modify (·.keep subject resolved)
    return .done
  | .cache name note places => do
    let known := ((← get).caches.lookup name).getD []
    let known := match note with
      | some (place, result) => known.insert place result
      | none => known
    modify fun session => { session with caches := Assoc.insert name known session.caches }
    return .cache known.size (places.map known.get?)

def QueryStep.perform : QueryStep → SessionM Reply
  | .validate name criteria => return .failures (← Session.onCatalog (·.validate name criteria))
  | .compatible name declared type values => do
    let (owner, field) ← Session.field name declared
    let (answers, found) ← Session.onCatalog fun catalog =>
      values.foldlM (fun (answers, found) (operator, value) => do
        let (answer, found) ←
          catalog.isCompatible owner field (type.getD field.type) operator value found
        return (answers ++ [answer], found)) (([] : List Bool), ([] : List QueryFailure))
    return .compatibility answers found

def StoreStep.perform : StoreStep → SessionM Reply
  | .save subject => return .key (← Session.onEntity subject Mapper.save)
  | .get name id into => do
    let found ← Session.onWorld (·.get name id)
    found.forM (Session.putInto into)
    return .optionalEntity found
  | .getByKey key into => do
    let found ← Session.onWorld (·.getByKey key)
    found.forM (Session.putInto into)
    return .optionalEntity found
  | .find name filter => return .entities (← Session.onWorld (·.find name filter))
  | .delete name id => return .flag (← Session.onWorld (·.delete name id))
  | .count name => return .number (← Session.onWorld (·.count name))
  | .saveDocument collection document => do
    Session.onWorld fun _ => World.onStore (Store.save collection document)
    return .done
  | .findDocuments collection filter =>
    return .documents (← Session.onWorld fun _ => World.onStore (Store.find collection filter))
  | .failNext reason => do
    modify (·.failNext reason)
    return .done

def Step.perform : Step → SessionM Reply
  | .onTypes step => step.perform
  | .onEntities step => step.perform
  | .onReferences step => step.perform
  | .onQueries step => step.perform
  | .onStore step => step.perform

namespace Session

def perform (session : Session) (step : Step) : Report × Session :=
  let (result, session) := step.perform.outcome session.begin
  (session.report result, session)

def performAll (session : Session) : List Step → List Report × Session
  | [] => ([], session)
  | step :: rest =>
    let (report, session) := session.perform step
    let (reports, session) := session.performAll rest
    (report :: reports, session)

end Session

end DocMapper
