import DocMapper.Hook.Dispatch
import DocMapper.Mapping.Decode
import DocMapper.Mapping.Encode

/-!
# Conversion with hooks

Turning an entity into a document and back, with the hooks of its class on both sides of the work.
-/

namespace DocMapper.Mapper

/-- The entity at hand as a document. Its hooks may change it. -/
def toDocument (mapper : Mapper) : EntityM Document := do
  let descriptor ← (mapper.catalog.describe (← get).2.className).onFirst
  let doc ← mapper.dispatch descriptor .prePersist []
  let doc ← (mapper.catalog.encodeInto descriptor (← get).2 doc).onFirst
  mapper.dispatch descriptor .preSave doc

/-- Reads a document into the entity at hand, and gives the document that the first hooks made of
it. -/
def load (mapper : Mapper) (descriptor : Descriptor) (doc : Document) : EntityM Document := do
  let doc ← mapper.dispatch descriptor .preLoad doc
  let entity ← (mapper.catalog.decodeInto descriptor (← get).2 doc).onFirst
  modify fun state => (state.1, entity)
  return doc

/-- A document as an object of a class, with its references unresolved. -/
def fromDocument (mapper : Mapper) (requested : ClassName) (doc : Document) : MapM Entity := do
  let descriptor ← mapper.catalog.concreteClass requested doc
  let (_, entity) ← Run.withCompanion (Entity.empty descriptor.className) do
    let doc ← mapper.load descriptor doc
    mapper.dispatch descriptor .postLoad doc
  return entity

end DocMapper.Mapper
