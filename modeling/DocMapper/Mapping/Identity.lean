import DocMapper.Mapping.Catalog

/-!
# Identity of entities

The identity of an entity is the plain value of its identity field. A null value counts as none.
-/

namespace DocMapper

namespace Descriptor

/-- The identity that an entity of the class carries, if it has one. -/
def idValue? (descriptor : Descriptor) (entity : Entity) : Option Value := do
  let field ← descriptor.idField?
  (entity.value? field.name).filter (!·.isNull)

end Descriptor

namespace Catalog

def idOf (catalog : Catalog) (entity : Entity) : MapM (Option Value) := do
  let descriptor ← catalog.describe entity.className
  if descriptor.idField?.isNone then
    throw (.mapping (.noIdField entity.className))
  return descriptor.idValue? entity

def keyOf (catalog : Catalog) (entity : Entity) : MapM Key := do
  let descriptor ← catalog.describe entity.className
  match ← catalog.idOf entity with
  | some id => return ⟨descriptor.className, descriptor.collection, id⟩
  | none => throw (.mapping (.noIdValue entity.className))

end Catalog

end DocMapper
