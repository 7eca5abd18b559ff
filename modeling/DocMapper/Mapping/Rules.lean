import DocMapper.Mapping.Descriptor
import DocMapper.Schema.Registry

/-!
# Mapping rules

What a described type has to satisfy before it can be mapped. `violations` finds every breach, in
the order of the fields, so that all of them can be reported at once.
-/

namespace DocMapper

/-- A breach of the mapping rules. -/
inductive Violation where
  | severalIds (count : Nat)
  | severalVersions (count : Nat)
  | entityAndEmbedded
  | storedNameTaken (field stored : String)
  | idIsReference (field : String)
  | versionNotInteger (field : String) (type : FieldType)
  | referenceWithoutClass (field : String) (type : FieldType)
  | targetNotRegistered (field : String) (target : ClassName)
deriving DecidableEq

namespace Violation

def message (name : ClassName) : Violation → String
  | .severalIds count => name.text ++ " has " ++ toString count ++ " Id fields"
  | .severalVersions count => name.text ++ " has " ++ toString count ++ " Version fields"
  | .entityAndEmbedded => name.text ++ " cannot be both Entity and Embedded"
  | .storedNameTaken field stored =>
    name.text ++ "." ++ field ++ " is stored as " ++ stored ++ ", which is already used"
  | .idIsReference field => name.text ++ "." ++ field ++ " cannot be both Id and Reference"
  | .versionNotInteger field type =>
    name.text ++ "." ++ field ++ " is a Version field of type " ++ type.description ++
      ", must be integer"
  | .referenceWithoutClass field type =>
    name.text ++ "." ++ field ++ " is a Reference of type " ++ type.description ++
      ", which names no class"
  | .targetNotRegistered field target =>
    name.text ++ "." ++ field ++ " references unregistered type " ++ target.text

end Violation

namespace MappedField

/-- The breaches by one field. `taken` are the stored names of the fields before it. -/
def violations (registry : Registry) (taken : List String) (field : MappedField) :
    List Violation :=
  (if field.storedName ∈ taken then [.storedNameTaken field.name field.storedName] else []) ++
  (if field.isId && field.isReference then [.idIsReference field.name] else []) ++
  (if field.isVersion && field.type != .scalar .integer then
    [.versionNotInteger field.name field.type] else []) ++
  (if field.isReference then
    match field.target? with
    | none => [.referenceWithoutClass field.name field.type]
    | some target =>
      if registry.contains target then [] else [.targetNotRegistered field.name target]
  else [])

/-- The breaches by fields, of which those before them have taken some stored names. -/
def allViolations (registry : Registry) (taken : List String) : List MappedField → List Violation
  | [] => []
  | field :: rest =>
    field.violations registry taken ++ allViolations registry (field.storedName :: taken) rest

end MappedField

namespace Descriptor

/-- Every breach of the mapping rules. -/
def violations (registry : Registry) (descriptor : Descriptor) : List Violation :=
  let ids := (descriptor.fieldsWith .id).length
  let versions := (descriptor.fieldsWith .version).length
  let marked (kind : TypeAnnotationKind) := !(descriptor.schema.annotationsOf kind).isEmpty
  (if 1 < ids then [.severalIds ids] else []) ++
  (if 1 < versions then [.severalVersions versions] else []) ++
  (if marked .entity && marked .embedded then [.entityAndEmbedded] else []) ++
  MappedField.allViolations registry [] descriptor.fields

end Descriptor

end DocMapper
