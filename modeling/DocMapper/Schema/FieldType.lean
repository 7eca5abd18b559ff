import DocMapper.Schema.ClassName
import DocMapper.Value.Basic

/-!
# Declared types of fields

A field is declared with a scalar kind, with a class, or with a collection over another type. `fits`
says which plain values a field of a type can hold; inside collections null stands for a missing
item of any type.
-/

namespace DocMapper

inductive ScalarKind where
  | bool
  | integer
  | text
  | bytes
  | objectId
  | any
deriving DecidableEq

namespace ScalarKind

def accepts : ScalarKind → Value → Bool
  | .any, _ => true
  | .bool, .bool _ => true
  | .integer, .integer _ => true
  | .text, .text _ => true
  | .bytes, .bytes _ => true
  | .objectId, .id _ => true
  | _, _ => false

def name : ScalarKind → String
  | .bool => "bool"
  | .integer => "integer"
  | .text => "text"
  | .bytes => "bytes"
  | .objectId => "object id"
  | .any => "any"

end ScalarKind

/-- The declared type of a field. -/
inductive FieldType where
  | scalar (kind : ScalarKind)
  | object (name : ClassName)
  | list (item : FieldType)
  | set (item : FieldType)
  | array (item : FieldType)
  /-- Items under text keys. -/
  | map (item : FieldType)
deriving DecidableEq

namespace FieldType

/-- Whether the type is a list, a set or an array. -/
def isMultiple : FieldType → Bool
  | .list _ | .set _ | .array _ => true
  | _ => false

/-- The type inside all lists, sets and arrays around it. -/
def element : FieldType → FieldType
  | .list item | .set item | .array item => item.element
  | other => other

/-- The class of the objects in the field, if it holds objects. -/
def className? (type : FieldType) : Option ClassName :=
  match type.element with
  | .object name => some name
  | _ => none

def description : FieldType → String
  | .scalar kind => kind.name
  | .object name => name.text
  | .list item => "List<" ++ item.description ++ ">"
  | .set item => "Set<" ++ item.description ++ ">"
  | .array item => item.description ++ "[]"
  | .map item => "Map<text, " ++ item.description ++ ">"

/-- Whether a plain value can stand in a field of the type. -/
def fits : FieldType → Value → Bool
  | .scalar kind, value => kind.accepts value
  | .object _, .document _ => true
  | .list item, .array items => items.all fun v => v.isNull || item.fits v
  | .set item, .array items => items.all fun v => v.isNull || item.fits v
  | .array item, .array items => items.all fun v => v.isNull || item.fits v
  | .map item, .document entries => entries.all fun (_, v) => v.isNull || item.fits v
  | _, _ => false

end FieldType

end DocMapper
