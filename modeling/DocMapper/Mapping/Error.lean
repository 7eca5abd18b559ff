import DocMapper.Mapping.Rules
import DocMapper.Store.Collections
import DocMapper.Value.Pointer

/-!
# Errors of mapping

Why a type cannot be mapped, or an operation on entities fails. Each cause is a constructor; the
wording is in `message?` alone.
-/

namespace DocMapper

/-- Why a type cannot be mapped, or an object contradicts the mapping of its type. -/
inductive MappingFault where
  | innerType (name : ClassName)
  /-- The types from the one asked for to the one met again. -/
  | cyclicHierarchy (path : List ClassName)
  | supertypeNotRegistered (supertype name : ClassName)
  | listenerNotRegistered (listener name : ClassName)
  | listenerWithoutFactory (listener name : ClassName)
  | rulesBroken (name : ClassName) (violations : List Violation)
  | notAnEntity (name : ClassName)
  | noIdField (name : ClassName)
  | noIdValue (name : ClassName)
  | idNotGenerated (name : ClassName) (field : String)
  | misfit (name : ClassName) (field kind : String) (type : FieldType)
  | strayReference (name : ClassName) (field : String)
  | noTarget (name : ClassName) (field : String)
  | targetWithoutId (target name : ClassName) (field : String)
  | listForSingle (name : ClassName) (field : String) (type : FieldType)
  | singleForList (name : ClassName) (field : String) (type : FieldType)
  | plainReference (name : ClassName) (field kind : String)
  | notAReference (name : ClassName) (field : String)
deriving DecidableEq

namespace MappingFault

def message : MappingFault → String
  | .innerType name => "cannot map " ++ name.text ++ ": nested types must be static"
  | .cyclicHierarchy path =>
    "cyclic type hierarchy: " ++ " -> ".intercalate (path.map ClassName.text)
  | .supertypeNotRegistered supertype name =>
    "supertype " ++ supertype.text ++ " of " ++ name.text ++ " is not registered"
  | .listenerNotRegistered listener name =>
    "listener " ++ listener.text ++ " of " ++ name.text ++ " is not registered"
  | .listenerWithoutFactory listener name =>
    "listener " ++ listener.text ++ " of " ++ name.text ++ " has no listener factory"
  | .rulesBroken name violations => "; ".intercalate (violations.map (Violation.message name))
  | .notAnEntity name => name.text ++ " is not an entity"
  | .noIdField name => name.text ++ " has no Id field"
  | .noIdValue name => name.text ++ " has no id value"
  | .idNotGenerated name field =>
    name.text ++ " has no id value and " ++ field ++ " is not generated"
  | .misfit name field kind type =>
    name.text ++ "." ++ field ++ " holds " ++ kind ++ ", declared " ++ type.description
  | .strayReference name field =>
    name.text ++ "." ++ field ++ " holds a reference but is not a Reference field"
  | .noTarget name field => name.text ++ "." ++ field ++ " names no referenced class"
  | .targetWithoutId target name field =>
    target.text ++ " referenced by " ++ name.text ++ "." ++ field ++ " has no id value"
  | .listForSingle name field type =>
    name.text ++ "." ++ field ++ " is declared " ++ type.description ++
      " but holds a list of references"
  | .singleForList name field type =>
    name.text ++ "." ++ field ++ " is declared " ++ type.description ++
      " but holds a single reference"
  | .plainReference name field kind =>
    name.text ++ "." ++ field ++ " is a Reference field but holds a " ++ kind ++ " value"
  | .notAReference name field => name.text ++ "." ++ field ++ " is not a Reference field"

end MappingFault

/-- Why a document does not fit the class it is to be read as. -/
inductive DecodeFault where
  | notAssignable (stored requested : ClassName)
  | misfit (stored kind : String) (type : FieldType)
deriving DecidableEq

namespace DecodeFault

def message : DecodeFault → String
  | .notAssignable stored requested =>
    "stored class " ++ stored.text ++ " is not a " ++ requested.text
  | .misfit stored kind type => stored ++ " holds " ++ kind ++ ", declared " ++ type.description

end DecodeFault

/-- Why an operation on entities failed. -/
inductive MapError where
  | mapping (fault : MappingFault)
  | unknownClass (name : ClassName)
  /-- A method, a listener factory or an interceptor failed. -/
  | lifecycle (event : Event) (name : ClassName) (method reason : String)
  | store (error : StoreError)
  | pointer (error : PointerError)
  | invalidDocument (name : ClassName) (fault : DecodeFault)
  | dangling (field collection : String) (id : Value)
  | concurrentModification (name : ClassName) (id : Value) (stored expected : Int64)
deriving DecidableEq

namespace MapError

def message? : MapError → Option String
  | .mapping fault => some ("mapping error: " ++ fault.message)
  | .unknownClass name => some ("unknown class: " ++ name.text)
  | .lifecycle event name method reason =>
    some (event.description ++ " handler " ++ method ++ " on " ++ name.text ++ " failed: " ++
      reason)
  | .store error => error.message?
  | .pointer error => some ("codec error: " ++ error.message)
  | .invalidDocument name fault => some ("cannot decode " ++ name.text ++ ": " ++ fault.message)
  | .dangling field collection id =>
    some ("dangling reference in " ++ field ++ ": no document " ++ id.diagnostic ++ " in " ++
      collection)
  | .concurrentModification name id stored expected =>
    some ("concurrent modification of " ++ name.text ++ " " ++ id.diagnostic ++
      ": stored version " ++ toString stored.toInt ++ ", expected " ++ toString expected.toInt)

end MapError

end DocMapper
