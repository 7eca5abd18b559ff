import DocMapper.Instance.Entity
import DocMapper.Schema.Registry

/-!
# Sample registries

Two small worlds to try a mapper on: jobs with owners behind an interface, and a library whose books
refer to their people in every way there is. One of its authors stands for entities that are written
and read.
-/

namespace DocMapper.Samples

def plain (name : String) (type : FieldType) : FieldSchema where
  name
  type

def marked (name : String) (type : FieldType) (mark : FieldAnnotation) : FieldSchema where
  name
  type
  annotations := [mark]

/-- A type whose documents are kept in a collection. -/
def entity (name collection : String) (fields : List FieldSchema) : TypeSchema where
  name := ⟨name⟩
  annotations := [.entity { collection := some collection }]
  fields

def text : FieldType := .scalar .text

def integer : FieldType := .scalar .integer

def objectId : FieldType := .scalar .objectId

def object (name : String) : FieldType := .object ⟨name⟩

def user : TypeSchema where
  name := ⟨"User"⟩
  kind := .interface

def userImpl : TypeSchema :=
  { entity "UserImpl" "users" [marked "id" objectId .id, plain "name" text] with
    interfaces := [user.name] }

def job : TypeSchema :=
  entity "Job" "jobs" [
    marked "id" objectId .id,
    plain "title" text,
    marked "owner" (object "User") (.reference {}),
    plain "attributes" (.list text),
    marked "watchers" (.list (object "UserImpl")) (.reference { idOnly := true })]

/-- Jobs, their owners and their watchers. -/
def jobs : Registry := .ofTypes [user, userImpl, job]

def address : TypeSchema where
  name := ⟨"Address"⟩
  annotations := [.embedded {}]
  fields := [plain "city" text]

def author : TypeSchema :=
  entity "Author" "authors" [
    marked "id" integer .id,
    plain "name" text,
    marked "home" (object "Address") .embedded]

/-- A book with a version, whose editor is stored as a bare identifier, whose authors are stored as
pointers, and whose reviewers are not loaded with it. -/
def book : TypeSchema :=
  entity "Book" "books" [
    marked "id" integer .id,
    marked "version" integer .version,
    plain "title" text,
    marked "editor" (object "Author") (.reference { idOnly := true }),
    marked "authors" (.list (object "Author")) (.reference {}),
    marked "reviewers" (.list (object "Author")) (.reference { lazy := true })]

def library : Registry := .ofTypes [address, author, book]

def londonHome : Entity := .mk address.name [("city", .value (.text "London"))]

def ada : Entity :=
  .mk author.name [
    ("home", .embedded londonHome),
    ("id", .value (.integer 1)),
    ("name", .value (.text "Ada"))]

/-- The document of an author, with or without a name and a home. -/
def authorDocument (entries : Document) : Document :=
  [("_id", .integer 1), ("className", .text "Author")] ++ entries

def london : Value :=
  .document [("className", .text "Address"), ("city", .text "London")]

end DocMapper.Samples
