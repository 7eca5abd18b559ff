import DocMapper.Proofs.Conversion.Decoded
import DocMapper.Proofs.Query.Comparison

/-!
# Recognising pointers and parsing them

A query compares a field with a pointer if the two entries of a pointer are there; reading a field
parses the pointer, and asks that a text names the collection. The two agree on all values but the
misnamed ones, which have both entries and no text for the collection.

The main result follows both through a field that stores one pointer: every check lets a recognised
value pass with the comparisons and with nothing else, and the field reads as the key of the pointer
what is parsed, and refuses what is misnamed.
-/

namespace DocMapper

namespace Pointer

/-- The value has both entries of a pointer, and what stands for the collection is no text. -/
inductive Misnamed : Value → Prop
  | intro {doc : Document} {named id : Value}
      (hasCollection : Document.get? doc collectionKey = some named) (noText : named.asText? = none)
      (hasId : Document.get? doc idKey = some id) : Misnamed (.document doc)

variable {v : Value} {doc : Document} {named id : Value} {pointer : Pointer}

/-- Where both entries are there, parsing goes by the collection. -/
theorem ofValue_of_entries (hasCollection : Document.get? doc collectionKey = some named)
    (hasId : Document.get? doc idKey = some id) :
    ofValue (.document doc) =
      match named.asText? with
      | some collection => .ok ⟨collection, id⟩
      | none => .error .missingCollection := by
  simp only [ofValue, Value.asDocument?, hasCollection, hasId, Option.bind_some]
  cases named.asText? <;> rfl

/-- A value is recognised by its two entries. -/
theorem isPointer_iff : isPointer v = true ↔ ∃ doc named id, v = .document doc ∧
    Document.get? doc collectionKey = some named ∧ Document.get? doc idKey = some id := by
  cases v <;>
    simp [isPointer, Value.asDocument?, Document.contains, Option.isSome_iff_exists]

theorem isNull_of_isPointer (recognized : isPointer v = true) : v.isNull = false := by
  obtain ⟨_, _, _, rfl, -⟩ := isPointer_iff.mp recognized
  rfl

theorem isPointer_of_ofValue (parsed : ofValue v = .ok pointer) : isPointer v = true := by
  cases v with
  | document doc =>
    cases hasCollection : Document.get? doc collectionKey with
    | none => simp [ofValue, Value.asDocument?, hasCollection] at parsed
    | some named =>
      cases hasId : Document.get? doc idKey with
      | none =>
        cases isText : named.asText? <;>
          simp [ofValue, Value.asDocument?, hasCollection, hasId, isText] at parsed
      | some id => exact isPointer_iff.mpr ⟨doc, named, id, rfl, hasCollection, hasId⟩
  | _ => cases parsed

theorem Misnamed.isPointer (misnamed : Misnamed v) : isPointer v = true := by
  cases misnamed with
  | intro hasCollection _ hasId => exact isPointer_iff.mpr ⟨_, _, _, rfl, hasCollection, hasId⟩

theorem Misnamed.ofValue_eq (misnamed : Misnamed v) : ofValue v = .error .missingCollection := by
  cases misnamed with
  | intro hasCollection noText hasId => rw [ofValue_of_entries hasCollection hasId, noText]

theorem ofValue_or_misnamed (recognized : isPointer v = true) :
    (∃ pointer, ofValue v = .ok pointer) ∨ Misnamed v := by
  obtain ⟨doc, named, id, rfl, hasCollection, hasId⟩ := isPointer_iff.mp recognized
  cases isText : named.asText? with
  | some collection =>
    left
    exact ⟨⟨collection, id⟩, by rw [ofValue_of_entries hasCollection hasId, isText]⟩
  | none => exact .inr (.intro hasCollection isText hasId)

/-- Recognising and parsing agree on all values that are not misnamed, and on no others. -/
theorem isPointer_agrees_iff :
    (isPointer v = true ↔ ∃ pointer, ofValue v = .ok pointer) ↔ ¬ Misnamed v := by
  constructor
  · intro agree misnamed
    obtain ⟨pointer, parsed⟩ := agree.mp misnamed.isPointer
    rw [misnamed.ofValue_eq] at parsed
    cases parsed
  · intro named
    constructor
    · intro recognized
      exact (ofValue_or_misnamed recognized).resolve_right named
    · rintro ⟨pointer, parsed⟩
      exact isPointer_of_ofValue parsed

end Pointer

/-! ### The checks on a pointer -/

namespace Check

variable {catalog : Catalog} {owner : ClassName} {check : Check} {v : Value} {memory : Memory}
  {found : List QueryFailure}

/-- A reference field takes a pointer with the comparisons, and then without a failure or a look at
its target. -/
theorem outcome_run_of_pointer (isPlain : check.value = .value v)
    (link : check.field.isReference = true) (recognized : Pointer.isPointer v = true)
    (comparison : check.operator.isComparison = true) :
    (check.run catalog owner found).outcome memory = (.ok (true, found), memory) := by
  have noObject : (check.object catalog found).outcome memory = (.ok none, memory) :=
    outcome_object_of_plain isPlain
  have isTaken : (check.referencedId catalog owner found).outcome memory =
      (.ok (some found), memory) := by
    simp [referencedId, isPlain, link, recognized]
  have applied : (check.firstApplied catalog owner found).outcome memory =
      (.ok (some found), memory) := by
    rw [firstApplied, byOperator_of_comparison comparison, Run.outcome_bind_of_ok noObject,
      Run.outcome_bind_of_ok isTaken, Run.outcome_pure]
  have present := Pointer.isNull_of_isPointer recognized
  rw [run, isPlain, QueryValue.isNull, present, if_neg Bool.false_ne_true,
    Run.outcome_bind_of_ok applied, Run.outcome_pure, beq_self_eq_true]

/-- With any other operator it refuses a pointer, which is a document. -/
theorem refuses_pointer (isPlain : check.value = .value v)
    (recognized : Pointer.isPointer v = true) (other : check.operator.isComparison = false) :
    ∃ after, (check.run catalog owner found).outcome memory = (.ok (false, after), memory) := by
  obtain ⟨doc, _, _, rfl, -⟩ := Pointer.isPointer_iff.mp recognized
  obtain ⟨failure, more, applied⟩ : ∃ failure more,
      (check.existence found <|> check.itemCount found <|> check.candidates found <|>
        check.division found) = some (found ++ failure :: more) := by
    revert other
    cases operator : check.operator <;>
      simp [existence, itemCount, candidates, division, operator, isPlain, require, isDivision,
        Operator.isComparison, Operator.takesArray, QueryValue.asValue?, Value.asBool?,
        Value.asInteger?, Value.asArray?]
    -- A size operator may ask for two things, and misses the first in any case.
    split <;> exact ⟨_, _, rfl⟩
  refine ⟨found ++ failure :: more, ?_⟩
  have first : (check.firstApplied catalog owner found).outcome memory =
      (.ok (some (found ++ failure :: more)), memory) := by
    rw [firstApplied, applied, Run.outcome_pure]
  rw [run, isPlain, QueryValue.isNull, Value.isNull, if_neg Bool.false_ne_true,
    Run.outcome_bind_of_ok first, Run.outcome_pure]
  · simp
  · simp

theorem takes_pointer_iff (isPlain : check.value = .value v)
    (link : check.field.isReference = true) (recognized : Pointer.isPointer v = true) :
    (∃ after, ((check.run catalog owner found).outcome memory).1 = .ok (true, after)) ↔
      check.operator.isComparison = true := by
  constructor
  · rintro ⟨after, taken⟩
    by_contra other
    obtain ⟨after', refused⟩ := refuses_pointer isPlain recognized
      (Bool.eq_false_iff.mpr other)
    rw [refused] at taken
    cases taken
  · intro comparison
    exact ⟨found, by rw [outcome_run_of_pointer isPlain link recognized comparison]⟩

end Check

/-! ### Fields that store one pointer -/

namespace Catalog

variable {catalog : Catalog} {field : MappedField} {name : ClassName} {target : Descriptor}

/-- A field that stores one pointer reads it as the key of the place it names, or fails as parsing
does. -/
theorem gives_decodeKeys_pointer (single : field.isMultiple = false)
    (full : field.pointerOptions.idOnly = false) (leads : field.target? = some name)
    (described : catalog.Describes name target) {v : Value} (present : v.isNull = false) :
    catalog.Gives (catalog.decodeKeys field v)
      (((Pointer.ofValue v).mapError .pointer).map fun place =>
        .ofKey ⟨target.className, place.collection, place.id⟩) := by
  have isTarget : catalog.Gives (catalog.target field) (.ok target) :=
    (steady_target field).gives (answer_target_eq_ok.mpr ⟨name, leads, described⟩)
  have keys : keysFor field target v =
      ((Pointer.ofValue v).mapError .pointer).map fun place =>
        [⟨target.className, place.collection, place.id⟩] := by
    simp only [keysFor, keyFor, single, full]
    cases Pointer.ofValue v <;> rfl
  rw [decodeKeys_eq present, keys_eq, map_eq_pure_bind, bind_assoc]
  apply isTarget.bind
  rw [keys]
  cases Pointer.ofValue v with
  | error error => exact (gives_ofExcept _).bind_error
  | ok place =>
    apply (gives_ofExcept _).bind
    rw [propertyOfKeys, single]
    exact gives_pure _

/-- Recognising and parsing agree on a value exactly if it is not misnamed. Every check on a field
that stores one pointer takes a recognised value with the comparisons and no others, and reading the
field gives the key of the pointer that is parsed, or fails where the value is misnamed. Every
pointer is recognised in its stored form, and parsed as itself. -/
theorem takes_pointers_unless_misnamed (link : field.isReference = true)
    (single : field.isMultiple = false) (full : field.pointerOptions.idOnly = false)
    (leads : field.target? = some name) (described : catalog.Describes name target) :
    (∀ v, (Pointer.isPointer v = true ↔ ∃ pointer, Pointer.ofValue v = .ok pointer) ↔
      ¬ Pointer.Misnamed v) ∧
    (∀ v memory, Pointer.isPointer v = true → memory.Sound catalog →
      (∀ (check : Check) owner found, check.field = field → check.value = .value v →
        ((∃ after, ((check.run catalog owner found).outcome memory).1 = .ok (true, after)) ↔
          check.operator.isComparison = true)) ∧
      (∀ pointer, Pointer.ofValue v = .ok pointer →
        ((catalog.decodeKeys field v).outcome memory).1 =
          .ok (.ofKey ⟨target.className, pointer.collection, pointer.id⟩)) ∧
      (Pointer.Misnamed v → ((catalog.decodeKeys field v).outcome memory).1 =
        .error (.pointer .missingCollection))) ∧
    ∀ pointer : Pointer, Pointer.isPointer pointer.toValue = true ∧
      Pointer.ofValue pointer.toValue = .ok pointer := by
  refine ⟨fun v => Pointer.isPointer_agrees_iff, ?field, ?stored⟩
  case field =>
    intro v memory recognized sound
    have reading := gives_decodeKeys_pointer single full leads described
      (Pointer.isNull_of_isPointer recognized)
    obtain ⟨after, -, read⟩ := reading memory sound
    rw [read]
    refine ⟨?checks, ?parsed, ?misnamed⟩
    case checks =>
      rintro check owner found rfl isPlain
      exact Check.takes_pointer_iff isPlain link recognized
    case parsed =>
      intro pointer parsed
      rw [parsed]
      rfl
    case misnamed =>
      intro misnamed
      rw [misnamed.ofValue_eq]
      rfl
  case stored =>
    intro pointer
    exact ⟨Pointer.isPointer_of_ofValue (Pointer.ofValue_toValue pointer),
      Pointer.ofValue_toValue pointer⟩

end Catalog

namespace Samples

def letter : TypeSchema :=
  entity "Letter" "letters" [
    marked "id" integer .id,
    marked "writer" (object "Author") (.reference {})]

def letters : Catalog where
  registry := .ofTypes [address, author, letter]

def writer : MappedField :=
  .ofSchema letter.name (marked "writer" (object "Author") (.reference {}))

def byWriter (v : Value) : Check :=
  ⟨"writer", writer, writer.type, .equal, .value v⟩

/-- Both entries of a pointer, with a number for the collection. -/
def numberedPlace : Value := .document [("$ref", .integer 5), ("$id", .integer 1)]

theorem describes_letters :
    letters.Describes author.name (letters.assemble author none [] []) :=
  Catalog.describes_alone rfl (by decide) rfl rfl rfl rfl rfl

/-- A letter is searched by a pointer to its writer, and read with it. -/
theorem takes_pointers_letter :
    writer ∈ (letters.assemble letter none [] []).fields ∧
    (∃ after, (((byWriter (Pointer.toValue ⟨"authors", .integer 1⟩)).run letters letter.name
      []).outcome {}).1 = .ok (true, after)) ∧
    ((letters.decodeKeys writer (Pointer.toValue ⟨"authors", .integer 1⟩)).outcome {}).1 =
      .ok (.ofKey ⟨author.name, "authors", .integer 1⟩) := by
  obtain ⟨-, field, stored⟩ := @Catalog.takes_pointers_unless_misnamed letters writer _ _ rfl rfl
    rfl rfl describes_letters
  obtain ⟨recognized, parsed⟩ := stored ⟨"authors", .integer 1⟩
  obtain ⟨checks, read, -⟩ := field _ {} recognized (Memory.sound_empty letters)
  refine ⟨by decide, (checks (byWriter _) letter.name [] rfl rfl).mpr rfl, read _ parsed⟩

/-- A number for the collection is recognised and not parsed: a letter is searched by it and not
read with it. -/
theorem numbered_taken :
    (Pointer.isPointer numberedPlace = true ∧
      ∀ pointer, Pointer.ofValue numberedPlace ≠ .ok pointer) ∧
    ((byWriter numberedPlace).run letters letter.name []).outcome {} = (.ok (true, []), {}) ∧
    ((letters.decodeKeys writer numberedPlace).outcome {}).1 =
      .error (.pointer .missingCollection) := by
  have misnamed : Pointer.Misnamed numberedPlace := .intro rfl rfl rfl
  have unparsed := misnamed.ofValue_eq
  refine ⟨⟨misnamed.isPointer, ?_⟩, ?_, ?_⟩
  · rintro pointer parsed
    rw [unparsed] at parsed
    cases parsed
  · exact Check.outcome_run_of_pointer rfl rfl misnamed.isPointer rfl
  · have reading := @Catalog.gives_decodeKeys_pointer letters writer _ _ rfl rfl rfl
      describes_letters _ (Pointer.isNull_of_isPointer misnamed.isPointer)
    obtain ⟨after, -, read⟩ := reading {} (Memory.sound_empty letters)
    rw [read, unparsed]
    rfl

end Samples

end DocMapper
