import DocMapper.Proofs.Outcome
import DocMapper.Query.Validation
import DocMapper.Samples

/-!
# Comparing fields with plain values

What a query may compare a field with is decided apart from what the field can hold, and the two do
not agree. `FieldType.compares` is the decision for a field that is no reference, in one piece.

The main results set it against `FieldType.fits`. Of what a field can hold, the comparison takes
everything but collections of scalars with a null or another collection in them. What it takes fits
the type, or the type of the items at some level, unless the type is one over classes or maps:
nothing is asked of what is inside a map, and nothing at all of a value for a collection over one of
them.
-/

namespace DocMapper

theorem ScalarKind.plain_of_accepts {kind : ScalarKind} {v : Value} (closed : kind ≠ .any)
    (accepts : kind.accepts v = true) : v.isNull = false ∧ v.asArray? = none := by
  cases kind <;> cases v <;> simp_all [ScalarKind.accepts, Value.isNull, Value.asArray?]

namespace FieldType

/-- The type and the types of the items in it, from the outermost inward. -/
def levels : FieldType → List FieldType
  | .list item => .list item :: item.levels
  | .set item => .set item :: item.levels
  | .array item => .array item :: item.levels
  | other => [other]

/-- The type is a list, a set or an array over the other. -/
inductive IsOver : FieldType → FieldType → Prop
  | list (item : FieldType) : IsOver (.list item) item
  | set (item : FieldType) : IsOver (.set item) item
  | array (item : FieldType) : IsOver (.array item) item

/-- Whether a value can be compared with a field of the type: values of the kind and arrays of
them, where the innermost items are scalars. -/
def compares (type : FieldType) (v : Value) : Bool :=
  match type.element with
  | .scalar kind => kind.accepts v || type.isMultiple && (v.asArray?.any (·.all kind.accepts))
  | _ => type.isMultiple || v.asDocument?.isSome

/-- Nothing that is null and no array stands directly in a value for a collection of scalars,
unless these can be anything. -/
def Flat (type : FieldType) (v : Value) : Prop :=
  ∀ kind, type.element = .scalar kind → kind ≠ .any → ∀ items, v = .array items →
    ∀ item ∈ items, item.isNull = false ∧ item.asArray? = none

/-- The values whose inside does not matter to the comparison with a field of the type. -/
inductive Unexamined : FieldType → Value → Prop
  /-- For a map, any document. -/
  | map (item : FieldType) (entries : Document) : Unexamined (.map item) (.document entries)
  /-- For a collection over a class or a map, whatever there is. -/
  | collection {type : FieldType} {v : Value} (multiple : type.isMultiple = true)
      (noKind : ∀ kind, type.element ≠ .scalar kind) : Unexamined type v

variable {type item : FieldType} {kind : ScalarKind} {v : Value} {items : List Value}

/-! ### Collections -/

theorem exists_isOver (multiple : type.isMultiple = true) : ∃ item, type.IsOver item := by
  cases type with
  | list item => exact ⟨item, .list item⟩
  | set item => exact ⟨item, .set item⟩
  | array item => exact ⟨item, .array item⟩
  | _ => cases multiple

namespace IsOver

theorem element_eq (isOver : type.IsOver item) : type.element = item.element := by
  cases isOver <;> rfl

theorem levels_eq (isOver : type.IsOver item) : type.levels = type :: item.levels := by
  cases isOver <;> rfl

/-- A collection holds arrays whose items are null or fit. -/
theorem fits_iff (isOver : type.IsOver item) : type.fits v = true ↔
    ∃ items, v = .array items ∧ ∀ one ∈ items, one.isNull = true ∨ item.fits one = true := by
  cases isOver <;> cases v <;> simp [fits]

end IsOver

/-- A type is a collection over another one, or none at all. -/
@[elab_as_elim]
theorem induction_over {motive : FieldType → Prop} (type : FieldType)
    (single : ∀ type : FieldType, type.isMultiple = false → motive type)
    (collection : ∀ type item : FieldType, type.IsOver item → motive item → motive type) :
    motive type := by
  induction type with
  | list item ih => exact collection _ _ (.list item) ih
  | set item ih => exact collection _ _ (.set item) ih
  | array item ih => exact collection _ _ (.array item) ih
  | _ => exact single _ rfl

theorem element_eq_self (single : type.isMultiple = false) : type.element = type := by
  cases type with
  | list | set | array => cases single
  | _ => rfl

theorem scalar_or_noKind (type : FieldType) :
    (∃ kind, type.element = .scalar kind) ∨ ∀ kind, type.element ≠ .scalar kind :=
  or_iff_not_imp_left.mpr not_exists.mp

theorem self_mem_levels (type : FieldType) : type ∈ type.levels := by
  cases type <;> simp [levels]

theorem element_mem_levels (type : FieldType) : type.element ∈ type.levels := by
  induction type using induction_over with
  | single type single =>
    rw [element_eq_self single]
    exact type.self_mem_levels
  | collection type item isOver ih =>
    rw [isOver.element_eq, isOver.levels_eq]
    exact List.mem_cons_of_mem _ ih

/-- A collection has scalars as its innermost items only by a level over the scalars themselves. -/
theorem exists_level_over (multiple : type.isMultiple = true)
    (scalar : type.element = .scalar kind) :
    ∃ level ∈ type.levels, level.IsOver (.scalar kind) := by
  induction type using induction_over with
  | single type single => simp [single] at multiple
  | collection type item isOver ih =>
    rw [isOver.element_eq] at scalar
    rw [isOver.levels_eq]
    -- Either the items are collections, and the level is one of theirs, or it is the type itself.
    cases nested : item.isMultiple with
    | true =>
      obtain ⟨level, member, inner⟩ := ih nested scalar
      exact ⟨level, List.mem_cons_of_mem _ member, inner⟩
    | false =>
      rw [element_eq_self nested] at scalar
      exact ⟨type, List.mem_cons_self, scalar ▸ isOver⟩

/-! ### What is compared, and what fits -/

theorem compares_of_scalar (scalar : type.element = .scalar kind) :
    type.compares v =
      (kind.accepts v || type.isMultiple && v.asArray?.any (·.all kind.accepts)) := by
  rw [compares, scalar]

theorem compares_of_noKind (noKind : ∀ kind, type.element ≠ .scalar kind) :
    type.compares v = (type.isMultiple || v.asDocument?.isSome) := by
  rw [compares]
  split
  next kind scalar => exact absurd scalar (noKind kind)
  next => rfl

theorem compares_array (multiple : type.isMultiple = true) (scalar : type.element = .scalar kind)
    (closed : kind ≠ .any) : type.compares (.array items) = items.all kind.accepts := by
  have noArray : kind.accepts (.array items) = false := by cases kind <;> trivial
  simp [compares_of_scalar scalar, noArray, multiple, Value.asArray?]

/-- Of the items that a collection of scalars can hold, the scalars are those that are neither null
nor collections again. -/
theorem IsOver.accepts_iff {one : Value} (isOver : type.IsOver item)
    (scalar : type.element = .scalar kind) (closed : kind ≠ .any)
    (fits : one.isNull = true ∨ item.fits one = true) :
    kind.accepts one = true ↔ one.isNull = false ∧ one.asArray? = none := by
  refine ⟨kind.plain_of_accepts closed, fun ⟨present, noArray⟩ => ?_⟩
  have fits : item.fits one = true := fits.resolve_left (by simp [present])
  -- In a collection of collections, only an array fits as an item.
  cases nested : item.isMultiple with
  | true =>
    obtain ⟨_, holds⟩ := exists_isOver nested
    obtain ⟨items, rfl, -⟩ := holds.fits_iff.mp fits
    cases noArray
  | false =>
    rw [isOver.element_eq, element_eq_self nested] at scalar
    rwa [scalar, FieldType.fits] at fits

theorem flat_of_any (scalar : type.element = .scalar .any) : type.Flat v :=
  fun _ isKind closed => absurd (FieldType.scalar.inj (isKind.symm.trans scalar)) closed

theorem flat_of_noKind (noKind : ∀ kind, type.element ≠ .scalar kind) : type.Flat v :=
  fun kind isKind => absurd isKind (noKind kind)

theorem flat_array_iff (scalar : type.element = .scalar kind) (closed : kind ≠ .any) :
    type.Flat (.array items) ↔ ∀ one ∈ items, one.isNull = false ∧ one.asArray? = none := by
  refine ⟨fun flat => flat kind scalar closed items rfl, ?_⟩
  rintro plain _ - - _ ⟨⟩
  exact plain

/-- Whatever fits is compared where the innermost items are no scalars. -/
theorem compares_of_fits (noKind : ∀ kind, type.element ≠ .scalar kind)
    (fits : type.fits v = true) : type.compares v = true := by
  rw [compares_of_noKind noKind]
  cases type with
  | scalar kind => exact absurd rfl (noKind kind)
  | object | map => cases v <;> simp_all [FieldType.fits, Value.asDocument?]
  | _ => rfl

/-- Of what fits, the flat values are compared and no others. -/
theorem compares_iff_flat (fits : type.fits v = true) :
    type.compares v = true ↔ type.Flat v := by
  obtain ⟨kind, scalar⟩ | noKind := type.scalar_or_noKind
  · by_cases closed : kind = .any
    · subst closed
      exact iff_of_true (by simp [compares_of_scalar scalar, ScalarKind.accepts])
        (flat_of_any scalar)
    cases multiple : type.isMultiple with
    | true =>
      obtain ⟨item, isOver⟩ := exists_isOver multiple
      obtain ⟨items, rfl, each⟩ := isOver.fits_iff.mp fits
      rw [compares_array multiple scalar closed, flat_array_iff scalar closed, List.all_eq_true]
      exact forall₂_congr fun one member => isOver.accepts_iff scalar closed (each one member)
    | false =>
      -- A scalar of the kind is no array, so there is nothing in it to be null.
      obtain rfl : type = .scalar kind := (element_eq_self multiple).symm.trans scalar
      refine iff_of_true (by simp [compares_of_scalar scalar, show kind.accepts v from fits]) ?_
      rintro _ - - items rfl
      cases (kind.plain_of_accepts closed fits).2
  · exact iff_of_true (compares_of_fits noKind fits) (flat_of_noKind noKind)

/-- What is compared fits the type at one of its levels, or is not looked into. -/
theorem fits_of_compares (compares : type.compares v = true) :
    (∃ level ∈ type.levels, level.fits v = true) ∨ type.Unexamined v := by
  obtain ⟨kind, scalar⟩ | noKind := type.scalar_or_noKind
  · left
    rw [compares_of_scalar scalar, Bool.or_eq_true, Bool.and_eq_true,
      Option.any_eq_true] at compares
    obtain accepts | ⟨multiple, items, isArray, each⟩ := compares
    · exact ⟨.scalar kind, scalar ▸ type.element_mem_levels, accepts⟩
    · obtain ⟨level, member, isOver⟩ := exists_level_over multiple scalar
      refine ⟨level, member, isOver.fits_iff.mpr ⟨items, ?_, ?_⟩⟩
      · cases v <;> cases isArray
        rfl
      · exact fun one isItem => .inr (List.all_eq_true.mp each one isItem)
  · rw [compares_of_noKind noKind, Bool.or_eq_true] at compares
    cases type with
    | scalar kind => exact absurd rfl (noKind kind)
    | object name =>
      refine .inl ⟨_, self_mem_levels _, ?_⟩
      cases v <;> simp_all [FieldType.fits, isMultiple, Value.asDocument?]
    | map item =>
      cases v with
      | document entries => exact .inr (.map item entries)
      | _ => simp [isMultiple, Value.asDocument?] at compares
    | _ => exact .inr (.collection rfl noKind)

theorem Unexamined.compares (free : type.Unexamined v) : type.compares v = true := by
  cases free with
  | map => rfl
  | collection multiple noKind => rw [compares_of_noKind noKind, multiple, Bool.true_or]

end FieldType

/-! ### The checks on a plain value -/

namespace Check

variable {catalog : Catalog} {owner : ClassName} {check : Check} {v : Value} {memory : Memory}
  {found : List QueryFailure}

theorem plain_or_otherwise (isPlain : check.value = .value v) :
    (check.plain found <|> check.otherwise found) =
      some (check.misfit v (check.type.compares v) found) := by
  obtain ⟨kind, scalar⟩ | noKind := check.type.scalar_or_noKind
  · have same : check.fitsKind kind v = check.type.compares v := by
      rw [FieldType.compares_of_scalar scalar]
      cases v <;> rfl
    simp [plain, isPlain, scalar, same]
  · have noPlain : check.plain found = none := by
      rw [plain, isPlain]
      split
      next kind _ isKind => exact absurd isKind (noKind kind)
      next => rfl
    rw [noPlain, FieldType.compares_of_noKind noKind, otherwise, isPlain]
    cases type : check.type with
    | scalar kind => exact absurd (by rw [type]; rfl) (noKind kind)
    | object | map => rfl
    | _ => simp [misfit, require, FieldType.isMultiple]

theorem length_misfit (fits : Bool) :
    ((check.misfit v fits found).length == found.length) = fits := by
  cases fits <;> simp [misfit, require]

/-- The checks that go by the operator leave comparisons alone. -/
theorem byOperator_of_comparison (comparison : check.operator.isComparison = true) :
    (check.existence found <|> check.itemCount found <|> check.candidates found <|>
      check.division found) = none := by
  revert comparison
  cases operator : check.operator <;>
    simp [existence, itemCount, candidates, division, operator, Operator.isComparison,
      Operator.takesArray]

/-- The check of keys and entities leaves plain values alone. -/
theorem outcome_object_of_plain (isPlain : check.value = .value v) :
    (check.object catalog found).outcome memory = (.ok none, memory) := by
  rw [object, isPlain]
  rfl

/-- A comparison with a value that is there, on a field that is no reference, goes by the type
alone. -/
theorem outcome_run_of_comparison (isPlain : check.value = .value v)
    (noReference : check.field.isReference = false)
    (comparison : check.operator.isComparison = true) (present : v.isNull = false) :
    (check.run catalog owner found).outcome memory =
      (.ok (check.type.compares v, check.misfit v (check.type.compares v) found), memory) := by
  have noObject : (check.object catalog found).outcome memory = (.ok none, memory) :=
    outcome_object_of_plain isPlain
  have noId : (check.referencedId catalog owner found).outcome memory = (.ok none, memory) := by
    rw [referencedId, isPlain]
    simp [noReference]
  have applied : (check.firstApplied catalog owner found).outcome memory =
      (.ok (some (check.misfit v (check.type.compares v) found)), memory) := by
    rw [firstApplied, byOperator_of_comparison comparison, Run.outcome_bind_of_ok noObject,
      Run.outcome_bind_of_ok noId,
      plain_or_otherwise isPlain, Run.outcome_pure]
  rw [run, isPlain, QueryValue.isNull, present, if_neg Bool.false_ne_true,
    Run.outcome_bind_of_ok applied, Run.outcome_pure, length_misfit]

@[simp] theorem path_failure (expected message : String) :
    (check.failure expected message).path = check.path := rfl

end Check

/-! ### Comparisons -/

section

variable {catalog : Catalog} {owner : Descriptor} {field : MappedField} {type : FieldType}
  {operator : Operator} {v : Value} {before : List QueryFailure} {memory : Memory}

namespace Catalog

/-- Whether a value can be compared with a field that is no reference is decided by its type, and
the only failure there can be is that the value does not go with it. -/
theorem outcome_isCompatible (noReference : field.isReference = false)
    (comparison : operator.isComparison = true) (present : v.isNull = false) :
    (catalog.isCompatible owner field type operator (.value v) before).outcome memory =
      (.ok (type.compares v,
        Check.misfit ⟨field.name, field, type, operator, .value v⟩ v (type.compares v) before),
        memory) :=
  Check.outcome_run_of_comparison rfl noReference comparison present

theorem outcome_isCompatible_of_compares (noReference : field.isReference = false)
    (comparison : operator.isComparison = true) (present : v.isNull = false)
    (compares : type.compares v = true) :
    (catalog.isCompatible owner field type operator (.value v) before).outcome memory =
      (.ok (true, before), memory) := by
  rw [outcome_isCompatible noReference comparison present, compares, Check.misfit, Check.require,
    if_pos rfl]

/-- A value that a field can hold can be compared with it, without failures, exactly if it is flat;
otherwise it is refused with one failure, at the field. -/
theorem isCompatible_of_fits (noReference : field.isReference = false)
    (comparison : operator.isComparison = true) (present : v.isNull = false)
    (fits : type.fits v = true) :
    (type.Flat v →
      (catalog.isCompatible owner field type operator (.value v) before).outcome memory =
        (.ok (true, before), memory)) ∧
    (¬ type.Flat v → ∃ failure, failure.path = field.name ∧
      (catalog.isCompatible owner field type operator (.value v) before).outcome memory =
        (.ok (false, before ++ [failure]), memory)) := by
  have decided := FieldType.compares_iff_flat fits
  constructor
  · intro flat
    exact outcome_isCompatible_of_compares noReference comparison present (decided.mpr flat)
  · intro nested
    have wrong : type.compares v = false := Bool.eq_false_iff.mpr (mt decided.mp nested)
    rw [outcome_isCompatible noReference comparison present, wrong, Check.misfit, Check.require,
      if_neg Bool.false_ne_true]
    exact ⟨_, Check.path_failure _ _, rfl⟩

end Catalog

namespace Samples

/-- An album with tags, a grid of numbers, places and ratings. -/
def album : TypeSchema :=
  entity "Album" "albums" [
    marked "id" integer .id,
    plain "tags" (.list text),
    plain "grid" (.list (.list integer)),
    plain "homes" (.list (object "Address")),
    plain "ratings" (.map integer)]

def albums : Catalog where
  registry := .ofTypes [address, album]

/-- The descriptor of albums, which inherit nothing. -/
def albumDescriptor : Descriptor :=
  albums.assemble album none [] []

def albumField (name : String) (type : FieldType) : MappedField :=
  .ofSchema album.name (plain name type)

def albumCompared (field : MappedField) (v : Value) : Except MapError (Bool × List QueryFailure) :=
  ((albums.isCompatible albumDescriptor field field.type .equal (.value v) []).outcome {}).1

/-- Tags without null can be compared; a grid can be stored, and cannot be compared. -/
theorem isCompatible_of_fits_album :
    albumCompared (albumField "tags" (.list text)) (.array [.text "sea", .text "sun"]) =
      .ok (true, []) ∧
    ∃ failure : QueryFailure, failure.path = "grid" ∧
      albumCompared (albumField "grid" (.list (.list integer))) (.array [.array [.integer 1]]) =
        .ok (false, [failure]) := by
  constructor
  · have flat : (FieldType.list text).Flat (.array [.text "sea", .text "sun"]) :=
      (FieldType.flat_array_iff rfl (by decide)).mpr (by decide)
    exact congrArg Prod.fst
      ((Catalog.isCompatible_of_fits rfl rfl rfl (by decide)).1 flat)
  · have nested : ¬ (FieldType.list (.list integer)).Flat (.array [.array [.integer 1]]) :=
      mt (FieldType.flat_array_iff rfl (by decide)).mp (by decide)
    obtain ⟨failure, path, ran⟩ :=
      (@Catalog.isCompatible_of_fits albums albumDescriptor
        (albumField "grid" (.list (.list integer))) _ .equal _ [] {} rfl rfl rfl
        (by decide)).2 nested
    exact ⟨failure, path, congrArg Prod.fst ran⟩

/-- Tags with a null among them fit their field, and a grid of numbers fits its own; neither can be
compared with its field. -/
theorem isCompatible_refuses_stored :
    (albumField "tags" (.list text) ∈ albumDescriptor.fields ∧
      (albumField "tags" (.list text)).isReference = false ∧
      (FieldType.list text).fits (.array [.text "sea", .null]) = true ∧
      (albumCompared (albumField "tags" (.list text))
        (.array [.text "sea", .null])).toOption.map Prod.fst = some false) ∧
    (albumField "grid" (.list (.list integer)) ∈ albumDescriptor.fields ∧
      (albumField "grid" (.list (.list integer))).isReference = false ∧
      (FieldType.list (.list integer)).fits
        (.array [.array [.integer 1, .integer 2], .array [.integer 3]]) = true ∧
      (albumCompared (albumField "grid" (.list (.list integer)))
        (.array [.array [.integer 1, .integer 2], .array [.integer 3]])).toOption.map Prod.fst =
          some false) := by
  decide +kernel

end Samples

namespace Catalog

/-- A value that can be compared with a field fits its type at one of its levels, or is one whose
inside does not matter; all of those can be compared. -/
theorem fits_of_isCompatible (noReference : field.isReference = false)
    (comparison : operator.isComparison = true) (present : v.isNull = false) :
    ((∃ after, ((catalog.isCompatible owner field type operator (.value v) before).outcome
        memory).1 = .ok (true, after)) →
      (∃ level ∈ type.levels, level.fits v = true) ∨ type.Unexamined v) ∧
    (type.Unexamined v →
      (catalog.isCompatible owner field type operator (.value v) before).outcome memory =
        (.ok (true, before), memory)) := by
  constructor
  · rintro ⟨after, accepted⟩
    rw [outcome_isCompatible noReference comparison present] at accepted
    exact FieldType.fits_of_compares (Prod.mk.inj (Except.ok.inj accepted)).1
  · intro free
    exact outcome_isCompatible_of_compares noReference comparison present free.compares

end Catalog

end

namespace Samples

/-- A row of a grid can be compared with it and fits it at a level; a text can be compared with
places. -/
theorem fits_of_isCompatible_album :
    ((∃ level ∈ (FieldType.list (.list integer)).levels,
        level.fits (.array [.integer 1, .integer 2]) = true) ∨
      (FieldType.list (.list integer)).Unexamined (.array [.integer 1, .integer 2])) ∧
    albumCompared (albumField "homes" (.list (object "Address"))) (.text "London") =
      .ok (true, []) := by
  constructor
  · have accepted : albumCompared (albumField "grid" (.list (.list integer)))
        (.array [.integer 1, .integer 2]) = .ok (true, []) :=
      Result.eq_ok_of_toOption (by decide +kernel)
    exact (Catalog.fits_of_isCompatible rfl rfl rfl).1 ⟨[], accepted⟩
  · have free : (FieldType.list (object "Address")).Unexamined (.text "London") :=
      .collection rfl (by rintro kind ⟨⟩)
    exact congrArg Prod.fst ((Catalog.fits_of_isCompatible rfl rfl rfl).2 free)

/-- A text can be compared with a list of places, and a map from texts with one to integers; neither
fits at any level. -/
theorem isCompatible_with_misfits :
    (albumField "homes" (.list (object "Address")) ∈ albumDescriptor.fields ∧
      (albumField "homes" (.list (object "Address"))).isReference = false ∧
      (albumCompared (albumField "homes" (.list (object "Address")))
        (.text "London")).toOption = some (true, []) ∧
      ∀ level ∈ (FieldType.list (object "Address")).levels,
        level.fits (.text "London") = false) ∧
    (albumField "ratings" (.map integer) ∈ albumDescriptor.fields ∧
      (albumField "ratings" (.map integer)).isReference = false ∧
      (albumCompared (albumField "ratings" (.map integer))
        (.document [("ann", .text "high")])).toOption = some (true, []) ∧
      ∀ level ∈ (FieldType.map integer).levels,
        level.fits (.document [("ann", .text "high")]) = false) := by
  decide +kernel

end Samples

end DocMapper
