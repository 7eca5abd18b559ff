import DocMapper.Proofs.Discovery.Lawful
import DocMapper.Proofs.Query.Concatenation

/-!
# Paths to fields

A path is a chain of names with dots between them, and dots are all that keeps the names apart. So
the stored names of fields that lead from a class through embedded objects to a field make a path to
this field if there are no dots in them: among the fields of a class a stored name means one field,
whatever the other fields are called. A path that goes on from a field without embedded objects in
it leads nowhere.

The main result says both of every query on the class.
-/

namespace DocMapper

/-! ### Names on a path -/

/-- Names without dots can be told apart again. -/
private theorem splitOn_intercalate_dots {names : List String} (notEmpty : names ≠ [])
    (plain : ∀ name ∈ names, '.' ∉ name.toList) :
    ((".".intercalate names).toList.splitOn '.').map String.ofList = names := by
  rw [String.toList_intercalate]
  have split : (".".toList.intercalate (names.map String.toList)).splitOn '.' =
      names.map String.toList :=
    List.splitOn_intercalate '.' (by simpa using plain) (by simpa using notEmpty)
  rw [split, List.map_map]
  simp

namespace Criterion

variable {criterion : Criterion} {names : List String}

theorem names_eq (notEmpty : names ≠ []) (plain : ∀ name ∈ names, '.' ∉ name.toList)
    (path : criterion.path = ".".intercalate names) : criterion.names = names := by
  rw [Criterion.names, path, splitOn_intercalate_dots notEmpty plain]

/-- What stands behind the names on a path comes behind them. -/
theorem names_append {rest : String} (notEmpty : names ≠ [])
    (plain : ∀ name ∈ names, '.' ∉ name.toList)
    (path : criterion.path = ".".intercalate names ++ "." ++ rest) :
    criterion.names = names ++ (rest.toList.splitOn '.').map String.ofList := by
  have path : criterion.path.toList = (".".intercalate names).toList ++ '.' :: rest.toList := by
    simp [path]
  rw [Criterion.names, path, List.splitOn_append_cons_self, List.map_append,
    splitOn_intercalate_dots notEmpty plain]

end Criterion

namespace Catalog

/-! ### Chains of fields -/

/-- The fields lead from a class to a field of a class: each but the last holds embedded objects, of
a class that has the next. -/
inductive Leads (catalog : Catalog) :
    Descriptor → List MappedField → Descriptor → MappedField → Prop
  | last {owner : Descriptor} {field : MappedField} (member : field ∈ owner.fields) :
      Leads catalog owner [field] owner field
  | through {root next owner : Descriptor} {first field : MappedField} {rest : List MappedField}
      {target : ClassName} (member : first ∈ root.fields) (embeds : first.isReference = false)
      (isTarget : first.target? = some target) (described : catalog.Describes target next)
      (leads : Leads catalog next rest owner field) :
      Leads catalog root (first :: rest) owner field

variable {catalog : Catalog} {name : ClassName} {root owner : Descriptor} {field : MappedField}
  {fields : List MappedField} {memory : Memory} {criterion : Criterion}
  {found : List QueryFailure}

/-! ### One step along a path -/

/-- A stored name of a class means the field that is stored under it. -/
theorem fieldAt_storedName (described : catalog.Describes name owner)
    (member : field ∈ owner.fields) (more : List String) :
    catalog.fieldAt owner (field.storedName :: more) =
      if more.isEmpty then pure (some (owner, field))
      else
        match field.target? with
        | none => pure none
        | some target =>
          if field.isReference then pure none
          else catalog.describe target >>= fun next => catalog.fieldAt next more := by
  rw [fieldAt, described.storedField?_eq member]
  rfl

theorem answer_fieldAt_last (described : catalog.Describes name owner)
    (member : field ∈ owner.fields) :
    answer (catalog.fieldAt owner [field.storedName]) = .ok (some (owner, field)) := by
  rw [fieldAt_storedName described member]
  rfl

/-- Where the field embeds objects of another class, the path goes on there. -/
theorem answer_fieldAt_through (described : catalog.Describes name root)
    (member : field ∈ root.fields) (embeds : field.isReference = false) {target : ClassName}
    (isTarget : field.target? = some target) {next : Descriptor}
    (described' : catalog.Describes target next) {more : List String} (notEmpty : more ≠ []) :
    answer (catalog.fieldAt root (field.storedName :: more)) =
      answer (catalog.fieldAt next more) := by
  have onward : ¬ more.isEmpty = true := by simpa using notEmpty
  rw [fieldAt_storedName described member, if_neg onward, isTarget]
  simp only [embeds, Bool.false_eq_true, if_false]
  rw [(steady_describe target).answer_bind fun next _ => steady_fieldAt next more,
    described'.answer_eq, Result.ok_bind]

theorem answer_fieldAt_below (described : catalog.Describes name owner)
    (member : field ∈ owner.fields) (ends : field.isReference = true ∨ field.target? = none)
    {more : List String} (notEmpty : more ≠ []) :
    answer (catalog.fieldAt owner (field.storedName :: more)) = .ok none := by
  have onward : ¬ more.isEmpty = true := by simpa using notEmpty
  rw [fieldAt_storedName described member, if_neg onward]
  cases isTarget : field.target? with
  | none => rfl
  | some target =>
    have reference : field.isReference = true := ends.resolve_right (by simp [isTarget])
    simp [reference]

/-! ### Whole paths -/

namespace Leads

theorem ne_nil (leads : catalog.Leads root fields owner field) : fields ≠ [] := by
  cases leads <;> simp

/-- The last field belongs to the class that it is said to belong to, and this class can be
described as well. -/
theorem exists_describes (leads : catalog.Leads root fields owner field)
    (described : catalog.Describes name root) :
    field ∈ owner.fields ∧ ∃ last, catalog.Describes last owner := by
  induction leads generalizing name with
  | last member => exact ⟨member, name, described⟩
  | through _ _ _ described' _ ih => exact ih described'

/-- Walking along the stored names of a chain gets to the class of the last field. -/
theorem answer_fieldAt (leads : catalog.Leads root fields owner field)
    (described : catalog.Describes name root) (more : List String) :
    answer (catalog.fieldAt root (fields.map MappedField.storedName ++ more)) =
      answer (catalog.fieldAt owner (field.storedName :: more)) := by
  induction leads generalizing name with
  | last => rfl
  | through member embeds isTarget described' leads ih =>
    rw [← ih described', List.map_cons, List.cons_append]
    exact answer_fieldAt_through described member embeds isTarget described'
      (by simp [leads.ne_nil])

theorem answer_names (leads : catalog.Leads root fields owner field)
    (described : catalog.Describes name root)
    (plain : ∀ one ∈ fields, '.' ∉ one.storedName.toList)
    (path : criterion.path = ".".intercalate (fields.map MappedField.storedName)) :
    answer (catalog.fieldAt root criterion.names) = .ok (some (owner, field)) := by
  obtain ⟨member, last, describedLast⟩ := leads.exists_describes described
  rw [Criterion.names_eq (by simpa using leads.ne_nil) (by simpa using plain) path,
    ← List.append_nil (fields.map _), leads.answer_fieldAt described,
    answer_fieldAt_last describedLast member]

/-- A path that goes on behind a field without embedded objects leads nowhere. -/
theorem answer_names_below (leads : catalog.Leads root fields owner field)
    (described : catalog.Describes name root)
    (plain : ∀ one ∈ fields, '.' ∉ one.storedName.toList)
    (ends : field.isReference = true ∨ field.target? = none) {rest : String}
    (path : criterion.path =
      ".".intercalate (fields.map MappedField.storedName) ++ "." ++ rest) :
    answer (catalog.fieldAt root criterion.names) = .ok none := by
  obtain ⟨member, last, describedLast⟩ := leads.exists_describes described
  rw [Criterion.names_append (by simpa using leads.ne_nil) (by simpa using plain) path,
    leads.answer_fieldAt described]
  exact answer_fieldAt_below describedLast member ends (by simp [List.splitOn_ne_nil])

end Leads

/-! ### Queries on paths -/

/-- A criterion whose path leads to a field has the failures that the check of this field finds. -/
theorem answer_validate_of_field (described : catalog.Describes name root)
    (resolved : answer (catalog.fieldAt root criterion.names) = .ok (some (owner, field))) :
    ∃ accepted found,
      answer ((criterion.check field).run catalog owner.className []) = .ok (accepted, found) ∧
      answer (catalog.validate name [criterion]) = .ok found := by
  obtain ⟨added, -, -, ran, -⟩ :=
    catalog.answer_isCompatible owner field field.type criterion.operator criterion.value
  have checked : answer ((criterion.check field).run catalog owner.className []) =
      .ok (added.isEmpty, added.behind criterion.path []) := ran criterion.path []
  refine ⟨_, _, checked, answer_validate_singleton.mpr ⟨root, described, ?_⟩⟩
  rw [answer_checkCriterion, resolved]
  simp only [Result.ok_bind, checked]
  rfl

theorem answer_validate_of_none (described : catalog.Describes name root)
    (resolved : answer (catalog.fieldAt root criterion.names) = .ok none) :
    answer (catalog.validate name [criterion]) = .ok [criterion.notFound name] := by
  refine answer_validate_singleton.mpr ⟨root, described, ?_⟩
  rw [answer_checkCriterion, resolved]
  rfl

/-- Whatever correct descriptors are kept: a path of stored names without dots leads to the last
field of their chain, where the value is checked, so no failure of any query reports that this path
leads nowhere. A path that goes on behind a reference or a field that names no class leads nowhere,
which every query with it reports. -/
theorem paths_lead (described : catalog.Describes name root)
    (leads : catalog.Leads root fields owner field)
    (plain : ∀ one ∈ fields, '.' ∉ one.storedName.toList) (sound : memory.Sound catalog) :
    let path := ".".intercalate (fields.map MappedField.storedName)
    (∀ criterion : Criterion, criterion.path = path →
      ((catalog.fieldAt root criterion.names).outcome memory).1 = .ok (some (owner, field)) ∧
      ∃ accepted found,
        (((criterion.check field).run catalog owner.className []).outcome memory).1 =
          .ok (accepted, found) ∧
        ((catalog.validate name [criterion]).outcome memory).1 = .ok found) ∧
    (∀ criteria found, ((catalog.validate name criteria).outcome memory).1 = .ok found →
      ∀ failure ∈ found, failure.path = path → ¬ failure.ReportsNotFound) ∧
    (field.isReference = true ∨ field.target? = none →
      ∀ (criterion : Criterion) (rest : String), criterion.path = path ++ "." ++ rest →
        ((catalog.validate name [criterion]).outcome memory).1 =
          .ok [criterion.notFound name] ∧
        ∀ criteria found, ((catalog.validate name criteria).outcome memory).1 = .ok found →
          criterion ∈ criteria → criterion.notFound name ∈ found) := by
  intro path
  refine ⟨fun criterion isPath => ?_, fun criteria found validated failure member isPath => ?_,
    fun ends criterion rest isPath => ?_⟩
  · have resolved := leads.answer_names described plain isPath
    obtain ⟨accepted, found, checked, validated⟩ := answer_validate_of_field described resolved
    exact ⟨((steady_fieldAt _ _).result_eq sound).trans resolved, accepted, found,
      ((steady_run _ _ _).result_eq sound).trans checked,
      ((steady_validate name _).result_eq sound).trans validated⟩
  · rw [(steady_validate name criteria).result_eq sound] at validated
    obtain ⟨criterion, -, part, alone, inPart⟩ := exists_criterion_of_mem validated member
    obtain ⟨root', described', answered⟩ := answer_validate_singleton.mp alone
    obtain rfl := described.unique described'
    have contributes := contributes_of_answer answered
    have ownPath : criterion.path = path := (contributes.labels failure inPart).1 ▸ isPath
    have resolved := leads.answer_names described plain ownPath
    cases contributes with
    | notFound nowhere => exact absurd (resolved.symm.trans nowhere.answer_eq) (by simp)
    | checked _ _ _ _ reported => exact reported failure inPart
  · have alone := answer_validate_of_none described
      (leads.answer_names_below described plain ends isPath)
    refine ⟨((steady_validate name _).result_eq sound).trans alone, ?_⟩
    intro criteria found validated member
    rw [(steady_validate name criteria).result_eq sound] at validated
    exact subset_of_mem_criteria validated member alone List.mem_cons_self

end Catalog

namespace Samples

private def authorHome : MappedField :=
  .ofSchema author.name (marked "home" (object "Address") .embedded)

private def addressCity : MappedField := .ofSchema address.name (plain "city" text)

/-- Authors can be asked for by the cities that they live in, but not by anything in these. -/
theorem paths_lead_city :
    let catalog : Catalog := { registry := library }
    let city : Criterion := { path := "home.city", value := .value (.integer 12) }
    let district : Criterion := { path := "home.city.district", value := .value (.text "east") }
    (∃ owner field, ((catalog.fieldAt (catalog.assemble author none [] []) city.names).outcome
        (catalog.asked [book.name])).1 = .ok (some (owner, field)) ∧
      owner.className = address.name ∧ field.storedName = "city") ∧
    ((catalog.validate author.name [district]).outcome (catalog.asked [book.name])).1 =
      .ok [district.notFound author.name] := by
  intro catalog city district
  have authors : catalog.Describes author.name (catalog.assemble author none [] []) :=
    Catalog.describes_alone rfl (by decide) rfl rfl rfl rfl rfl
  have addresses : catalog.Describes address.name (catalog.assemble address none [] []) :=
    Catalog.describes_alone rfl (by decide) rfl rfl rfl rfl rfl
  have leads : catalog.Leads (catalog.assemble author none [] []) [authorHome, addressCity]
      (catalog.assemble address none [] []) addressCity :=
    .through (by decide) rfl rfl addresses (.last (by decide))
  obtain ⟨resolves, -, below⟩ := Catalog.paths_lead authors leads (by decide)
    (catalog.sound_asked [book.name])
  exact ⟨⟨_, _, (resolves city rfl).1, rfl, rfl⟩, (below (.inr rfl) district "district" rfl).1⟩

def stage : TypeSchema where
  name := ⟨"Stage"⟩
  annotations := [.embedded {}]
  fields := [plain "to" (object "Address")]

/-- A trip with dots in stored names. The one of the guide is also the way from the leg of the trip
to where it leads. -/
def trip : TypeSchema :=
  entity "Trip" "trips" [
    marked "id" integer .id,
    marked "note" text (.property "side.note"),
    plain "leg" (object "Stage"),
    { name := "guide", type := object "Author"
      annotations := [.reference {}, .property "leg.to"] }]

def trips : Catalog where
  registry := .ofTypes [address, author, stage, trip]

/-- With dots in stored names, a path of stored names is reported to lead nowhere, and one that goes
on behind a reference is not. -/
theorem trips_astray :
    (∃ root fields field, trips.Describes trip.name root ∧ trips.Leads root fields root field ∧
      ∃ criterion : Criterion,
        criterion.path = ".".intercalate (fields.map MappedField.storedName) ∧
        ((trips.validate trip.name [criterion]).outcome {}).1 =
          .ok [criterion.notFound trip.name]) ∧
    (∃ root fields field, trips.Describes trip.name root ∧ trips.Leads root fields root field ∧
      field.isReference = true ∧ ∃ (criterion : Criterion) (rest : String),
        criterion.path = ".".intercalate (fields.map MappedField.storedName) ++ "." ++ rest ∧
        ((trips.validate trip.name [criterion]).outcome {}).1 = .ok []) := by
  let note : MappedField := .ofSchema trip.name (marked "note" text (.property "side.note"))
  let guide : MappedField := .ofSchema trip.name
    { name := "guide", type := object "Author", annotations := [.reference {}, .property "leg.to"] }
  have described : trips.Describes trip.name (trips.assemble trip none [] []) :=
    Catalog.describes_alone rfl (by decide) rfl rfl rfl rfl (by decide +kernel)
  constructor
  · exact ⟨_, [note], note, described, .last (by decide),
      { path := "side.note", value := .value (.text "scenic") }, rfl,
      Result.eq_ok_of_toOption (by decide +kernel)⟩
  · exact ⟨_, [guide], guide, described, .last (by decide), by decide,
      { path := "leg.to.city", value := .value (.text "Lisbon") }, "city", rfl,
      Result.eq_ok_of_toOption (by decide +kernel)⟩

end Samples

end DocMapper
