import Mathlib.Logic.Function.Basic
import DocMapper.Proofs.Datastore.Ledger

/-!
# Versions guard against lost updates

Any number of clients work on entities of one class, each on copies of its own. A step is a whole
call, or a client changing its copies as it likes. What is shared is the world; a history of the
saves into the collection of the class is kept beside it.

Where the version is a field of its own, the history of every identity leads from no version to 1,
from there to 2, and so on, so that no two saves were of one stored version (`Orderly`). Where it is
the identity at the same time, the first save already stores its entity under another identity than
it reports. In both cases a copy of another version than the stored one is refused.
-/

namespace DocMapper

/-- A save, by the identity that it reported, and the version stored under it before and after. -/
structure Advance where
  id : Value
  before : Option Int64
  after : Option Int64
deriving DecidableEq

namespace Advance

def numbers (advance : Advance) : Option Int × Option Int :=
  (advance.before.map Int64.toInt, advance.after.map Int64.toInt)

def under (id : Value) (history : List Advance) : List Advance :=
  history.filter (·.id = id)

end Advance

/-- The version after some number of saves: none, then 1, 2 and so on. -/
def ordinal : Nat → Option Int
  | 0 => none
  | n + 1 => some (n + 1)

/-- Every identity went from no version to 1, from 1 to 2, and so on. -/
structure Orderly (history : List Advance) : Prop where
  counts : ∀ id, (Advance.under id history).map Advance.numbers =
    (List.range (Advance.under id history).length).map fun n => (ordinal n, ordinal (n + 1))
  /-- From one stored version there was at most one save. -/
  once : (history.map fun advance => (advance.id, advance.before)).Nodup

/-- The world that clients share, their copies, and the saves into the collection of the class. -/
structure Shared (Client : Type) where
  world : World
  copies : Client → List Entity
  history : List Advance := []

/-- What a client does next. -/
inductive ClientStep (Client : Type) where
  /-- It makes and changes copies of its own. -/
  | change (client : Client) (copies : List Entity)
  | load (client : Client) (name : ClassName) (id : Value)
  | search (client : Client) (name : ClassName) (filter : Filter)
  | save (client : Client) (place : Nat)

/-- The version stored under an identity of a class. -/
def World.versionAt (world : World) (descriptor : Descriptor) (field : MappedField) (id : Value) :
    Option Int64 :=
  (world.store.collections.findFirst descriptor.collection (.idEq id)).toOption.join.bind
    (Mapper.storedVersion field)

namespace Mapper

/-- What a save adds to the history of a class. -/
def advances (descriptor : Descriptor) (field : MappedField) (before after : World) :
    Except MapError Key → List Advance
  | .ok key =>
    if key.collection = descriptor.collection then
      [⟨key.id, before.versionAt descriptor field key.id, after.versionAt descriptor field key.id⟩]
    else []
  | .error _ => []

section

variable {Client : Type} [DecidableEq Client]

/-- One step of one client. What it finds is added to its copies, and what a save leaves of a copy
takes its place. -/
def clientStep (mapper : Mapper) (descriptor : Descriptor) (field : MappedField)
    (shared : Shared Client) : ClientStep Client → Shared Client
  | .change client copies =>
    { shared with copies := Function.update shared.copies client copies }
  | .load client name id =>
    let (result, world) := (mapper.get name id).outcome shared.world
    { shared with
      world
      copies := Function.update shared.copies client
        (shared.copies client ++ result.toOption.join.toList) }
  | .search client name filter =>
    let (result, world) := (mapper.find name filter).outcome shared.world
    { shared with
      world
      copies := Function.update shared.copies client
        (shared.copies client ++ result.toOption.getD []) }
  | .save client place =>
    match (shared.copies client)[place]? with
    | none => shared
    | some copy =>
      let (result, world, left) := mapper.save.outcome (shared.world, copy)
      { world
        copies := Function.update shared.copies client ((shared.copies client).set place left)
        history := shared.history ++ advances descriptor field shared.world world result }

/-- A copy may be saved if it is of the class, carries no version that cannot be counted up, and its
document can be read again, or if it goes into another collection. -/
def MaySave (mapper : Mapper) (descriptor : Descriptor) (field : MappedField) (world : World)
    (copy : Entity) : Prop :=
  (copy.className = descriptor.className ∧ carriedVersion field copy ≠ some Int64.maxValue ∧
    ∀ doc, Catalog.answer (mapper.catalog.document (mapper.save.outcome (world, copy)).2.2) =
      .ok doc → Cbor.Storable doc) ∨
  ∀ found, mapper.catalog.Describes copy.className found →
    found.collection ≠ descriptor.collection

/-- What clients can come to share, starting from an empty collection. -/
inductive Shares (mapper : Mapper) (descriptor : Descriptor) (field : MappedField) :
    Shared Client → Prop
  | start {world : World} {copies : Client → List Entity} (ready : world.Ready mapper.catalog)
      (empty : world.store.collections.documents descriptor.collection = []) :
      Shares mapper descriptor field { world, copies }
  | next {shared : Shared Client} {step : ClientStep Client}
      (shares : Shares mapper descriptor field shared)
      (may : ∀ client place copy, step = .save client place →
        (shared.copies client)[place]? = some copy →
          mapper.MaySave descriptor field shared.world copy) :
      Shares mapper descriptor field (mapper.clientStep descriptor field shared step)

end

/-- The mapper has no hooks, and the class is an entity class with a version. -/
structure Guards (mapper : Mapper) (descriptor : Descriptor) (field : MappedField) : Prop where
  plain : mapper.Plain
  described : mapper.catalog.Describes descriptor.className descriptor
  isEntity : descriptor.isEntity = true
  isVersion : descriptor.versionField? = some field
  names : (descriptor.fields.map MappedField.name).Nodup
  apart : mapper.catalog.options.classNameKey ≠ idField

/-! ### Histories -/

end Mapper

section Histories

variable {history : List Advance} {advance : Advance} {id : Value}

/-- The saves under the identity of another save are as many as before it. -/
theorem Advance.under_append_of_ne (differs : advance.id ≠ id) :
    Advance.under id (history ++ [advance]) = Advance.under id history := by
  simp [Advance.under, List.filter_append, differs]

theorem Advance.under_append_self :
    Advance.under advance.id (history ++ [advance]) =
      Advance.under advance.id history ++ [advance] := by
  simp [Advance.under, List.filter_append]

theorem ordinal_injective : Function.Injective ordinal := by
  intro m n same
  cases m <;> cases n <;> simp_all [ordinal]

theorem counts_append (counts : ∀ id, (Advance.under id history).map Advance.numbers =
      (List.range (Advance.under id history).length).map fun n => (ordinal n, ordinal (n + 1)))
    (next : advance.numbers = (ordinal (Advance.under advance.id history).length,
      ordinal ((Advance.under advance.id history).length + 1))) (id : Value) :
    (Advance.under id (history ++ [advance])).map Advance.numbers =
      (List.range (Advance.under id (history ++ [advance])).length).map fun n =>
        (ordinal n, ordinal (n + 1)) := by
  by_cases here : advance.id = id
  · subst here
    rw [Advance.under_append_self, List.map_append, counts, List.length_append,
      List.length_singleton, List.range_succ, List.map_append, List.map_singleton,
      List.map_singleton, next]
  · rw [Advance.under_append_of_ne here]
    exact counts id

/-- Saves that count on are never of the same stored version twice. -/
theorem Orderly.of_counts (counts : ∀ id, (Advance.under id history).map Advance.numbers =
      (List.range (Advance.under id history).length).map fun n => (ordinal n, ordinal (n + 1))) :
    Orderly history := by
  refine ⟨counts, ?_⟩
  rw [List.Nodup, List.pairwise_map, List.pairwise_iff_forall_sublist]
  intro first second within same
  obtain ⟨sameId, sameVersion⟩ := Prod.mk.inj same
  have both : [first, second].Sublist (Advance.under first.id history) := by
    have filtered := within.filter (·.id = first.id)
    simpa [Advance.under, sameId] using filtered
  have apart : ((Advance.under first.id history).map fun advance =>
      advance.before.map Int64.toInt).Nodup := by
    have befores := congrArg (List.map Prod.fst) (counts first.id)
    rw [List.map_map, List.map_map] at befores
    have shape : ((Advance.under first.id history).map fun advance =>
        advance.before.map Int64.toInt) =
          (List.range (Advance.under first.id history).length).map ordinal := befores
    rw [shape]
    exact List.nodup_range.map ordinal_injective
  have pair := (both.map fun advance => advance.before.map Int64.toInt).nodup apart
  simp [sameVersion] at pair

/-- The first save of an orderly history stores version 1 under its identity. -/
theorem Orderly.after_ne_none {rest : List Advance} (orderly : Orderly (advance :: rest)) :
    advance.after ≠ none := by
  intro unset
  have counts := orderly.counts advance.id
  have head : Advance.under advance.id (advance :: rest) =
      advance :: Advance.under advance.id rest := by
    simp [Advance.under]
  rw [head, List.length_cons, List.range_succ_eq_map, List.map_cons, List.map_cons] at counts
  have first := (List.cons.inj counts).1
  simp [Advance.numbers, unset, ordinal] at first

end Histories

/-- Counting up is adding one, short of the largest version. -/
theorem toInt_add_one {version : Int64} (small : version ≠ Int64.maxValue) :
    (version + 1).toInt = version.toInt + 1 := by
  have differs : version.toInt ≠ Int64.maxValue.toInt := fun same => small (Int64.toInt_inj.mp same)
  have upper := version.toInt_le
  have lower := version.le_toInt
  have top : Int64.maxValue.toInt = 2 ^ 63 - 1 := by decide
  have one : (1 : Int64).toInt = 1 := by decide
  rw [Int64.toInt_add, one]
  apply Int.bmod_eq_of_le <;> omega

/-- The version after one that so many saves have led to. -/
theorem toInt_next {version : Option Int64} {n : Nat} (small : version ≠ some Int64.maxValue)
    (reached : version.map Int64.toInt = ordinal n) : (version.getD 0 + 1).toInt = n + 1 := by
  cases version with
  | none =>
    cases n with
    | zero => decide
    | succ n => cases reached
  | some version =>
    cases n with
    | zero => cases reached
    | succ n =>
      have number : version.toInt = n + 1 := Option.some.inj reached
      rw [Option.getD_some, toInt_add_one fun same => small (congrArg some same), number]
      rfl

namespace Mapper

variable {mapper : Mapper} {descriptor : Descriptor} {field : MappedField}

/-! ### The invariant -/

/-- Documents are in order, and the history of the class is as its version field lets it be. -/
structure Versioned (mapper : Mapper) (descriptor : Descriptor) (field : MappedField)
    (world : World) (history : List Advance) : Prop where
  ready : world.Ready mapper.catalog
  intact : Collections.Intact (world.store.collections.documents descriptor.collection)
  /-- The stored version of an identity is the last one of its history. -/
  current : field.isId = false → ∀ id, (world.versionAt descriptor field id).map Int64.toInt =
    ordinal (Advance.under id history).length
  counts : field.isId = false → ∀ id, (Advance.under id history).map Advance.numbers =
    (List.range (Advance.under id history).length).map fun n => (ordinal n, ordinal (n + 1))
  /-- A version that is the identity as well goes astray with the first save. -/
  unsaved : field.isId = true → history = [] →
    world.store.collections.documents descriptor.collection = []
  astray : field.isId = true → ∀ first rest, history = first :: rest → first.after = none

section

variable {world after : World} {history : List Advance} {copy left : Entity} {key : Key}
  {id : Value}

theorem versionAt_eq (intact : Collections.Intact
    (world.store.collections.documents descriptor.collection)) (id : Value) :
    world.versionAt descriptor field id = (Collections.documentAt?
      (world.store.collections.documents descriptor.collection) id).bind (storedVersion field) := by
  rw [World.versionAt, Collections.findFirst_idEq intact]
  rfl

/-- The version that is stored depends on the collection of the class alone. -/
theorem versionAt_congr
    (same : after.store.collections.documents descriptor.collection =
      world.store.collections.documents descriptor.collection) (id : Value) :
    after.versionAt descriptor field id = world.versionAt descriptor field id := by
  have found : after.store.collections.findFirst descriptor.collection (.idEq id) =
      world.store.collections.findFirst descriptor.collection (.idEq id) := by
    rw [Collections.findFirst, Collections.find, same]
    rfl
  rw [World.versionAt, found]
  rfl

namespace Versioned

/-- What leaves the collection of the class alone adds nothing to its history. -/
theorem of_documents_eq (versioned : mapper.Versioned descriptor field world history)
    (ready : after.Ready mapper.catalog)
    (same : after.store.collections.documents descriptor.collection =
      world.store.collections.documents descriptor.collection) :
    mapper.Versioned descriptor field after history := by
  refine ⟨ready, ?_, ?_, versioned.counts, ?_, versioned.astray⟩
  · rw [same]
    exact versioned.intact
  · intro noId id
    rw [versionAt_congr same]
    exact versioned.current noId id
  · rw [same]
    exact versioned.unsaved

theorem of_keeps (versioned : mapper.Versioned descriptor field world history)
    (keeps : world.Keeps mapper.catalog after) :
    mapper.Versioned descriptor field after history :=
  versioned.of_documents_eq keeps.ready (by rw [keeps.collections])

/-- A save of a class with its version in a field of its own counts the version up, under the
identity that it reports, and no other. -/
theorem versionAt_saved (guards : mapper.Guards descriptor field)
    (versioned : mapper.Versioned descriptor field world history)
    (isClass : copy.className = descriptor.className) (noId : field.isId = false)
    (saved : mapper.Saved world copy key after left)
    (storable : ∀ doc, Catalog.answer (mapper.catalog.document left) = .ok doc → Cbor.Storable doc)
    (id : Value) :
    after.versionAt descriptor field id =
      if id = key.id then some ((carriedVersion field copy).getD 0 + 1)
      else world.versionAt descriptor field id := by
  have described : mapper.catalog.Describes copy.className descriptor := isClass ▸ guards.described
  obtain ⟨sameClass, doc, stored, encoded, identity, isStored, same⟩ :=
    saved.wrote described guards.apart
  have follows := saved.follows described guards.names fun other isVersion => by
    rwa [Option.some.inj (isVersion.symm.trans guards.isVersion)]
  obtain rfl : key.id = stored := Option.some.inj (follows.identity.symm.trans isStored)
  have version := storedVersion_document (sameClass.symm ▸ described) guards.isVersion noId
    (follows.version field guards.isVersion) encoded
  have holds := Collections.holds_write (storable doc encoded) identity
  have here : after.store.collections.documents descriptor.collection = Collections.put
      ⟨key.id, Cbor.write doc⟩ (world.store.collections.documents descriptor.collection) := by
    rw [same, Collections.documents_insert_self]
  have intact : Collections.Intact
      (after.store.collections.documents descriptor.collection) := by
    rw [here]
    exact versioned.intact.put holds
  rw [versionAt_eq intact, versionAt_eq versioned.intact, here, Collections.documentAt?_put holds]
  split
  · exact version
  · rfl

theorem versionAt_eq_carried (guards : mapper.Guards descriptor field)
    (isClass : copy.className = descriptor.className)
    (saved : mapper.Saved world copy key after left) :
    world.versionAt descriptor field key.id = carriedVersion field copy := by
  obtain ⟨found, searched, current⟩ :=
    saved.current (isClass ▸ guards.described) guards.names guards.isVersion
  rw [World.versionAt, searched]
  exact current

theorem intact_saved (guards : mapper.Guards descriptor field)
    (versioned : mapper.Versioned descriptor field world history)
    (isClass : copy.className = descriptor.className)
    (saved : mapper.Saved world copy key after left)
    (storable : ∀ doc, Catalog.answer (mapper.catalog.document left) = .ok doc →
      Cbor.Storable doc) :
    Collections.Intact (after.store.collections.documents descriptor.collection) := by
  obtain ⟨-, doc, stored, encoded, identity, -, same⟩ :=
    saved.wrote (isClass ▸ guards.described) guards.apart
  rw [same, Collections.documents_insert_self]
  exact versioned.intact.put (Collections.holds_write (storable doc encoded) identity)

/-- Without a version to carry, a version that is the identity as well is saved under another
identity than is reported. -/
theorem idValue?_ne_of_isId (guards : mapper.Guards descriptor field)
    (isClass : copy.className = descriptor.className) (isId : field.isId = true)
    (saved : mapper.Saved world copy key after left)
    (uncarried : carriedVersion field copy = none) : descriptor.idValue? left ≠ some key.id := by
  have described : mapper.catalog.Describes copy.className descriptor := isClass ▸ guards.described
  have marked :=
    guards.described.idField?_eq (Descriptor.versionField?_spec guards.isVersion).1 isId
  cases saved with
  | @intro _ id named _ doc _ described' isEntity identified advanced encoded stored ready =>
    obtain rfl := described.unique described'
    cases advanced with
    | unversioned unversioned => simp [guards.isVersion] at unversioned
    | counted isVersion searched current =>
      obtain rfl := Option.some.inj (guards.isVersion.symm.trans isVersion)
      intro same
      rw [Catalog.idValue?_eq marked, Entity.value?, Entity.get?_set_self] at same
      have isInteger : Value.integer ((carriedVersion field named).getD 0 + 1) = id :=
        Option.some.inj same
      have held := identified.idValue?_eq
      rw [Catalog.idValue?_eq marked, Option.filter_eq_some_iff] at held
      have carried : carriedVersion field named = id.asInteger? := by
        rw [carriedVersion, held.1]
        rfl
      rw [identified.carriedVersion_eq described guards.names guards.isVersion, uncarried,
        ← isInteger] at carried
      cases carried

/-- The first save of a version that is the identity as well leaves nothing under the identity that
it reports. -/
theorem versionAt_astray (guards : mapper.Guards descriptor field)
    (empty : world.store.collections.documents descriptor.collection = [])
    (isClass : copy.className = descriptor.className) (isId : field.isId = true)
    (saved : mapper.Saved world copy key after left)
    (storable : ∀ doc, Catalog.answer (mapper.catalog.document left) = .ok doc →
      Cbor.Storable doc) :
    after.versionAt descriptor field key.id = none := by
  have nothing : Collections.Intact
      (world.store.collections.documents descriptor.collection) := by
    rw [empty]
    exact ⟨.nil, by simp⟩
  have uncarried : carriedVersion field copy = none := by
    rw [← versionAt_eq_carried guards isClass saved, versionAt_eq nothing, empty]
    rfl
  have astray := idValue?_ne_of_isId guards isClass isId saved uncarried
  obtain ⟨-, doc, stored, encoded, identity, isStored, same⟩ :=
    saved.wrote (isClass ▸ guards.described) guards.apart
  have holds := Collections.holds_write (storable doc encoded) identity
  have here : after.store.collections.documents descriptor.collection = Collections.put
      ⟨stored, Cbor.write doc⟩ (world.store.collections.documents descriptor.collection) := by
    rw [same, Collections.documents_insert_self]
  have elsewhere : key.id ≠ stored := by
    rintro rfl
    exact astray isStored
  rw [versionAt_eq (here ▸ nothing.put holds), here, Collections.documentAt?_put holds,
    if_neg elsewhere, empty]
  rfl

/-- A save of the class is the next step of its history. -/
theorem append (guards : mapper.Guards descriptor field)
    (versioned : mapper.Versioned descriptor field world history)
    (isClass : copy.className = descriptor.className)
    (small : carriedVersion field copy ≠ some Int64.maxValue)
    (saved : mapper.Saved world copy key after left) (ready : after.Ready mapper.catalog)
    (storable : ∀ doc, Catalog.answer (mapper.catalog.document left) = .ok doc → Cbor.Storable doc)
    {advance : Advance} (reported : advance.id = key.id)
    (isBefore : advance.before = world.versionAt descriptor field key.id)
    (isAfter : advance.after = after.versionAt descriptor field key.id) :
    mapper.Versioned descriptor field after (history ++ [advance]) := by
  have carried := versionAt_eq_carried guards isClass saved
  have stored := fun noId => versionAt_saved guards versioned isClass noId saved storable
  have grown : (Advance.under key.id (history ++ [advance])).length =
      (Advance.under key.id history).length + 1 := by
    rw [← reported, Advance.under_append_self, List.length_append, List.length_singleton]
  have next : field.isId = false → ((carriedVersion field copy).getD 0 + 1).toInt =
      (Advance.under key.id history).length + 1 := by
    intro noId
    exact toInt_next small (carried ▸ versioned.current noId key.id)
  refine ⟨ready, intact_saved guards versioned isClass saved storable, ?_, ?_, ?_, ?_⟩
  · intro noId id
    rw [stored noId]
    split
    next here => rw [here, grown, Option.map_some, next noId, ordinal]
    next elsewhere =>
      rw [Advance.under_append_of_ne (reported ▸ Ne.symm elsewhere)]
      exact versioned.current noId id
  · intro noId
    apply counts_append (versioned.counts noId)
    rw [Advance.numbers, isBefore, isAfter, reported, versioned.current noId, stored noId,
      if_pos rfl, Option.map_some, next noId]
    rfl
  · intro _ none
    simp at none
  · intro isId first rest same
    cases history with
    | nil =>
      cases same
      rw [isAfter]
      exact versionAt_astray guards (versioned.unsaved isId rfl) isClass isId saved storable
    | cons earliest others =>
      cases same
      exact versioned.astray isId first others rfl

/-- Every save is the next step of the history, or does not touch it. -/
theorem save (guards : mapper.Guards descriptor field)
    (versioned : mapper.Versioned descriptor field world history)
    (may : mapper.MaySave descriptor field world copy) {result : Except MapError Key}
    (ran : mapper.save.outcome (world, copy) = (result, (after, left))) :
    mapper.Versioned descriptor field after
      (history ++ advances descriptor field world after result) := by
  rcases guards.plain.outcome_save versioned.ready ran with ⟨key, rfl, saved⟩ | ⟨_, rfl, keeps, -⟩
  swap
  · rw [advances, List.append_nil]
    exact versioned.of_keeps keeps
  have written := saved
  cases saved with
  | @intro found id named _ doc _ described isEntity identified advanced encoded stored ready =>
    rcases may with ⟨isClass, small, storable⟩ | elsewhere
    · obtain rfl := guards.described.unique (isClass ▸ described)
      rw [ran] at storable
      rw [advances, if_pos rfl]
      exact versioned.append guards isClass small written ready storable rfl rfl rfl
    · have apart := elsewhere found described
      obtain ⟨_, -, same⟩ := Collections.save_eq_ok.mp stored
      rw [advances, if_neg apart, List.append_nil]
      exact versioned.of_documents_eq ready
        (by rw [same, Collections.documents_insert_of_ne apart.symm])

end Versioned

end

/-! ### Runs -/

section

variable {Client : Type} [DecidableEq Client] {shared : Shared Client}

/-- Every run of every number of clients keeps the history right. -/
theorem Shares.versioned (guards : mapper.Guards descriptor field)
    (shares : mapper.Shares descriptor field shared) :
    mapper.Versioned descriptor field shared.world shared.history := by
  induction shares with
  | @start world copies ready empty =>
    have intact : Collections.Intact
        (world.store.collections.documents descriptor.collection) := by
      rw [empty]
      exact ⟨.nil, by simp⟩
    refine ⟨ready, intact, fun _ id => ?_, fun _ _ => rfl, fun _ _ => empty, ?_⟩
    · rw [versionAt_eq intact, empty]
      rfl
    · intro _ first rest none
      cases none
  | @next shared step _ may ih =>
    cases step with
    | change client copies => exact ih
    | load client name id =>
      exact ih.of_keeps (guards.plain.looks_get name id shared.world ih.ready).1
    | search client name filter =>
      exact ih.of_keeps (guards.plain.looks_find name filter shared.world ih.ready).1
    | save client place =>
      rw [clientStep]
      cases held : (shared.copies client)[place]? with
      | none => exact ih
      | some copy =>
        rcases ran : mapper.save.outcome (shared.world, copy) with ⟨result, world, left⟩
        have next := ih.save guards (may client place copy rfl held) ran
        simpa only [ran] using next

/-- The saves that any number of clients make of a class with a version lead every identity from no
version to 1, from 1 to 2 and so on, the last of which is stored, and from one stored version there
is at most one save; precisely, unless the version is the identity at the same time and something
was saved. A copy with an identity is refused in any case, and no document changed, if its version
is not the stored one. -/
theorem Guards.locks (guards : mapper.Guards descriptor field)
    (shares : mapper.Shares descriptor field shared) :
    (Orderly shared.history ↔ field.isId = false ∨ shared.history = []) ∧
    (field.isId = false → ∀ id, (shared.world.versionAt descriptor field id).map Int64.toInt =
      ordinal (Advance.under id shared.history).length) ∧
    ∀ copy id, copy.className = descriptor.className → descriptor.idValue? copy = some id →
      carriedVersion field copy ≠ shared.world.versionAt descriptor field id →
        ∃ after, after.store.collections = shared.world.store.collections ∧
          mapper.save.outcome (shared.world, copy) = (.error (.concurrentModification copy.className
            id ((shared.world.versionAt descriptor field id).getD 0)
            ((carriedVersion field copy).getD 0)), (after, copy)) := by
  have versioned := shares.versioned guards
  refine ⟨⟨fun orderly => ?_, ?_⟩, versioned.current, ?_⟩
  · cases isId : field.isId with
    | false => exact .inl rfl
    | true =>
      refine .inr ?_
      cases same : shared.history with
      | nil => rfl
      | cons first rest =>
        rw [same] at orderly
        exact absurd (versioned.astray isId first rest same) orderly.after_ne_none
  · rintro (noId | none)
    · exact .of_counts (versioned.counts noId)
    · rw [none]
      exact .of_counts fun _ => rfl
  · intro copy id isClass set stale
    have described : mapper.catalog.Describes copy.className descriptor :=
      isClass ▸ guards.described
    have searched := Collections.findFirst_idEq versioned.intact id
    rw [versionAt_eq versioned.intact] at stale ⊢
    obtain ⟨after, keeps, ran⟩ := guards.plain.outcome_save_of_stale versioned.ready described
      guards.isEntity set guards.isVersion searched stale.symm
    exact ⟨after, keeps.collections, ran⟩

end

end Mapper

namespace Samples

def noteVersion : MappedField := .ofSchema note.name (marked "version" integer .version)

theorem guards_note : Mapper.Guards { catalog := { registry := notebook } }
    (Catalog.assemble { registry := notebook } note none [] []) noteVersion where
  plain := plain_notebook
  described := describes_note
  isEntity := rfl
  isVersion := by decide
  names := by decide
  apart := by decide

/-- A note under an identity that nobody else was given. -/
def numbered : Entity :=
  .mk note.name [("id", .value (.id (IdSeries.member {} 7))), ("text", .value (.text "hello"))]

/-- Two clients hold copies of a note that is not stored yet. The first to save stores version 1,
and the second is refused. -/
theorem locks_note :
    let mapper : Mapper := { catalog := { registry := notebook } }
    let descriptor := Catalog.assemble { registry := notebook } note none [] []
    let shared := mapper.clientStep descriptor noteVersion
      { world := {}, copies := fun _ : Bool => [numbered] } (.save true 0)
    Orderly shared.history ∧ ∃ after,
      after.store.collections = shared.world.store.collections ∧
        mapper.save.outcome (shared.world, numbered) =
          (.error (.concurrentModification note.name (.id (IdSeries.member {} 7)) 1 0),
            (after, numbered)) := by
  intro mapper descriptor shared
  have shares : mapper.Shares descriptor noteVersion shared := by
    refine .next (.start ⟨Memory.sound_empty _, rfl⟩ rfl) ?_
    rintro client place copy ⟨rfl, rfl⟩ ⟨rfl⟩
    exact .inl ⟨rfl, by decide, @storable_of_document _ _
      [("_id", .id (IdSeries.member {} 7)), ("className", .text "Note"),
        ("version", .integer 1), ("text", .text "hello")]
      (by decide +kernel) (by decide) (by decide +kernel)⟩
  obtain ⟨orderly, -, refused⟩ := Mapper.Guards.locks guards_note shares
  have stored : shared.world.versionAt descriptor noteVersion (.id (IdSeries.member {} 7)) =
      some 1 := by decide +kernel
  have result := refused numbered (.id (IdSeries.member {} 7)) rfl rfl (by
    rw [stored]
    decide)
  rw [stored] at result
  exact ⟨orderly.mpr (.inl rfl), result⟩

/-- A clock whose only number is its identity and its version. -/
def tick : TypeSchema :=
  entity "Tick" "ticks" [
    { name := "n", type := integer, annotations := [.id, .version] },
    plain "text" text]

def tickNumber : MappedField :=
  .ofSchema tick.name { name := "n", type := integer, annotations := [.id, .version] }

theorem guards_tick : Mapper.Guards { catalog := { registry := .ofTypes [tick] } }
    (Catalog.assemble { registry := .ofTypes [tick] } tick none [] []) tickNumber where
  plain := ⟨Registry.named_ofTypes _, .of_methods_eq_nil rfl, rfl⟩
  described := Catalog.describes_alone rfl (by decide) rfl rfl rfl rfl rfl
  isEntity := rfl
  isVersion := by decide
  names := by decide
  apart := by decide

/-- A clock named by a text. -/
def ticking (name : String) : Entity := .mk tick.name [("n", .value (.text name))]

/-- Two clocks are saved, each under its own name and with no version, and the second takes the
place of the first: both are stored as version 1 under the identity 1. -/
theorem tick_not_orderly :
    let mapper : Mapper := { catalog := { registry := .ofTypes [tick] } }
    let descriptor := Catalog.assemble { registry := .ofTypes [tick] } tick none [] []
    ∃ shared : Shared Bool, mapper.Guards descriptor tickNumber ∧
      mapper.Shares descriptor tickNumber shared ∧ ¬ Orderly shared.history ∧
        shared.history.length = 2 ∧
          (shared.world.store.collections.documents descriptor.collection).length = 1 := by
  intro mapper descriptor
  let first := mapper.clientStep descriptor tickNumber
    { world := {}, copies := fun client => [ticking (if client then "x" else "y")] } (.save true 0)
  have saved : mapper.Shares descriptor tickNumber first := by
    refine .next (.start ⟨Memory.sound_empty _, rfl⟩ rfl) ?_
    rintro client place copy ⟨rfl, rfl⟩ ⟨rfl⟩
    exact .inl ⟨rfl, by decide, @storable_of_document _ _
      [("_id", .integer 1), ("className", .text "Tick")]
      (by decide +kernel) (by decide) (by decide +kernel)⟩
  have shares : mapper.Shares descriptor tickNumber
      (mapper.clientStep descriptor tickNumber first (.save false 0)) := by
    refine .next saved ?_
    rintro client place copy ⟨rfl, rfl⟩ ⟨rfl⟩
    exact .inl ⟨rfl, by decide, @storable_of_document _ _
      [("_id", .integer 1), ("className", .text "Tick")]
      (by decide +kernel) (by decide) (by decide +kernel)⟩
  have history : (mapper.clientStep descriptor tickNumber first (.save false 0)).history =
      [⟨.text "x", none, none⟩, ⟨.text "y", none, none⟩] := by decide +kernel
  refine ⟨_, guards_tick, shares, ?_, by rw [history]; rfl, by decide +kernel⟩
  rw [history]
  intro orderly
  exact orderly.after_ne_none rfl

end Samples

end DocMapper
