import DocMapper.Proofs.Datastore.Sharing
import DocMapper.Proofs.Datastore.Spending

/-!
# What is noted where look-ups fail

Resolving may stop anywhere: at a value that is no pointer, at a document that cannot be read, or at
a store that fails. `Adds` says what an operation has noted by then, however it ends: at which
places, and what of them. It is closed under sequences. A batch notes what is absent only after
every document that was found, so an entry is never wrong about what is stored.
-/

namespace DocMapper.Mapper

open Catalog (answer)

/-- Descriptors that are kept are correct, and the store holds these documents. -/
structure Backed (mapper : Mapper) (collections : Collections) (state : World × EntityCache) :
    Prop where
  sound : state.1.memory.Sound mapper.catalog
  documents : state.1.store.collections = collections

/-- The second state is the first with entries changed among some places only, to what is said of
them. -/
structure Notes (mapper : Mapper) (collections : Collections) (among : Pointer → Prop)
    (said : Pointer → Option Entity → Prop) (before after : World × EntityCache) : Prop where
  backed : mapper.Backed collections after
  apart : ∀ place, ¬ among place → after.2.get? place = before.2.get? place
  grows : ∀ place, before.2.contains place = true → after.2.contains place = true
  said : ∀ place found, after.2.get? place = some found →
    before.2.get? place = some found ∨ said place found

/-- Where the given places are known, the operation changes entries among some places only, to what
is said of them. If it succeeds, the places that it takes are known, and the result is right. -/
def Adds {α : Type} (mapper : Mapper) (collections : Collections) (among : Pointer → Prop)
    (said : Pointer → Option Entity → Prop) (given taken : Pointer → Prop) (right : α → Prop)
    (act : ResolveM α) : Prop :=
  ∀ state, mapper.Backed collections state →
    (∀ place, given place → state.2.contains place = true) →
      act.Ends state
        (fun a after => mapper.Notes collections among said state after ∧
          (∀ place, taken place → after.2.contains place = true) ∧ right a)
        fun _ after => mapper.Notes collections among said state after

variable {α β : Type} {mapper : Mapper} {collections : Collections} {among : Pointer → Prop}
  {said : Pointer → Option Entity → Prop} {given between taken : Pointer → Prop}
  {right : α → Prop} {right' : β → Prop} {state before middle after : World × EntityCache}
  {act : ResolveM α}

namespace Notes

theorem refl (backed : mapper.Backed collections before) :
    mapper.Notes collections among said before before :=
  ⟨backed, fun _ _ => rfl, fun _ known => known, fun _ _ found => .inl found⟩

theorem trans (first : mapper.Notes collections among said before middle)
    (second : mapper.Notes collections among said middle after) :
    mapper.Notes collections among said before after where
  backed := second.backed
  apart place outside := (second.apart place outside).trans (first.apart place outside)
  grows place known := second.grows place (first.grows place known)
  said place found here := by
    rcases second.said place found here with earlier | isSaid
    · exact first.said place found earlier
    · exact .inr isSaid

theorem of_backed {world : World} (backed : mapper.Backed collections (world, before.2)) :
    mapper.Notes collections among said before (world, before.2) :=
  ⟨backed, fun _ _ => rfl, fun _ known => known, fun _ _ found => .inl found⟩

theorem remember {place : Pointer} {found : Option Entity}
    (backed : mapper.Backed collections before) (isAmong : among place)
    (isSaid : said place found) :
    mapper.Notes collections among said before (before.1, before.2.insert place found) where
  backed := ⟨backed.sound, backed.documents⟩
  apart other outside := by
    apply EntityCache.get?_insert_of_ne
    rintro rfl
    exact outside isAmong
  grows other known := by
    by_cases same : other = place
    · rw [same]
      exact EntityCache.contains_insert_self before.2 _ _
    · rwa [EntityCache.contains, EntityCache.get?_insert_of_ne _ same]
  said other result here := by
    by_cases same : other = place
    · rw [same, EntityCache.get?_insert_self] at here
      exact .inr (same ▸ Option.some.inj here ▸ isSaid)
    · rw [EntityCache.get?_insert_of_ne _ same] at here
      exact .inl here

end Notes

namespace Adds

theorem pure {a : α} (holds : right a) :
    mapper.Adds collections among said given given right (Pure.pure a) :=
  fun _ backed known => ⟨.refl backed, known, holds⟩

theorem bind {next : α → ResolveM β}
    (first : mapper.Adds collections among said given between right act)
    (second : ∀ a, right a → mapper.Adds collections among said
      (fun place => given place ∨ between place) taken right' (next a)) :
    mapper.Adds collections among said given taken right' (act >>= next) := by
  intro state backed known
  refine (first state backed known).bind ?_ fun _ _ => id
  rintro a middle ⟨notes, taken, holds⟩
  have known' : ∀ place, given place ∨ between place → middle.2.contains place = true := by
    rintro place (isGiven | isTaken)
    · exact notes.grows place (known place isGiven)
    · exact taken place isTaken
  refine (second a holds middle notes.backed known').mono ?_ ?_
  · exact fun b after ends => ⟨notes.trans ends.1, ends.2⟩
  · exact fun _ after notes' => notes.trans notes'

theorem weaken {fewer : Pointer → Prop} {less : α → Prop}
    (adds : mapper.Adds collections among said given taken right act)
    (places : ∀ place, fewer place → taken place) (results : ∀ a, right a → less a) :
    mapper.Adds collections among said given fewer less act := fun state backed known =>
  (adds state backed known).mono
    (fun a _ ends => ⟨ends.1, fun place isFewer => ends.2.1 place (places place isFewer),
      results a ends.2.2⟩)
    fun _ _ => id

/-- Working through a list takes what each of its members takes. -/
theorem forM {items : List β} {act : β → ResolveM PUnit} {taken : β → Pointer → Prop}
    (each : ∀ b ∈ items,
      mapper.Adds collections among said given (taken b) (fun _ => True) (act b)) :
    mapper.Adds collections among said given (fun place => ∃ b ∈ items, taken b place)
      (fun _ => True) (items.forM act) := by
  induction items with
  | nil => exact fun state backed _ => ⟨.refl backed, by simp, trivial⟩
  | cons b rest ih =>
    have later := ih fun b member => each b (List.mem_cons_of_mem _ member)
    intro state backed known
    refine (each b List.mem_cons_self state backed known).bind ?_ fun _ _ => id
    rintro - middle ⟨notes, here, -⟩
    have known' := fun place isGiven => notes.grows place (known place isGiven)
    refine (later middle notes.backed known').mono ?_ fun _ _ notes' => notes.trans notes'
    rintro - after ⟨notes', there, -⟩
    refine ⟨notes.trans notes', ?_, trivial⟩
    rintro place ⟨a, member, isTaken⟩
    rcases List.mem_cons.mp member with rfl | member
    · exact notes'.grows place (here place isTaken)
    · exact there place ⟨a, member, isTaken⟩

theorem steady {act : MapM α} (steady : mapper.catalog.Steady act) :
    mapper.Adds collections among said given given (fun a => answer act = .ok a)
      (World.onMemory act).onFirst := by
  intro state backed known
  rw [Run.ends_onFirst, World.ends_onMemory]
  refine (steady.ends_of_sound backed.sound).mono ?_ ?_
  · rintro a memory ⟨answered, sound⟩
    exact ⟨.of_backed ⟨sound, backed.documents⟩, known, answered⟩
  · rintro error memory ⟨-, sound⟩
    exact .of_backed ⟨sound, backed.documents⟩

/-- A question to the store notes nothing, whether it is answered or not. -/
theorem ask {note : StoreCall} {question : Collections → Except StoreError α} :
    mapper.Adds collections among said given given (fun a => question collections = .ok a)
      (World.onStore (Store.call note fun collections =>
        return (← question collections, collections))).onFirst := by
  intro state backed known
  rw [Run.ends_onFirst]
  refine World.ends_call ?_ fun _ _ => .of_backed ⟨backed.sound, backed.documents⟩
  intro a after _ replied
  obtain ⟨answer, asked, same⟩ := Result.bind_eq_ok.mp replied
  cases same
  rw [backed.documents] at asked
  exact ⟨.of_backed ⟨backed.sound, backed.documents⟩, known, asked⟩

theorem remember {place : Pointer} {found : Option Entity} (isAmong : among place)
    (isSaid : said place found) :
    mapper.Adds collections among said given (· = place) (fun _ => True)
      (Mapper.remember place found) := by
  intro state backed _
  refine ⟨.remember backed isAmong isSaid, ?_, trivial⟩
  rintro _ rfl
  exact EntityCache.contains_insert_self state.2 _ _

end Adds

/-! ### Fetching -/

/-- At a place is what one of the keys is looked up as. -/
def LookedUp (mapper : Mapper) (collections : Collections) (keys : List Key) (place : Pointer)
    (found : Option Entity) : Prop :=
  ∃ key ∈ keys, key.pointer = place ∧ mapper.lookUp collections key = .ok found

section

variable {keys : List Key} {batch : Batch} {doc : Document} {id : Value}

/-- Nothing is noted where a document was found, and nothing is found elsewhere. -/
theorem adds_rememberAbsent (isAmong : among ⟨batch.collection, id⟩)
    (absent : ¬ given ⟨batch.collection, id⟩ → said ⟨batch.collection, id⟩ none) :
    mapper.Adds collections among said given (· = ⟨batch.collection, id⟩) (fun _ => True)
      (rememberAbsent batch id) := by
  intro state backed known
  rw [rememberAbsent, Run.ends_bind, Run.ends_get]
  by_cases here : state.2.contains ⟨batch.collection, id⟩ = true
  · rw [if_pos here]
    exact ⟨.refl backed, by rintro _ rfl; exact here, trivial⟩
  · rw [if_neg here]
    exact Adds.remember isAmong (absent fun isGiven => here (known _ isGiven)) state backed known

namespace Plain

theorem adds_rememberFound (plain : mapper.Plain) (own : Document.get? doc idField = some id)
    (isAmong : among ⟨batch.collection, id⟩)
    (isSaid : ∀ entity,
      answer (mapper.catalog.decodeDocument batch.className doc) = .ok entity →
        said ⟨batch.collection, id⟩ (some entity)) :
    mapper.Adds collections among said given (batch.IsPlaceOf doc) (fun _ => True)
      (mapper.rememberFound batch doc) := by
  simp only [rememberFound, own]
  have gives := plain.gives_fromDocument batch.className doc
  apply (Adds.steady gives.steady).bind
  intro entity decoded
  rw [gives.answer_eq] at decoded
  refine (Adds.remember isAmong (isSaid entity decoded)).weaken ?_ fun _ _ => trivial
  rintro ⟨_, _⟩ ⟨rfl, here⟩
  obtain rfl := Option.some.inj (own.symm.trans here)
  rfl

/-- What is done with the documents that a search for a batch finds. -/
theorem adds_found (plain : mapper.Plain)
    (labelled : Collections.Labelled (collections.documents batch.collection))
    {loaded : List Document}
    (reads : (collections.documents batch.collection).mapM StoredDocument.load = .ok loaded)
    (asked : ∀ key ∈ batch.keys, key ∈ keys ∧ among key.pointer) :
    mapper.Adds collections among (mapper.LookedUp collections keys) given
      (fun place => ∃ id ∈ batch.ids, place = ⟨batch.collection, id⟩) (fun _ => True)
      (do
        (loaded.filter (Filter.accepts · (.idIn batch.ids))).forM (mapper.rememberFound batch)
        batch.ids.forM (rememberAbsent batch)) := by
  have intact := labelled.intact reads
  have under := Collections.mem_filter_idIn labelled reads batch.ids
  generalize loaded.filter (Filter.accepts · (.idIn batch.ids)) = docs at under ⊢
  have isKey : ∀ id ∈ batch.ids, ⟨batch.className, batch.collection, id⟩ ∈ keys ∧
      among ⟨batch.collection, id⟩ := fun id member =>
    asked _ (Batch.mem_keys.mpr ⟨rfl, rfl, member⟩)
  have founds : mapper.Adds collections among (mapper.LookedUp collections keys) given
      (fun place => ∃ doc ∈ docs, batch.IsPlaceOf doc place) (fun _ => True)
      (docs.forM (mapper.rememberFound batch)) := by
    refine .forM fun doc member => ?_
    obtain ⟨id, isAsked, found⟩ := (under doc).mp member
    refine plain.adds_rememberFound (Collections.get?_of_documentAt? intact found)
      (isKey id isAsked).2 fun entity decoded => ⟨_, (isKey id isAsked).1, rfl, ?_⟩
    rw [lookUp_of_some intact found, decoded]
    rfl
  refine founds.bind fun _ _ => .forM fun id member =>
    adds_rememberAbsent (isKey id member).2 fun nowhere => ⟨_, (isKey id member).1, rfl, ?_⟩
  -- A document with this identifier would have been noted.
  apply lookUp_of_none intact
  by_contra somewhere
  obtain ⟨doc, found⟩ := Option.ne_none_iff_exists'.mp somewhere
  exact nowhere (.inr ⟨doc, (under doc).mpr ⟨id, member, found⟩, rfl,
    Collections.get?_of_documentAt? intact found⟩)

theorem adds_fetch (plain : mapper.Plain)
    (labelled : Collections.Labelled (collections.documents batch.collection))
    (asked : ∀ key ∈ batch.keys, key ∈ keys ∧ among key.pointer) :
    mapper.Adds collections among (mapper.LookedUp collections keys) given
      (fun place => ∃ id ∈ batch.ids, place = ⟨batch.collection, id⟩) (fun _ => True)
      (mapper.fetch batch) := by
  apply Adds.ask.bind
  intro docs searched
  obtain ⟨loaded, reads, same⟩ := Result.bind_eq_ok.mp searched
  obtain rfl := Except.ok.inj same
  exact plain.adds_found labelled reads asked

/-- Batches are fetched, and then the keys that were not known are. -/
theorem adds_fetchAll (plain : mapper.Plain)
    (labelled : ∀ name, Collections.Labelled (collections.documents name)) {cache : EntityCache}
    {name : ClassName} (sameClass : ∀ key ∈ keys, key.className = name)
    (isAmong : ∀ key ∈ keys, cache.contains key.pointer = false → among key.pointer) :
    mapper.Adds collections among (mapper.LookedUp collections keys) given
      (fun place => ∃ key ∈ keys, cache.contains key.pointer = false ∧ key.pointer = place)
      (fun _ => True) ((cache.batches keys).forM mapper.fetch) := by
  have batched := cache.batched_batches sameClass
  have each : ∀ batch ∈ cache.batches keys,
      mapper.Adds collections among (mapper.LookedUp collections keys) given
        (fun place => ∃ id ∈ batch.ids, place = ⟨batch.collection, id⟩) (fun _ => True)
        (mapper.fetch batch) := by
    intro batch member
    refine plain.adds_fetch (labelled batch.collection) fun key own => ?_
    obtain ⟨inKeys, new⟩ := EntityCache.of_mem_unknown ((batched.mem_keys_iff member).mp own).1
    exact ⟨inKeys, isAmong key inKeys new⟩
  refine (Adds.forM each).weaken ?_ fun _ => id
  rintro _ ⟨key, member, new, rfl⟩
  obtain ⟨batch, isBatch, own⟩ := (batched.members key).mpr
    ((EntityCache.mem_unknown_iff sameClass).mpr ⟨member, new⟩)
  obtain ⟨-, here, isAsked⟩ := Batch.mem_keys.mp own
  exact ⟨batch, isBatch, key.id, isAsked, by rw [Key.pointer, here]⟩

/-- Reading the document of a look-up, if it found one, notes nothing. -/
theorem adds_mapM_fromDocument (plain : mapper.Plain) (name : ClassName)
    (found : Option Document) :
    mapper.Adds collections among said given given
      (fun result =>
        (found.mapM fun doc => answer (mapper.catalog.decodeDocument name doc)) = .ok result)
      (found.mapM fun doc => (Run.onFirst (World.onMemory (mapper.fromDocument name doc)) :
        ResolveM Entity)) := by
  cases found with
  | none => exact .pure rfl
  | some doc =>
    have gives := plain.gives_fromDocument name doc
    simp only [Option.mapM_some, map_eq_pure_bind]
    apply (Adds.steady gives.steady).bind
    intro entity decoded
    rw [gives.answer_eq] at decoded
    exact (Adds.pure (by simp [decoded])).weaken (fun _ => .inl) fun _ => id

/-- A key that is not known is looked up, and its entry is the result. -/
theorem ends_resolveKey (plain : mapper.Plain) {key : Key} (member : key ∈ keys)
    (backed : mapper.Backed collections state)
    (isAmong : state.2.contains key.pointer = false → among key.pointer) :
    (mapper.resolveKey key).Ends state
      (fun found after =>
        mapper.Notes collections among (mapper.LookedUp collections keys) state after ∧
          after.2.get? key.pointer = some found)
      fun _ after =>
        mapper.Notes collections among (mapper.LookedUp collections keys) state after := by
  rw [resolveKey, Run.ends_bind, Run.ends_get]
  cases known : state.2.get? key.pointer with
  | some found => exact ⟨.refl backed, known⟩
  | none =>
    have isAmong : among key.pointer := isAmong (by rw [EntityCache.contains, known]; rfl)
    have looked : mapper.Adds collections among (mapper.LookedUp collections keys)
        (fun _ => False) (fun _ => False)
        (fun result => mapper.lookUp collections key = .ok result) (do
          let found ← (World.onStore (Store.findFirst key.collection (.idEq key.id))).onFirst
          found.mapM fun doc =>
            (Run.onFirst (World.onMemory (mapper.fromDocument key.className doc)) :
              ResolveM Entity)) := by
      apply Adds.ask.bind
      intro found searched
      refine (plain.adds_mapM_fromDocument key.className found).weaken (fun _ => False.elim) ?_
      intro result read
      rw [lookUp, searched]
      exact read
    rw [← bind_assoc]
    refine (looked state backed fun _ => False.elim).bind ?_ fun _ _ => id
    rintro found middle ⟨notes, -, isFound⟩
    rw [Run.ends_bind]
    have noted : mapper.Notes collections among (mapper.LookedUp collections keys) middle
        (middle.1, middle.2.insert key.pointer found) :=
      .remember notes.backed isAmong ⟨key, member, rfl, isFound⟩
    exact ⟨notes.trans noted, EntityCache.get?_insert_self _ _ _⟩

end Plain

end

end DocMapper.Mapper
