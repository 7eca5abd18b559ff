import Mathlib.Data.List.Induction
import Mathlib.Data.Set.Card
import DocMapper.Proofs.Value.Keys

/-!
# Documents as ordered maps

A document is used as a map that remembers in which order its keys came. What such a map shows can
be said without a list of entries, from the insertions and removals alone that made it: a key is
live while the last of them that touched it is an insertion, its value is the one inserted last, and
its place is that of the insertion that made it live.

The main result is that documents show just that, whatever was done to them: look-ups, the answers
of insertions and removals, the entries, their order and their number.
-/

namespace DocMapper

namespace Document

/-! ### What is done to a document -/

inductive Act where
  /-- Inserts a value, and answers with the one that was there. -/
  | insert (key : String) (value : Value)
  | adding (key : String) (value : Value)
  | remove (key : String)
  /-- Collects the entries of the document into a new one. -/
  | rebuild
  /-- Collects other entries into a new document, and drops this one. -/
  | collect (entries : List (String × Value))

/-- The answer to an act, and the document afterwards. -/
def Act.perform (doc : Document) : Act → Option Value × Document
  | .insert key value => put doc key value
  | .adding key value => (none, Document.insert doc key value)
  | .remove key => take doc key
  | .rebuild => (none, ofEntries doc)
  | .collect entries => (none, ofEntries entries)

/-- The document that acts make of an empty one. -/
def after (acts : List Act) : Document :=
  acts.foldl (fun doc act => (act.perform doc).2) []

inductive Touch where
  | inserted (key : String) (value : Value)
  | removed (key : String)

def Touch.key : Touch → String
  | .inserted key _ => key
  | .removed key => key

theorem Touch.key_eq_iff {touch : Touch} {key : String} : touch.key = key ↔
    touch = .removed key ∨ ∃ value, touch = .inserted key value := by
  cases touch <;> simp [Touch.key]

/-- What has happened to keys once an act is done. A rebuilt document has the history of the one it
was built from, a document of other entries has only theirs. -/
def Act.record (past : List Touch) : Act → List Touch
  | .insert key value => past ++ [.inserted key value]
  | .adding key value => past ++ [.inserted key value]
  | .remove key => past ++ [.removed key]
  | .rebuild => past
  | .collect entries => entries.map fun (key, value) => .inserted key value

/-- What acts on an empty document do to keys, from first to last. -/
def touches (acts : List Act) : List Touch :=
  acts.foldl Act.record []

theorem after_concat (acts : List Act) (act : Act) :
    after (acts ++ [act]) = (act.perform (after acts)).2 := by
  rw [after, List.foldl_append]
  rfl

theorem touches_concat (acts : List Act) (act : Act) :
    touches (acts ++ [act]) = act.record (touches acts) := by
  rw [touches, List.foldl_append]
  rfl

/-! ### What a history tells -/

/-- The last that happened to the key is that this value was inserted. -/
def LastInserted (past : List Touch) (key : String) (value : Value) : Prop :=
  ∃ earlier later, past = earlier ++ .inserted key value :: later ∧
    ∀ touch ∈ later, touch.key ≠ key

/-- The key was inserted and not removed since. -/
def Live (past : List Touch) (key : String) : Prop :=
  ∃ value, LastInserted past key value

/-- The key became live by the insertion at this place, and was not removed since. -/
def LiveSince (past : List Touch) (key : String) (place : Nat) : Prop :=
  ∃ earlier value later, past = earlier ++ .inserted key value :: later ∧
    earlier.length = place ∧ ¬ Live earlier key ∧ .removed key ∉ later

/-- The one key became live before the other. -/
def LiveLonger (past : List Touch) (key other : String) : Prop :=
  ∃ place place', LiveSince past key place ∧ LiveSince past other place' ∧ place < place'

variable {past : List Touch} {touch : Touch} {doc : Document} {key other : String} {value : Value}
  {place place' : Nat}

/-- What stands in a list with one more item is that item, or stands before it. -/
private theorem last_or_before {α : Type} {items earlier later : List α} {last item : α}
    (split : items ++ [last] = earlier ++ item :: later) :
    (later = [] ∧ items = earlier ∧ last = item) ∨
      ∃ between, later = between ++ [last] ∧ items = earlier ++ item :: between := by
  rcases List.eq_nil_or_concat' later with rfl | ⟨between, final, rfl⟩
  · exact .inl ⟨rfl, List.append_singleton_inj.mp split⟩
  · rw [← List.cons_append, ← List.append_assoc] at split
    obtain ⟨before, rfl⟩ := List.append_singleton_inj.mp split
    exact .inr ⟨between, rfl, before⟩

@[simp] theorem not_lastInserted_nil : ¬ LastInserted [] key value := by
  rintro ⟨earlier, later, split, -⟩
  simp at split

theorem lastInserted_concat : LastInserted (past ++ [touch]) key value ↔
    touch = .inserted key value ∨ touch.key ≠ key ∧ LastInserted past key value := by
  constructor
  · rintro ⟨earlier, later, split, untouched⟩
    rcases last_or_before split with ⟨-, -, same⟩ | ⟨between, rfl, before⟩
    · exact .inl same
    · exact .inr ⟨untouched touch (by simp), earlier, between, before, fun other member =>
        untouched other (List.mem_append_left _ member)⟩
  · rintro (rfl | ⟨apart, earlier, later, rfl, untouched⟩)
    · exact ⟨past, [], rfl, by simp⟩
    · refine ⟨earlier, later ++ [touch], by simp, fun other member => ?_⟩
      rcases List.mem_append.mp member with member | isLast
      · exact untouched other member
      · rwa [List.mem_singleton.mp isLast]

theorem live_concat : Live (past ++ [touch]) key ↔
    (∃ value, touch = .inserted key value) ∨ touch.key ≠ key ∧ Live past key := by
  simp only [Live, lastInserted_concat, exists_or, exists_and_left]

theorem liveSince_concat : LiveSince (past ++ [touch]) key place ↔
    (place = past.length ∧ ¬ Live past key ∧ ∃ value, touch = .inserted key value) ∨
      touch ≠ .removed key ∧ LiveSince past key place := by
  constructor
  · rintro ⟨earlier, value, later, split, rfl, new, kept⟩
    rcases last_or_before split with ⟨-, rfl, same⟩ | ⟨between, rfl, before⟩
    · exact .inl ⟨rfl, new, value, same⟩
    · rw [List.mem_append, List.mem_singleton, not_or] at kept
      exact .inr ⟨Ne.symm kept.2, earlier, value, between, before, rfl, new, kept.1⟩
  · rintro (⟨rfl, new, value, rfl⟩ | ⟨apart, earlier, value, later, rfl, rfl, new, kept⟩)
    · exact ⟨past, value, [], rfl, rfl, new, by simp⟩
    · exact ⟨earlier, value, later ++ [touch], by simp, rfl, new, by simp [kept, Ne.symm apart]⟩

theorem LiveSince.live (since : LiveSince past key place) : Live past key := by
  induction past using List.reverseRecOn with
  | nil =>
    obtain ⟨earlier, value, later, split, -⟩ := since
    simp at split
  | append_singleton earlier touch ih =>
    rw [live_concat]
    rcases liveSince_concat.mp since with ⟨-, -, inserted⟩ | ⟨kept, before⟩
    · exact .inl inserted
    · by_cases here : touch.key = key
      · exact .inl ((Touch.key_eq_iff.mp here).resolve_left kept)
      · exact .inr ⟨here, ih before⟩

theorem Live.exists_place (live : Live past key) : ∃ place, LiveSince past key place := by
  induction past using List.reverseRecOn with
  | nil => simp [Live] at live
  | append_singleton earlier touch ih =>
    rcases live_concat.mp live with ⟨value, rfl⟩ | ⟨apart, before⟩
    · by_cases present : Live earlier key
      · obtain ⟨place, since⟩ := ih present
        exact ⟨place, liveSince_concat.mpr (.inr ⟨by simp, since⟩)⟩
      · exact ⟨_, liveSince_concat.mpr (.inl ⟨rfl, present, value, rfl⟩)⟩
    · obtain ⟨place, since⟩ := ih before
      refine ⟨place, liveSince_concat.mpr (.inr ⟨?_, since⟩)⟩
      rintro rfl
      exact apart rfl

theorem LiveSince.unique (since : LiveSince past key place) (since' : LiveSince past key place') :
    place = place' := by
  induction past using List.reverseRecOn with
  | nil => exact absurd since.live (by simp [Live])
  | append_singleton earlier touch ih =>
    -- A key that was live before has its place there, any other can only have the last one.
    rcases liveSince_concat.mp since with ⟨isLast, new, -⟩ | ⟨-, before⟩ <;>
      rcases liveSince_concat.mp since' with ⟨isLast', new', -⟩ | ⟨-, before'⟩
    · rw [isLast, isLast']
    · exact absurd before'.live new
    · exact absurd before.live new'
    · exact ih before before'

theorem LiveSince.lt_length (since : LiveSince past key place) : place < past.length := by
  obtain ⟨earlier, value, later, rfl, rfl, -⟩ := since
  simp

theorem LiveLonger.ne (longer : LiveLonger past key other) : key ≠ other := by
  rintro rfl
  obtain ⟨place, place', since, since', lt⟩ := longer
  exact absurd (since.unique since') lt.ne

/-- Keys that are not removed stay in order. -/
theorem LiveLonger.concat (longer : LiveLonger past key other) (kept : touch ≠ .removed key)
    (kept' : touch ≠ .removed other) : LiveLonger (past ++ [touch]) key other := by
  obtain ⟨place, place', since, since', lt⟩ := longer
  exact ⟨place, place', liveSince_concat.mpr (.inr ⟨kept, since⟩),
    liveSince_concat.mpr (.inr ⟨kept', since'⟩), lt⟩

/-- A key that becomes live comes after all others. -/
theorem Live.longer_than_new (live : Live past other) (new : ¬ Live past key) (value : Value) :
    LiveLonger (past ++ [.inserted key value]) other key := by
  obtain ⟨place, since⟩ := live.exists_place
  exact ⟨place, past.length, liveSince_concat.mpr (.inr ⟨by simp, since⟩),
    liveSince_concat.mpr (.inl ⟨rfl, new, value, rfl⟩), since.lt_length⟩

/-! ### Documents and their history -/

/-- The document holds what was inserted last under every live key, and the keys in their order. -/
structure Tells (past : List Touch) (doc : Document) : Prop where
  value : ∀ key value, get? doc key = some value ↔ LastInserted past key value
  order : (keys doc).Pairwise (LiveLonger past)

namespace Tells

theorem nil : Tells [] [] :=
  ⟨fun key value => by simp, .nil⟩

variable (tells : Tells past doc)

include tells

theorem nodup_keys : (keys doc).Nodup :=
  tells.order.imp LiveLonger.ne

theorem contains_iff (key : String) : contains doc key = true ↔ Live past key := by
  rw [contains, Option.isSome_iff_exists]
  exact exists_congr (tells.value key)

theorem mem_keys_iff (key : String) : key ∈ keys doc ↔ Live past key := by
  rw [← contains_iff_mem_keys, tells.contains_iff]

theorem insert (key : String) (value : Value) :
    Tells (past ++ [.inserted key value]) (insert doc key value) where
  value other found := by
    rw [lastInserted_concat]
    by_cases same : other = key
    · subst same
      simp [Touch.key]
    · rw [get?_insert_of_ne doc same, tells.value]
      simp [Touch.key, Ne.symm same]
  order := by
    have others : (keys doc).Pairwise (LiveLonger (past ++ [.inserted key value])) :=
      tells.order.imp fun longer => longer.concat (by simp) (by simp)
    rw [keys_insert]
    split
    · exact others
    next fresh =>
      refine List.pairwise_append.mpr ⟨others, List.pairwise_singleton _ _, ?_⟩
      intro other member last isLast
      obtain rfl := List.mem_singleton.mp isLast
      rw [tells.mem_keys_iff] at member fresh
      exact member.longer_than_new fresh value

theorem erase (key : String) : Tells (past ++ [.removed key]) (erase doc key) where
  value other found := by
    rw [lastInserted_concat]
    by_cases same : other = key
    · subst same
      rw [get?_erase_self other tells.nodup_keys]
      simp [Touch.key]
    · rw [get?_erase_of_ne doc same, tells.value]
      simp [Touch.key, Ne.symm same]
  order := by
    rw [keys_erase]
    have kept : ∀ other ∈ (keys doc).erase key, Touch.removed key ≠ .removed other := by
      intro other member same
      obtain rfl := Touch.removed.inj same
      exact tells.nodup_keys.not_mem_erase member
    refine (tells.order.sublist List.erase_sublist).imp_of_mem fun member member' longer => ?_
    exact longer.concat (kept _ member) (kept _ member')

end Tells

/-- A document of entries has the history of their insertions. -/
theorem tells_ofEntries (entries : List (String × Value)) :
    Tells (entries.map fun (key, value) => .inserted key value) (ofEntries entries) := by
  induction entries using List.reverseRecOn with
  | nil => exact .nil
  | append_singleton earlier entry ih =>
    rw [List.map_append, ofEntries_concat]
    exact ih.insert entry.1 entry.2

/-- Acts keep documents and their history together. -/
theorem Tells.perform (tells : Tells past doc) (act : Act) :
    Tells (act.record past) (act.perform doc).2 := by
  cases act with
  | insert key value => exact tells.insert key value
  | adding key value => exact tells.insert key value
  | remove key => exact tells.erase key
  | rebuild =>
    rw [Act.record, Act.perform, ofEntries_eq_self tells.nodup_keys]
    exact tells
  | collect entries => exact tells_ofEntries entries

theorem tells_after (acts : List Act) : Tells (touches acts) (after acts) := by
  induction acts using List.reverseRecOn with
  | nil => exact .nil
  | append_singleton earlier act ih =>
    rw [touches_concat, after_concat]
    exact ih.perform act

/-- A document has as many entries as there are live keys. -/
theorem Tells.size_eq (tells : Tells past doc) : size doc = {key | Live past key}.ncard := by
  have same : {key | Live past key} = ((keys doc).toFinset : Set String) := by
    ext key
    rw [Set.mem_ofPred_eq, List.coe_toFinset, Set.mem_ofPred_eq, tells.mem_keys_iff]
  rw [same, Set.ncard_coe_finset, List.toFinset_card_of_nodup tells.nodup_keys, keys,
    List.length_map, size]

/-- Whatever is done to an empty document, it shows what the insertions and removals tell. A look-up
finds the value inserted last, unless it was removed; insertions and removals answer with the value
that was there; the entries are those of the live keys, each once, in the order in which they became
live, and as many as there are. A key that is inserted again keeps its place, one that was removed
before goes last, and a document that is built anew stays as it is. -/
theorem shows_history (acts : List Act) :
    (∀ key value, get? (after acts) key = some value ↔ LastInserted (touches acts) key value) ∧
    (∀ key, contains (after acts) key = true ↔ Live (touches acts) key) ∧
    (∀ key value old, ((Act.insert key value).perform (after acts)).1 = some old ↔
      LastInserted (touches acts) key old) ∧
    (∀ key old, ((Act.remove key).perform (after acts)).1 = some old ↔
      LastInserted (touches acts) key old) ∧
    (∀ key value, (key, value) ∈ after acts ↔ LastInserted (touches acts) key value) ∧
    ((keys (after acts)).Nodup ∧ ∀ key, key ∈ keys (after acts) ↔ Live (touches acts) key) ∧
    (keys (after acts)).Pairwise (LiveLonger (touches acts)) ∧
    size (after acts) = {key | Live (touches acts) key}.ncard ∧
    (∀ key value, keys (after (acts ++ [.insert key value])) =
      if contains (after acts) key then keys (after acts) else keys (after acts) ++ [key]) ∧
    (∀ key value, keys (after (acts ++ [.remove key, .insert key value])) =
      (keys (after acts)).erase key ++ [key]) ∧
    after (acts ++ [.rebuild]) = after acts := by
  have tells := tells_after acts
  refine ⟨tells.value, tells.contains_iff, fun key _ => tells.value key, tells.value,
    fun key value => ?entries, ⟨tells.nodup_keys, tells.mem_keys_iff⟩, tells.order, tells.size_eq,
    fun key value => ?inserted, fun key value => ?reinserted, ?rebuilt⟩
  case entries =>
    rw [← tells.value]
    exact (Assoc.lookup_eq_some_iff_mem tells.nodup_keys).symm
  case inserted =>
    simp only [after_concat, contains_iff_mem_keys]
    exact keys_insert ..
  case reinserted =>
    have absent : key ∉ keys (Document.erase (after acts) key) := by
      rw [keys_erase]
      exact tells.nodup_keys.not_mem_erase
    rw [List.append_cons, after_concat, after_concat, ← keys_erase]
    exact keys_insert_of_not_mem absent
  case rebuilt =>
    rw [after_concat]
    exact ofEntries_eq_self tells.nodup_keys

/-- The key `b` is removed and comes back behind all others, `a` is replaced where it stands. -/
example : keys (after [.adding "a" .null, .insert "b" .null, .insert "a" (.bool true), .remove "b",
    .insert "c" .null, .rebuild, .insert "b" .null]) = ["a", "c", "b"] := by decide +kernel

end Document

end DocMapper
