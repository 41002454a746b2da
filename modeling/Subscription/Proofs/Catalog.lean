import Subscription.Catalog

/-! Catalogs as what is left of their writes: under every handle the last entry written to it. -/

namespace Subscription

/-- What an entry of a catalog is found by, which says the table that the entry stands in. -/
inductive Handle where
  | attributeToken (id : AttributeId)
  | schema (id : SchemaId)
  | endpointName (id : EndpointId)
deriving DecidableEq

/-- A handle with what stands under it. -/
inductive Entry where
  | attributeToken (id : AttributeId) (token : String)
  | schema (id : SchemaId) (schema : Schema)
  | endpointName (id : EndpointId) (name : String)
deriving DecidableEq

def Entry.handle : Entry → Handle
  | .attributeToken id _ => .attributeToken id
  | .schema id _ => .schema id
  | .endpointName id _ => .endpointName id

/-- The last of several writes to a handle. -/
def lastWrite? (writes : List Entry) (handle : Handle) : Option Entry :=
  (writes.filter (·.handle = handle)).getLast?

/-- A write in front of others is the last one only where none of them goes to its handle. -/
theorem lastWrite?_cons (entry : Entry) (writes : List Entry) (handle : Handle) :
    lastWrite? (entry :: writes) handle =
      (lastWrite? writes handle).or (if entry.handle = handle then some entry else none) := by
  simp only [lastWrite?, List.filter_cons, decide_eq_true_eq]
  by_cases here : entry.handle = handle
  · -- The entry is taken when nothing behind it is.
    simp only [if_pos here, List.getLast?_cons]
    cases (writes.filter (·.handle = handle)).getLast? <;> rfl
  · simp only [if_neg here, Option.or_none]

/-- There is no last write exactly where none goes to the handle. -/
theorem lastWrite?_eq_none_iff {writes : List Entry} {handle : Handle} :
    lastWrite? writes handle = none ↔ ∀ entry ∈ writes, entry.handle ≠ handle := by
  -- The last of the writes that go to the handle is missing only where there are none.
  simp only [lastWrite?, List.getLast?_eq_none_iff, List.filter_eq_nil_iff, decide_eq_true_eq]

/-- Writes to other handles can be left out of the search. -/
theorem lastWrite?_filter {handles : List Handle} {handle : Handle} (kept : handle ∈ handles)
    (writes : List Entry) :
    lastWrite? (writes.filter (·.handle ∈ handles)) handle = lastWrite? writes handle := by
  -- Whatever goes to the handle passes the filter, because the handle does.
  have passes : ∀ entry : Entry,
      (decide (entry.handle = handle) && decide (entry.handle ∈ handles)) =
        decide (entry.handle = handle) := by
    intro entry
    by_cases here : entry.handle = handle
    · rw [here, decide_eq_true kept, Bool.and_true]
    · rw [decide_eq_false here, Bool.false_and]
  simp only [lastWrite?, List.filter_filter, passes]

/-- The entry that a host answers a handle with. -/
def Resolver.entry? (r : Resolver) : Handle → Option Entry
  | .attributeToken id => (r.attributeToken id).map (.attributeToken id)
  | .schema id => (r.schema id).map (.schema id)
  | .endpointName id => (r.endpointName id).map (.endpointName id)

/-- Where two hosts have the same entries, they give the same answers. -/
theorem Resolver.answers_eq {first second : Resolver} :
    (∀ id, first.entry? (.attributeToken id) = second.entry? (.attributeToken id) →
      first.attributeToken id = second.attributeToken id) ∧
    (∀ id, first.entry? (.schema id) = second.entry? (.schema id) →
      first.schema id = second.schema id) ∧
    ∀ id, first.entry? (.endpointName id) = second.entry? (.endpointName id) →
      first.endpointName id = second.endpointName id := by
  -- An entry shows what the host has said about its handle.
  refine ⟨fun id same => ?_, fun id same => ?_, fun id same => ?_⟩
  · exact (Option.map_inj_right fun _ _ entries => (Entry.attributeToken.inj entries).2).1 same
  · exact (Option.map_inj_right fun _ _ entries => (Entry.schema.inj entries).2).1 same
  · exact (Option.map_inj_right fun _ _ entries => (Entry.endpointName.inj entries).2).1 same

/-- A table holds a written entry under its name and what it held before under every other. -/
theorem Table.get?_insert {α : Type} (t : Table α) (name other : String) (entry : α) :
    (t.insert name entry).get? other = if name = other then some entry else t.get? other := by
  -- Both cases are laws of the table, for the name written to and for any other.
  by_cases here : name = other
  · rw [if_pos here, ← here, get?_insert_self]
  · rw [if_neg here, get?_insert_of_ne t entry (Ne.symm here)]

/-- The same with every entry under a label that shows its name. -/
theorem Table.map_get?_insert {α β : Type} (t : Table α) (name other : String) (entry : α)
    (label : String → α → β) :
    ((t.insert name entry).get? other).map (label other) =
      if name = other then some (label name entry) else (t.get? other).map (label other) := by
  -- The label is put on what the table holds, so it shows the name asked for in both cases.
  rw [get?_insert]
  by_cases here : name = other
  · rw [if_pos here, if_pos here, here, Option.map_some]
  · rw [if_neg here, if_neg here]

namespace Catalog

/-- The catalog with an entry written to the table of its handle. -/
def write (c : Catalog) : Entry → Catalog
  | .attributeToken id token => c.withAttribute id token
  | .schema id schema => c.withSchema id schema
  | .endpointName id name => c.withEndpoint id name

/-- The catalog that writes lead to from an empty one. -/
def ofWrites (writes : List Entry) : Catalog :=
  writes.foldl write {}

/-- A write is found under its own handle and changes nothing under any other one, be it that of the
same name in another table. -/
@[simp] theorem entry?_write (c : Catalog) (entry : Entry) (handle : Handle) :
    (c.write entry).resolver.entry? handle =
      if entry.handle = handle then some entry else c.resolver.entry? handle := by
  -- In the table that is written to, names decide; a handle of another table never matches.
  cases entry with
  | attributeToken id token =>
    cases handle with
    | attributeToken other =>
      obtain ⟨name⟩ := id
      obtain ⟨other⟩ := other
      simp only [Entry.handle, Handle.attributeToken.injEq, AttributeId.mk.injEq]
      exact c.attributes.map_get?_insert name other token fun shown => Entry.attributeToken ⟨shown⟩
    | schema _ | endpointName _ => rfl
  | schema id schema =>
    cases handle with
    | schema other =>
      obtain ⟨name⟩ := id
      obtain ⟨other⟩ := other
      simp only [Entry.handle, Handle.schema.injEq, SchemaId.mk.injEq]
      exact c.schemas.map_get?_insert name other schema fun shown => Entry.schema ⟨shown⟩
    | attributeToken _ | endpointName _ => rfl
  | endpointName id assigned =>
    cases handle with
    | endpointName other =>
      obtain ⟨name⟩ := id
      obtain ⟨other⟩ := other
      simp only [Entry.handle, Handle.endpointName.injEq, EndpointId.mk.injEq]
      exact c.endpoints.map_get?_insert name other assigned fun shown => Entry.endpointName ⟨shown⟩
    | attributeToken _ | schema _ => rfl

/-- After a run of writes a handle has the last of them that went to it, and without one it has what
it had before. -/
theorem entry?_foldl_write (writes : List Entry) (c : Catalog) (handle : Handle) :
    (writes.foldl write c).resolver.entry? handle =
      (lastWrite? writes handle).or (c.resolver.entry? handle) := by
  -- The catalog changes with every write, so it stays quantified over.
  induction writes generalizing c with
  | nil => rfl
  | cons entry writes ih =>
    rw [List.foldl_cons, ih, entry?_write, lastWrite?_cons, Option.or_assoc]
    -- What is left is that the first write takes the place of what was there.
    split <;> rfl

/-- A catalog of writes has the last write under every handle. -/
@[simp] theorem entry?_ofWrites (writes : List Entry) (handle : Handle) :
    (ofWrites writes).resolver.entry? handle = lastWrite? writes handle := by
  -- An empty catalog has nothing under any handle.
  have nothing : ({} : Catalog).resolver.entry? handle = none := by cases handle <;> rfl
  rw [ofWrites, entry?_foldl_write, nothing, Option.or_none]

end Catalog

end Subscription
