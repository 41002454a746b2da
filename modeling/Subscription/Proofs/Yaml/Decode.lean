import Subscription.Yaml.Decode

/-! What all results of a reading have in common, by rules for the ways in which readings are put
together. A reading none of whose results exist is one that always fails. -/

namespace Subscription.Yaml.Decode

variable {α β : Type}

/-- Whether every result of a reading has a property, however many aliases have been followed. -/
def Ensures (P : α → Prop) (m : Decode α) : Prop :=
  ∀ followed x followed', m followed = some (x, followed') → P x

/-- Whether a reading has no result. -/
def Fails (m : Decode α) : Prop :=
  m.Ensures fun _ => False

variable {P : α → Prop} {Q : β → Prop}

/-! Rules -/

theorem ensures_pure {x : α} (holds : P x) : Ensures P (pure x) := by
  -- The one result is the value itself.
  intro followed y followed' given
  cases given
  exact holds

theorem ensures_failure : Ensures P failure := by
  -- There is no result to speak of.
  intro followed x followed' given
  cases given

theorem ensures_bind {m : Decode β} {next : β → Decode α} (first : Ensures Q m)
    (second : ∀ y, Q y → Ensures P (next y)) : Ensures P (m >>= next) := by
  -- A result comes from one of the first reading, which has the property that the second needs.
  intro followed x followed' given
  obtain ⟨⟨y, between⟩, ran, rest⟩ := Option.bind_eq_some_iff.1 given
  exact second y (first followed y between ran) between x followed' rest

/-- What a second reading ensures on its own it ensures behind any first one. -/
theorem ensures_bind_of_forall {m : Decode β} {next : β → Decode α}
    (second : ∀ y, Ensures P (next y)) : Ensures P (m >>= next) :=
  -- The first reading ensures nothing, which it always does.
  ensures_bind (fun _ _ _ _ => trivial) fun y (_ : True) => second y

/-- A reading that waits for one that fails does not get to its result. -/
theorem fails_bind {m : Decode β} {next : β → Decode α} (fails : m.Fails) :
    Fails (m >>= next) :=
  -- The second reading is given what does not exist.
  ensures_bind fails fun _ => False.elim

theorem fails_map {m : Decode β} {f : β → α} (fails : m.Fails) : Fails (f <$> m) := by
  -- A function needs a result to be applied to.
  intro followed x followed' given
  obtain ⟨⟨y, between⟩, ran, -⟩ := Option.bind_eq_some_iff.1 given
  exact fails followed y between ran

/-- A property that each step of a loop keeps holds behind the loop. -/
theorem ensures_forIn {γ : Type} {xs : List γ} {body : γ → α → Decode (ForInStep α)} {start : α}
    (holds : P start) (step : ∀ y x, P x → Ensures (fun after => P after.value) (body y x)) :
    Ensures P (forIn xs start body) := by
  -- The induction is on what is left to do, from any state with the property.
  induction xs generalizing start with
  | nil => exact ensures_pure holds
  | cons y ys ih =>
    rw [List.forIn_cons]
    refine ensures_bind (step y start holds) fun after kept => ?_
    cases after with
    | done x => exact ensures_pure kept
    | yield x => exact ih kept

/-! Records and choices -/

/-- What is looked up is in the list. -/
theorem exists_mem_of_lookup {name : String} {xs : List (String × α)} {x : α}
    (found : xs.lookup name = some x) : ∃ entry ∈ xs, entry.2 = x := by
  -- It stands behind entries of other names.
  obtain ⟨before, behind, rfl, -⟩ := List.lookup_eq_some_iff.1 found
  exact ⟨(name, x), by simp, rfl⟩

/-- A word stands for one of the values that it is looked up among. -/
theorem ensures_lookup {words : List (String × α)} {name : String}
    (chosen : ∀ word ∈ words, P word.2) : Ensures P (words.lookup name : Option α) := by
  -- A word that is not found there gives no result.
  intro followed x followed' given
  obtain ⟨y, found, same⟩ := Option.bind_eq_some_iff.1 given
  cases same
  obtain ⟨entry, member, rfl⟩ := exists_mem_of_lookup found
  exact chosen entry member

/-- A property that every field keeps holds of the whole record, whichever fields there are and in
whatever order. -/
theorem ensures_record {d : Document} {fields : List (String × (α → Node Nat → Decode α))}
    {start : α} {n : Node Nat} (holds : P start)
    (kept : ∀ field ∈ fields, ∀ x value, P x → Ensures P (field.2 x value)) :
    Ensures P (record d fields start n) := by
  unfold record
  refine ensures_bind_of_forall fun pairs => ?_
  -- The loop goes from pair to pair; beside what was read, it only notes the names.
  refine ensures_bind (Q := fun state => P state.1) (ensures_forIn holds ?_)
    fun state done => ensures_pure done
  rintro ⟨key, value⟩ ⟨x, seen⟩ before
  refine ensures_bind_of_forall fun name => ?_
  split
  · exact ensures_pure before
  · next field found =>
    obtain ⟨entry, member, rfl⟩ := exists_mem_of_lookup found
    have read := kept entry member x value before
    split
    · exact ensures_bind_of_forall fun _ => ensures_bind read fun _ after => ensures_pure after
    · exact ensures_bind read fun _ after => ensures_pure after

/-- What every alternative ensures, a choice of them does. -/
theorem ensures_choice {d : Document} {words : List (String × α)}
    {others : List (String × (Node Nat → Decode α))} {n : Node Nat}
    (chosen : ∀ word ∈ words, P word.2) (read : ∀ other ∈ others, ∀ n, Ensures P (other.2 n)) :
    Ensures P (choice d words others n) := by
  unfold choice
  refine ensures_bind_of_forall fun n => ?_
  -- A tag leads to an alternative of either kind, and a bare word to one without content.
  split
  · split
    · next found =>
      obtain ⟨entry, member, rfl⟩ := exists_mem_of_lookup found
      exact ensures_bind_of_forall fun _ => ensures_pure (chosen entry member)
    · next found =>
      obtain ⟨entry, member, rfl⟩ := exists_mem_of_lookup found
      exact read entry member _
    · exact ensures_failure
  · exact ensures_lookup chosen
  · exact ensures_failure

/-- What every word ensures, a choice within another one does, since only a word is read there. -/
theorem ensures_nestedChoice {words : List (String × α)} {n : Node Nat}
    (chosen : ∀ word ∈ words, P word.2) : Ensures P (nestedChoice words n) := by
  -- An alternative with content is refused without a look at the content.
  unfold nestedChoice
  split
  · split
    · exact ensures_failure
    · exact ensures_lookup chosen
  · exact ensures_failure

end Subscription.Yaml.Decode
