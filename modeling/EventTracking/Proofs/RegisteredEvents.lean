import EventTracking.Proofs.DistinctKeys

/-!
# Registered events

A registry is filled by one event after the other. Whatever the events are, and however often a name
comes again, it records them in one way: every name has one place, which it keeps from its first
event on, and holds its last event there. Names are told apart by their segments, so two names that
are written alike have two places.

Main statements: a list that is filled from nothing has its keys in the order in which they came
first (`pairwise_map_putAll_nil`) and under each key the item that came last
(`find?_putAll_nil_eq_some_iff`), an item with a known key changes nothing but the item of that key
(`put_of_mem`), and so a registry records the events that were registered (`records_ofList`).
-/

namespace EventTracking

/-! ## Items with known keys -/

namespace Ordered

variable {α κ : Type} [DecidableEq κ]

/-- In a list with distinct keys, an item with a known key takes the place of the earlier one, and
all other items stay where they are. -/
theorem put_of_mem {key : α → κ} {new : α} {items : List α} (hnodup : (items.map key).Nodup)
    (h : key new ∈ items.map key) :
    put key new items = items.map fun item => if key item = key new then new else item := by
  induction items with
  | nil => cases h
  | cons item rest ih =>
      rw [List.map_cons, List.nodup_cons] at hnodup
      rw [put, List.map_cons]
      by_cases hsame : key item = key new
      · -- the key comes no second time, so the rest stays as it is
        have hrest : (rest.map fun other => if key other = key new then new else other) = rest := by
          refine (List.map_congr_left fun other hother => if_neg ?_).trans (List.map_id' rest)
          intro heq
          exact hnodup.1 (hsame ▸ heq ▸ List.mem_map_of_mem hother)
        rw [if_pos hsame, if_pos hsame, hrest]
      · have hmem : key new ∈ rest.map key := by
          rw [List.map_cons, List.mem_cons] at h
          exact h.resolve_left (Ne.symm hsame)
        rw [if_neg hsame, if_neg hsame, ih hnodup.2 hmem]

/-- Items may be changed before they are put in if they keep their keys. -/
theorem put_map {β : Type} {key : α → κ} {other : β → κ} {change : α → β}
    (h : ∀ item, other (change item) = key item) (new : α) (items : List α) :
    put other (change new) (items.map change) = (put key new items).map change := by
  induction items with
  | nil => rfl
  | cons item rest ih =>
      rw [List.map_cons, put, put, h, h, ih]
      split <;> rfl

/-- Items may be changed before they are put in one after the other if they keep their keys. -/
theorem putAll_map {β : Type} {key : α → κ} {other : β → κ} {change : α → β}
    (h : ∀ item, other (change item) = key item) (items new : List α) :
    putAll other (items.map change) (new.map change) = (putAll key items new).map change := by
  induction new generalizing items with
  | nil => rfl
  | cons item rest ih => rw [List.map_cons, putAll_cons, putAll_cons, put_map h, ih]

/-- In a list that is filled from nothing, a key stands before another one if it came first before
it. -/
theorem pairwise_map_putAll_nil (key : α → κ) (new : List α) :
    ((putAll key [] new).map key).Pairwise fun earlier later =>
      (new.map key).idxOf earlier < (new.map key).idxOf later := by
  induction new using List.reverseRecOn with
  | nil => exact .nil
  | append_singleton before last ih =>
      -- where the keys of the items before came first does not change
      have hcame {wanted : κ} (h : wanted ∈ (putAll key [] before).map key) :
          wanted ∈ before.map key := by
        rw [mem_map_putAll] at h
        exact h.resolve_left List.not_mem_nil
      have hbefore : ((putAll key [] before).map key).Pairwise fun earlier later =>
          (before.map key ++ [key last]).idxOf earlier <
            (before.map key ++ [key last]).idxOf later := by
        refine ih.imp_of_mem ?_
        intro earlier later hearlier hlater hlt
        rwa [List.idxOf_append_of_mem (hcame hearlier), List.idxOf_append_of_mem (hcame hlater)]
      rw [putAll_append, putAll_cons, putAll_nil, map_put, List.map_append, List.map_singleton]
      split
      · exact hbefore
      · rename_i hnew
        refine List.pairwise_append.2 ⟨hbefore, List.pairwise_singleton _ _, ?_⟩
        intro earlier hearlier later hlater
        obtain rfl := List.mem_singleton.1 hlater
        have hnotMem : key last ∉ before.map key := by
          intro hmem
          exact hnew (mem_map_putAll.2 (.inr hmem))
        rw [List.idxOf_append_of_mem (hcame hearlier), List.idxOf_append_of_notMem hnotMem]
        exact Nat.lt_add_right _ (List.idxOf_lt_length_iff.2 (hcame hearlier))

/-- In a list that is filled from nothing, the item under a key is the one that came last with that
key. -/
theorem find?_putAll_nil_eq_some_iff {key : α → κ} {new : List α} {wanted : κ} {item : α} :
    find? key wanted (putAll key [] new) = some item ↔
      key item = wanted ∧ ∃ before after, new = before ++ item :: after ∧
        ∀ later ∈ after, key later ≠ wanted := by
  rw [find?_putAll_nil, List.getLast?_filter, List.find?_eq_some_iff_append, decide_eq_true_iff]
  refine and_congr_right fun _ => ?_
  -- the search goes from the end to the front
  constructor
  · rintro ⟨front, back, hreverse, hfront⟩
    refine ⟨back.reverse, front.reverse, ?_, ?_⟩
    · rw [← List.reverse_reverse new, hreverse, List.reverse_append, List.reverse_cons,
        List.append_assoc, List.singleton_append]
    · intro later hlater
      simpa using hfront later (List.mem_reverse.1 hlater)
  · rintro ⟨before, after, rfl, hafter⟩
    refine ⟨after.reverse, before.reverse, ?_, ?_⟩
    · rw [List.reverse_append, List.reverse_cons, List.append_assoc, List.singleton_append]
    · intro later hlater
      simpa using hafter later (List.mem_reverse.1 hlater)

end Ordered

/-! ## Registries -/

/-- An event is the last one of its name among several events. -/
def Event.IsLastIn (event : Event) (events : List Event) : Prop :=
  ∃ before after, events = before ++ event :: after ∧ ∀ later ∈ after, later.name ≠ event.name

namespace Registry

/-- A map from names to events into which each event is put under its name. -/
def entriesOf (events : List Event) : List (QualifiedName × Event) :=
  Ordered.putAll Prod.fst [] (events.map fun event => (event.name, event))

/-- What a registry is after several events have been registered. -/
structure Records (registry : Registry) (events : List Event) : Prop where
  /-- No name stands twice. -/
  nodup_names : registry.names.Nodup
  /-- The names are those of the events. -/
  mem_names_iff : ∀ name, name ∈ registry.names ↔ ∃ event ∈ events, event.name = name
  /-- A name stands before another one if it came first before it. -/
  names_in_order : registry.names.Pairwise fun earlier later =>
    (events.map Event.name).idxOf earlier < (events.map Event.name).idxOf later
  /-- There are as many events as names. -/
  size_eq : registry.size = (events.map Event.name).toFinset.card
  /-- Each event is held under its own name. -/
  entriesOf_eq : entriesOf events = registry.events.map fun event => (event.name, event)
  /-- What is found under a name is the last event of that name. -/
  get?_eq_some_iff : ∀ name event,
    registry.get? name = some event ↔ event.name = name ∧ event.IsLastIn events
  /-- Nothing is found under a name that no event has. -/
  get?_eq_none_iff : ∀ name, registry.get? name = none ↔ ∀ event ∈ events, event.name ≠ name
  /-- The fields under a name are those of the last event of that name. -/
  fields?_eq_some_iff : ∀ name fields, registry.fields? name = some fields ↔
    ∃ event : Event, event.name = name ∧ event.IsLastIn events ∧ event.fields = fields

/-- An event is found under a name if it is the last one of that name. -/
theorem get?_ofList_eq_some_iff {events : List Event} {name : QualifiedName} {event : Event} :
    (ofList events).get? name = some event ↔ event.name = name ∧ event.IsLastIn events := by
  rw [get?, events_ofList, Ordered.find?_putAll_nil_eq_some_iff]
  constructor
  · rintro ⟨rfl, hlast⟩
    exact ⟨rfl, hlast⟩
  · rintro ⟨rfl, hlast⟩
    exact ⟨rfl, hlast⟩

/-- The names of a registry are those of the events that were registered. -/
theorem mem_names_ofList_iff {events : List Event} {name : QualifiedName} :
    name ∈ (ofList events).names ↔ ∃ event ∈ events, event.name = name := by
  rw [names, events_ofList, Ordered.mem_map_putAll, List.map_nil, List.mem_map]
  exact or_iff_right List.not_mem_nil

/-- A registry records the events that were registered. -/
theorem records_ofList (events : List Event) : (ofList events).Records events where
  nodup_names := by
    rw [names, events_ofList]
    exact Ordered.nodup_map_putAll_nil Event.name events
  mem_names_iff _ := mem_names_ofList_iff
  names_in_order := by
    rw [names, events_ofList]
    exact Ordered.pairwise_map_putAll_nil Event.name events
  size_eq := by
    rw [size, events_ofList, Ordered.length_putAll_nil, List.card_toFinset]
  entriesOf_eq := by
    rw [events_ofList]
    exact Ordered.putAll_map (fun _ => rfl) [] events
  get?_eq_some_iff _ _ := get?_ofList_eq_some_iff
  get?_eq_none_iff name := by
    rw [get?, Ordered.find?, List.find?_eq_none]
    constructor
    · intro h event hevent hname
      obtain ⟨found, hfound, hsame⟩ :=
        List.mem_map.1 (mem_names_ofList_iff.2 ⟨event, hevent, hname⟩)
      exact h found hfound (by simpa using hsame)
    · intro h found hfound hsame
      exact h found (mem_of_mem_ofList hfound) (by simpa using hsame)
  fields?_eq_some_iff name fields := by
    rw [fields?, Option.map_eq_some_iff]
    simp only [get?_ofList_eq_some_iff, and_assoc]

/-- After any run of registrations a registry holds every name once, in the order in which the names
came first, each with the last event of that name, and finds nothing else. Registering an event
under a name that is known changes neither the names nor the event of any other name. -/
theorem registry_of_insertions (events : List Event) :
    (ofList events).Records events ∧
      ∀ event : Event, event.name ∈ (ofList events).names →
        ((ofList events).insert event).names = (ofList events).names ∧
        ((ofList events).insert event).events = (ofList events).events.map fun known =>
          if known.name = event.name then event else known := by
  have hrecords := records_ofList events
  refine ⟨hrecords, fun event hknown => ⟨?_, ?_⟩⟩
  · rw [names_insert, if_pos hknown]
  · exact Ordered.put_of_mem hrecords.nodup_names hknown

/-- Three events under two names that are written alike. -/
def shownEvents : List Event :=
  [⟨⟨["crate::Screen", "Shown"]⟩, .unit, []⟩,
   ⟨⟨["crate", "Screen", "Shown"]⟩, .braced, ["at"]⟩,
   ⟨⟨["crate::Screen", "Shown"]⟩, .newtype, ["by"]⟩]

/-- Both names have their places, and another event under the second one leaves the first alone. -/
theorem registry_of_shownEvents :
    let again : Event := ⟨⟨["crate", "Screen", "Shown"]⟩, .tuple, []⟩
    let registry := ofList shownEvents
    registry.names.map QualifiedName.display = ["crate::Screen::Shown", "crate::Screen::Shown"] ∧
      registry.size = 2 ∧
      registry.get? ⟨["crate::Screen", "Shown"]⟩ =
        some ⟨⟨["crate::Screen", "Shown"]⟩, .newtype, ["by"]⟩ ∧
      again.name ∈ registry.names ∧
      (registry.insert again).names = registry.names ∧
      (registry.insert again).events =
        [⟨⟨["crate::Screen", "Shown"]⟩, .newtype, ["by"]⟩, again] := by
  intro again registry
  obtain ⟨hrecords, hinsert⟩ := registry_of_insertions shownEvents
  have hknown : again.name ∈ registry.names := by decide
  obtain ⟨hnames, hevents⟩ := hinsert again hknown
  refine ⟨by decide, hrecords.size_eq, ?_, hknown, hnames, hevents⟩
  refine (hrecords.get?_eq_some_iff _ _).2 ⟨rfl, shownEvents.take 2, [], rfl, ?_⟩
  intro later hlater
  cases hlater

end Registry

end EventTracking
