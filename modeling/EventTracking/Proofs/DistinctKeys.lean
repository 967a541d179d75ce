import EventTracking.Registry
import EventTracking.Tracker
import Mathlib

/-!
# Filling lists with distinct keys

Registries and payloads are lists with distinct keys, filled item by item. An item with a new key
goes to the end; an item with a known key takes the place of the earlier one. So nothing is lost
exactly if the items that come have distinct keys themselves.

Main statements: the keys stay distinct (`nodup_map_putAll`), they are the keys of the items
(`mem_map_putAll`) in the order in which they came first (`map_putAll_nil`), each with the item that
came last (`getLast?_of_mem_putAll`), items with distinct keys are all kept in order
(`putAll_of_nodup`), and there are as many entries as keys (`length_putAll_nil`).
-/

namespace EventTracking

namespace Ordered

variable {α κ : Type} [DecidableEq κ]

/-- An item with a new key goes to the end. -/
theorem put_of_notMem {key : α → κ} {new : α} {items : List α} (h : key new ∉ items.map key) :
    put key new items = items ++ [new] := by
  induction items with
  | nil => rfl
  | cons item rest ih =>
      rw [List.map_cons, List.mem_cons, not_or] at h
      rw [put, if_neg (Ne.symm h.1), ih h.2, List.cons_append]

/-- The keys of a list stay distinct when an item is put in. -/
theorem nodup_map_put {key : α → κ} {items : List α} (h : (items.map key).Nodup) (new : α) :
    ((put key new items).map key).Nodup := by
  rw [map_put]
  split
  · exact h
  · rename_i hnew
    rw [List.nodup_append]
    refine ⟨h, List.nodup_singleton _, ?_⟩
    rintro known hknown found hfound rfl
    rw [List.mem_singleton] at hfound
    exact hnew (hfound ▸ hknown)

/-- The keys of a list are the known ones and the one that was put in. -/
theorem mem_map_put {key : α → κ} {new : α} {items : List α} {wanted : κ} :
    wanted ∈ (put key new items).map key ↔ wanted ∈ items.map key ∨ wanted = key new := by
  rw [map_put]
  split
  · rename_i hknown
    constructor
    · exact .inl
    · rintro (h | rfl)
      · exact h
      · exact hknown
  · rw [List.mem_append, List.mem_singleton]

/-- Items are put in one after the other. -/
theorem putAll_cons (key : α → κ) (items : List α) (item : α) (new : List α) :
    putAll key items (item :: new) = putAll key (put key item items) new := rfl

/-- Items of two lists are put in one list after the other. -/
theorem putAll_append (key : α → κ) (items new more : List α) :
    putAll key items (new ++ more) = putAll key (putAll key items new) more :=
  List.foldl_append

/-- The keys of a list stay distinct when items are put in. -/
theorem nodup_map_putAll {key : α → κ} {items : List α} (h : (items.map key).Nodup)
    (new : List α) : ((putAll key items new).map key).Nodup := by
  induction new generalizing items with
  | nil => exact h
  | cons item rest ih => exact ih (nodup_map_put h item)

/-- A list that is filled from nothing has distinct keys. -/
theorem nodup_map_putAll_nil (key : α → κ) (new : List α) : ((putAll key [] new).map key).Nodup :=
  nodup_map_putAll (show (([] : List α).map key).Nodup from List.nodup_nil) new

/-- The keys of a list are the known ones and those that were put in. -/
theorem mem_map_putAll {key : α → κ} {items new : List α} {wanted : κ} :
    wanted ∈ (putAll key items new).map key ↔ wanted ∈ items.map key ∨ wanted ∈ new.map key := by
  induction new generalizing items with
  | nil => simp [putAll_nil]
  | cons item rest ih =>
      rw [putAll_cons, ih, mem_map_put, List.map_cons, List.mem_cons, or_assoc]

/-- An item of a list was there before or is the one that was put in. -/
theorem mem_of_mem_put {key : α → κ} {new item : α} {items : List α}
    (h : item ∈ put key new items) : item = new ∨ item ∈ items := by
  induction items with
  | nil => exact .inl (List.mem_singleton.1 h)
  | cons first rest ih =>
      rw [put] at h
      split at h
      · rcases List.mem_cons.1 h with hnew | hrest
        · exact .inl hnew
        · exact .inr (List.mem_cons_of_mem _ hrest)
      · rcases List.mem_cons.1 h with rfl | hrest
        · exact .inr List.mem_cons_self
        · exact (ih hrest).imp_right (List.mem_cons_of_mem _)

/-- An item of a list was there before or is one of those that were put in. -/
theorem mem_of_mem_putAll {key : α → κ} {items new : List α} {item : α}
    (h : item ∈ putAll key items new) : item ∈ new ∨ item ∈ items := by
  induction new generalizing items with
  | nil => exact .inr h
  | cons first rest ih =>
      rw [putAll_cons] at h
      rcases ih h with hrest | hput
      · exact .inl (List.mem_cons_of_mem _ hrest)
      · rcases mem_of_mem_put hput with rfl | hitem
        · exact .inl List.mem_cons_self
        · exact .inr hitem

/-- Items with new and distinct keys go to the end in order. -/
theorem putAll_of_nodup {key : α → κ} {items new : List α}
    (h : ((items ++ new).map key).Nodup) : putAll key items new = items ++ new := by
  induction new generalizing items with
  | nil => rw [putAll_nil, List.append_nil]
  | cons item rest ih =>
      have hnew : key item ∉ items.map key := by
        rw [List.map_append, List.nodup_append] at h
        intro hmem
        exact h.2.2 _ hmem _ (List.mem_map_of_mem List.mem_cons_self) rfl
      rw [List.append_cons] at h ⊢
      rw [putAll_cons, put_of_notMem hnew, ih h]

/-- Of the items that are put in, the last one with a key is found under it. -/
theorem find?_putAll (key : α → κ) (items new : List α) (wanted : κ) :
    find? key wanted (putAll key items new) =
      ((new.filter fun item => key item = wanted).getLast?).or (find? key wanted items) := by
  induction new generalizing items with
  | nil => rfl
  | cons item rest ih =>
      rw [putAll_cons, ih]
      by_cases h : key item = wanted
      · subst h
        rw [List.filter_cons_of_pos (by simp), find_put_self, List.getLast?_cons,
          Option.or_some]
        cases (rest.filter fun other => decide (key other = key item)).getLast? <;> rfl
      · rw [List.filter_cons_of_neg (by simpa using h), find_put_of_ne h]

/-- In a list that is filled from nothing, the last item with a key is found under it. -/
theorem find?_putAll_nil (key : α → κ) (new : List α) (wanted : κ) :
    find? key wanted (putAll key [] new) =
      (new.filter fun item => key item = wanted).getLast? := by
  have hnone : find? key wanted [] = none := rfl
  rw [find?_putAll, hnone, Option.or_none]

/-- The keys that come in for the first time go to the end, in the order in which they come. -/
theorem map_putAll (key : α → κ) (items new : List α) :
    (putAll key items new).map key =
      items.map key ++ ((new.map key).filter fun wanted => wanted ∉ items.map key).eraseDups := by
  induction new generalizing items with
  | nil => rw [putAll_nil, List.map_nil, List.filter_nil, List.eraseDups_nil, List.append_nil]
  | cons item rest ih =>
      rw [putAll_cons, ih, map_put, List.map_cons]
      by_cases hknown : key item ∈ items.map key
      · rw [if_pos hknown, List.filter_cons_of_neg (by simpa using hknown)]
      · -- the new key is not looked for a second time
        have hfilter :
            ((rest.map key).filter fun wanted => wanted ∉ items.map key ++ [key item]) =
              ((rest.map key).filter fun wanted => wanted ∉ items.map key).filter
                fun wanted => !wanted == key item := by
          rw [List.filter_filter]
          apply List.filter_congr
          intro wanted _
          by_cases hsame : wanted = key item <;> simp [hsame]
        rw [if_neg hknown, List.filter_cons_of_pos (by simpa using hknown), List.eraseDups_cons,
          hfilter, List.append_assoc, List.singleton_append]

/-- A list that is filled from nothing has every key once, in the order in which the keys came
first. -/
theorem map_putAll_nil (key : α → κ) (new : List α) :
    (putAll key [] new).map key = (new.map key).eraseDups := by
  rw [map_putAll, List.map_nil, List.nil_append]
  congr 1
  exact List.filter_eq_self.2 fun _ _ => by simp

/-- An item of a list with distinct keys is found under its key. -/
theorem find?_of_mem {key : α → κ} {items : List α} (h : (items.map key).Nodup) {item : α}
    (hitem : item ∈ items) : find? key (key item) items = some item := by
  induction items with
  | nil => cases hitem
  | cons first rest ih =>
      rw [List.map_cons, List.nodup_cons] at h
      rw [find?, List.find?_cons]
      rcases List.mem_cons.1 hitem with rfl | hrest
      · simp
      · have hne : key first ≠ key item := by
          intro heq
          exact h.1 (heq ▸ List.mem_map_of_mem hrest)
        simpa [hne, find?] using ih h.2 hrest

/-- An item of a list that is filled from nothing came last of those with its key. -/
theorem getLast?_of_mem_putAll {key : α → κ} {new : List α} {item : α}
    (h : item ∈ putAll key [] new) :
    (new.filter fun other => key other = key item).getLast? = some item := by
  rw [← find?_putAll_nil]
  exact find?_of_mem (nodup_map_putAll_nil key new) h

/-- A list that is filled from nothing has as many entries as there are keys. -/
theorem length_putAll_nil (key : α → κ) (new : List α) :
    (putAll key [] new).length = (new.map key).dedup.length := by
  -- both lists hold the same keys, and neither of them repeats one
  have hperm : ((putAll key [] new).map key).Perm (new.map key).dedup := by
    refine (List.perm_ext_iff_of_nodup (nodup_map_putAll_nil key new) (List.nodup_dedup _)).2 ?_
    intro wanted
    rw [mem_map_putAll, List.map_nil, List.mem_dedup]
    simp only [List.not_mem_nil, false_or]
  rw [← hperm.length_eq, List.length_map]

end Ordered

/-! ## Registries and payloads -/

/-- The events of a registry are put in one after the other. -/
theorem Registry.events_ofList (events : List Event) :
    (ofList events).events = Ordered.putAll Event.name [] events := by
  have hfold (registry : Registry) : (events.foldl insert registry).events =
      Ordered.putAll Event.name registry.events events := by
    induction events generalizing registry with
    | nil => rfl
    | cons event rest ih => exact ih (registry.insert event)
  exact hfold empty

/-- A registered event is one of those that were registered. -/
theorem Registry.mem_of_mem_ofList {events : List Event} {event : Event}
    (h : event ∈ (ofList events).events) : event ∈ events := by
  rw [events_ofList] at h
  rcases Ordered.mem_of_mem_putAll h with hnew | hnil
  · exact hnew
  · cases hnil

/-- Events with distinct names are all registered in order. -/
theorem Registry.events_ofList_of_nodup {events : List Event}
    (h : (events.map Event.name).Nodup) : (ofList events).events = events := by
  rw [events_ofList, Ordered.putAll_of_nodup h, List.nil_append]

namespace EventPayload

open Payload (Value)

/-- The payload that is made of keys and their values, inserted one after the other. -/
def ofList (entries : List (String × Value)) : EventPayload :=
  entries.foldl (fun payload entry => payload.insert entry.1 entry.2) empty

/-- The entries of a payload are put in one after the other. -/
theorem entries_ofList (entries : List (String × Value)) :
    (ofList entries).entries = Ordered.putAll Prod.fst [] entries := by
  have hfold (payload : EventPayload) :
      (entries.foldl (fun filled entry => filled.insert entry.1 entry.2) payload).entries =
        Ordered.putAll Prod.fst payload.entries entries := by
    induction entries generalizing payload with
    | nil => rfl
    | cons entry rest ih => exact ih (payload.insert entry.1 entry.2)
  exact hfold empty

end EventPayload

end EventTracking
