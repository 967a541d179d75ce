import EventTracking.Proofs.DistinctKeys
import EventTracking.Proofs.FailingData

/-!
# Tracked events

An event is sent through a handle, with a payload that is filled with data key by key. Whatever the
handle is, its tracker receives the event once and whole. In the payload every key stands where it
was inserted first, with the value of the datum that was inserted last. A datum that fails is
recorded as null and logged; it touches no other entry.

Main statements: which keys a filled payload has (`keys_filled`) and with which values
(`get?_filled`), what a handle does with an event (`send_eq`), and what becomes of a sequence of
events (`delivery_of_events`).
-/

namespace EventTracking

open Payload

/-! ## Filled payloads -/

namespace EventPayload

variable {payload : EventPayload} {data before after : List (String × Datum)} {key : String}
  {datum : Datum}

/-- The entries that data are recorded as. -/
def recorded (data : List (String × Datum)) : List (String × Value) :=
  data.map fun entry => (entry.1, entry.2.record.1)

/-- Data are inserted as they are recorded. -/
theorem entries_insertAll (payload : EventPayload) (data : List (String × Datum)) :
    (payload.insertAll data).1.entries =
      Ordered.putAll Prod.fst payload.entries (recorded data) := by
  induction data generalizing payload with
  | nil => rfl
  | cons entry rest ih => exact ih (payload.insert entry.1 entry.2.record.1)

/-- What is logged of data is logged of each of them, in order. -/
theorem logged_insertAll (payload : EventPayload) (data : List (String × Datum)) :
    (payload.insertAll data).2 = data.flatMap fun entry => entry.2.record.2 := by
  induction data generalizing payload with
  | nil => rfl
  | cons entry rest ih =>
      rw [List.flatMap_cons, ← ih (payload.insert entry.1 entry.2.record.1)]
      rfl

/-- The payload that is filled with data. -/
def filled (data : List (String × Datum)) : EventPayload := (empty.insertAll data).1

/-- The entries of a filled payload are put in one after the other. -/
theorem entries_filled (data : List (String × Datum)) :
    (filled data).entries = Ordered.putAll Prod.fst [] (recorded data) :=
  entries_insertAll empty data

/-- The recorded entries have the keys of the data. -/
theorem map_fst_recorded (data : List (String × Datum)) :
    (recorded data).map Prod.fst = data.map Prod.fst := by
  rw [recorded, List.map_map]
  rfl

/-- The keys of a filled payload are the keys of the data in the order of first insertion. -/
theorem keys_filled (data : List (String × Datum)) :
    (filled data).entries.map Prod.fst = (data.map Prod.fst).eraseDups := by
  rw [entries_filled, Ordered.map_putAll_nil, map_fst_recorded]

/-- A key of a filled payload has the value of the datum that was inserted last. -/
theorem get?_filled (data : List (String × Datum)) (key : String) :
    (filled data).get? key =
      ((data.filter fun entry => entry.1 = key).getLast?).map fun entry => entry.2.record.1 := by
  have hfilter : ((recorded data).filter fun entry => entry.1 = key) =
      recorded (data.filter fun entry => entry.1 = key) := by
    rw [recorded, List.filter_map]
    rfl
  rw [get?, entries_filled, Ordered.find?_putAll_nil, hfilter, recorded, List.getLast?_map,
    Option.map_map]
  rfl

/-- An entry of a filled payload is how the datum is recorded that was inserted last. -/
theorem exists_of_mem_filled {value : Value} (h : (key, value) ∈ (filled data).entries) :
    ∃ datum, (data.filter fun entry => entry.1 = key).getLast? = some (key, datum) ∧
      datum.IsRecordedAs value := by
  have hnodup : ((filled data).entries.map Prod.fst).Nodup := by
    rw [entries_filled]
    exact Ordered.nodup_map_putAll_nil Prod.fst _
  have hget : (filled data).get? key = some value := by
    rw [get?, Ordered.find?_of_mem hnodup h]
    rfl
  rw [get?_filled] at hget
  obtain ⟨⟨found, datum⟩, hlast, rfl⟩ := Option.map_eq_some_iff.1 hget
  have hkey := List.of_mem_filter (List.mem_of_getLast? hlast)
  obtain rfl : found = key := of_decide_eq_true hkey
  exact ⟨datum, hlast, datum.isRecordedAs_record.1⟩

/-- One more datum counts for no key but its own. -/
theorem get?_filled_of_ne {other : String} (h : other ≠ key) :
    (filled (before ++ (key, datum) :: after)).get? other =
      (filled (before ++ after)).get? other := by
  rw [get?_filled, get?_filled, List.filter_append, List.filter_append,
    List.filter_cons_of_neg (by simpa using h.symm)]

/-- A datum that fails and is the last one with its key leaves null under that key. -/
theorem get?_filled_of_fails (hfails : datum.Fails) (hlast : key ∉ after.map Prod.fst) :
    (filled (before ++ (key, datum) :: after)).get? key = some .null := by
  have hafter : (after.filter fun entry => entry.1 = key) = [] := by
    rw [List.filter_eq_nil_iff]
    intro entry hentry hkey
    exact hlast (of_decide_eq_true hkey ▸ List.mem_map_of_mem hentry)
  rw [get?_filled, List.filter_append, List.filter_cons_of_pos (by simp), hafter,
    List.getLast?_concat, Option.map_some, hfails.record_eq]

/-- There are as many warnings as data that fail. -/
theorem length_logged (payload : EventPayload) (data : List (String × Datum)) :
    (payload.insertAll data).2.length = data.countP fun entry => entry.2.Fails := by
  rw [logged_insertAll]
  induction data with
  | nil => rfl
  | cons entry rest ih =>
      rw [List.flatMap_cons, List.length_append, ih, entry.2.isRecordedAs_record.2.1,
        List.countP_cons, Nat.add_comm]
      by_cases hfails : entry.2.Fails <;> simp [hfails]

/-- What is logged while a payload is filled are warnings. -/
theorem level_of_mem_logged {event : LogEvent} (h : event ∈ (payload.insertAll data).2) :
    event.level = .warn := by
  rw [logged_insertAll] at h
  obtain ⟨entry, -, hevent⟩ := List.mem_flatMap.1 h
  exact entry.2.isRecordedAs_record.2.2 event hevent

end EventPayload

/-! ## Sent events -/

/-- An event on its way. -/
structure Sending where
  /-- The handle that it is sent through. -/
  handle : Handle
  /-- The name of the event. -/
  name : String
  /-- The keys and data that its payload is filled with. -/
  data : List (String × Datum)

namespace Sending

/-- The payload of an event on its way. -/
def payload (sending : Sending) : EventPayload := .filled sending.data

/-- What is logged while that payload is filled. -/
def warnings (sending : Sending) : List LogEvent :=
  (EventPayload.empty.insertAll sending.data).2

/-- The number of an event's data that fail. -/
def failures (sending : Sending) : Nat := sending.data.countP fun entry => entry.2.Fails

end Sending

/-- Sends events one after the other. -/
def sendAll : List Sending → Receipt
  | [] => ⟨[], []⟩
  | sending :: rest =>
    let receipt := sending.handle.send sending.name sending.data
    let more := sendAll rest
    ⟨receipt.tracked ++ more.tracked, receipt.log ++ more.log⟩

/-- An event that is sent is received once by the tracker that the handle leads to, after the
warnings about its data. -/
theorem Handle.send_eq (handle : Handle) (name : String) (data : List (String × Datum)) :
    handle.send name data =
      ⟨(handle.tracker.receive name (.filled data)).tracked,
        (EventPayload.empty.insertAll data).2 ++
          (handle.tracker.receive name (.filled data)).log⟩ := by
  rw [EventPayload.filled, ← Handle.track_eq]
  rfl

/-- Receiving an event logs no warning. -/
theorem level_of_mem_log_receive {tracker : Tracker} {name : String} {payload : EventPayload}
    {event : LogEvent} (h : event ∈ (tracker.receive name payload).log) : event.level = .info := by
  cases tracker with
  | recording => cases h
  | logging =>
      rw [List.mem_singleton.1 h]
      rfl

/-- Of what an event leaves in the log, the warnings are those about its data. -/
theorem countP_log_send (sending : Sending) :
    (sending.handle.send sending.name sending.data).log.countP (·.level = .warn) =
      sending.failures := by
  have hreceive : (sending.handle.tracker.receive sending.name
      (.filled sending.data)).log.countP (·.level = .warn) = 0 := by
    rw [List.countP_eq_zero]
    intro event hevent
    rw [level_of_mem_log_receive hevent]
    decide
  have hwarnings : (EventPayload.empty.insertAll sending.data).2.countP (·.level = .warn) =
      (EventPayload.empty.insertAll sending.data).2.length := by
    rw [List.countP_eq_length]
    intro event hevent
    rw [EventPayload.level_of_mem_logged hevent]
    decide
  rw [Handle.send_eq, List.countP_append, hreceive, hwarnings, EventPayload.length_logged,
    Sending.failures, Nat.add_zero]

/-- Events that are sent one after the other through handles of one tracker are received by it one
after the other, each after the warnings about its data. -/
theorem sendAll_eq {tracker : Tracker} {sendings : List Sending}
    (h : ∀ sending ∈ sendings, sending.handle.tracker = tracker) :
    sendAll sendings =
      ⟨sendings.flatMap fun sending => (tracker.receive sending.name sending.payload).tracked,
        sendings.flatMap fun sending =>
          sending.warnings ++ (tracker.receive sending.name sending.payload).log⟩ := by
  induction sendings with
  | nil => rfl
  | cons sending rest ih =>
      obtain ⟨htracker, hrest⟩ := List.forall_mem_cons.1 h
      rw [sendAll, ih hrest, Handle.send_eq, htracker, List.flatMap_cons, List.flatMap_cons]
      rfl

/-- There are as many warnings in the log as data of all the events that fail. -/
theorem countP_log_sendAll (sendings : List Sending) :
    (sendAll sendings).log.countP (·.level = .warn) = (sendings.map Sending.failures).sum := by
  induction sendings with
  | nil => rfl
  | cons sending rest ih =>
      rw [List.map_cons, List.sum_cons, ← ih, ← countP_log_send, sendAll, List.countP_append]

/-- Every event of a sequence is delivered once and whole. Through whatever handles the events are
sent, their tracker receives one call for each of them, in order, with its name and its payload. The
payload has the keys of the data in the order in which they were inserted first, each with the value
of the datum that was inserted last. That value is the datum as a whole, or null if any part of the
datum fails. There is one warning for each datum that fails, and no entry under another key depends
on it. -/
theorem delivery_of_events {tracker : Tracker} {sendings : List Sending}
    (h : ∀ sending ∈ sendings, sending.handle.tracker = tracker) :
    (sendAll sendings).tracked = (sendings.flatMap fun sending =>
      (tracker.receive sending.name sending.payload).tracked) ∧
    (sendAll sendings).log = (sendings.flatMap fun sending =>
      sending.warnings ++ (tracker.receive sending.name sending.payload).log) ∧
    (tracker = .recording → (sendAll sendings).tracked =
      sendings.map fun sending => (sending.name, sending.payload)) ∧
    (sendAll sendings).log.countP (·.level = .warn) = (sendings.map Sending.failures).sum ∧
    ∀ sending ∈ sendings,
      sending.payload.entries.map Prod.fst = (sending.data.map Prod.fst).eraseDups ∧
      (∀ key value, (key, value) ∈ sending.payload.entries → ∃ datum,
        (sending.data.filter fun entry => entry.1 = key).getLast? = some (key, datum) ∧
          datum.IsRecordedAs value) ∧
      sending.warnings.length = sending.failures ∧
      ∀ before key datum after, sending.data = before ++ (key, datum) :: after → datum.Fails →
        (key ∉ after.map Prod.fst → sending.payload.get? key = some .null) ∧
        ∀ other, other ≠ key →
          sending.payload.get? other = (EventPayload.filled (before ++ after)).get? other := by
  rw [← countP_log_sendAll, sendAll_eq h]
  refine ⟨rfl, rfl, ?_, rfl, ?_⟩
  · rintro rfl
    rw [List.map_eq_flatMap]
    rfl
  · intro sending _
    refine ⟨EventPayload.keys_filled _, fun key value => EventPayload.exists_of_mem_filled,
      EventPayload.length_logged _ _, ?_⟩
    intro before key datum after hdata hfails
    rw [Sending.payload, hdata]
    exact ⟨EventPayload.get?_filled_of_fails hfails,
      fun other hother => EventPayload.get?_filled_of_ne hother⟩

/-- Two events that are sent through nested handles of one tracker. The first has a key twice and a
number that is out of range inside a row. -/
def openedAndClosed : List Sending :=
  [⟨.through .owned (.through .hidden (.direct .recording)), "OPENED",
    [("screen", .text "home"), ("sizes", .sequence [.integer 1, .present (.integer (2 ^ 80))]),
     ("screen", .text "menu")]⟩,
   ⟨.through .borrowed (.through .sharedBetweenThreads (.direct .recording)), "CLOSED", []⟩]

/-- The tracker receives both events. The row is recorded as null, with one warning. -/
theorem delivery_of_openedAndClosed :
    (∀ sending ∈ openedAndClosed, sending.handle.tracker = .recording) ∧
      (sendAll openedAndClosed).tracked =
        [("OPENED", ⟨[("screen", .text "menu"), ("sizes", .null)]⟩), ("CLOSED", ⟨[]⟩)] ∧
      (sendAll openedAndClosed).log.countP (·.level = .warn) = 1 := by
  have h : ∀ sending ∈ openedAndClosed, sending.handle.tracker = .recording := by decide
  obtain ⟨-, -, hcalls, hwarnings, -⟩ := delivery_of_events h
  exact ⟨h, hcalls rfl, hwarnings⟩

end EventTracking
