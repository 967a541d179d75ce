import EventTracking.Ordered
import EventTracking.Payload.Datum

/-!
# Trackers

A tracker receives events, each with a name and a payload. It is reached through a handle: the
tracker itself, or something that passes events on to another handle.

A payload has distinct keys in the order in which they were inserted first.

Main statements: it makes no difference through which handle an event is sent (`track_eq`), and
what has been inserted into a payload is found there (`get_insert_self`).
-/

namespace EventTracking

open Payload (Value)

/-! ## Payloads -/

/-- What is known of an event. -/
structure EventPayload where
  /-- The keys and their values, in order. -/
  entries : List (String × Value)

namespace EventPayload

/-- The payload without entries. -/
def empty : EventPayload := ⟨[]⟩

/-- The payload with a key inserted; a known key gets the new value in place. -/
def insert (payload : EventPayload) (key : String) (value : Value) : EventPayload :=
  ⟨Ordered.put Prod.fst (key, value) payload.entries⟩

/-- The value of a key. -/
def get? (payload : EventPayload) (key : String) : Option Value :=
  (Ordered.find? Prod.fst key payload.entries).map Prod.snd

/-- The number of entries. -/
def size (payload : EventPayload) : Nat := payload.entries.length

/-- A payload in one line. -/
def shown (payload : EventPayload) : String :=
  "\x7b" ++ ", ".intercalate (Value.showEntries payload.entries) ++ "\x7d"

/-- The payload with a key inserted for each datum, as it is recorded, and what is logged. -/
def insertAll (payload : EventPayload) :
    List (String × Payload.Datum) → EventPayload × List LogEvent
  | [] => (payload, [])
  | (key, datum) :: rest =>
    let (value, logged) := datum.record
    let (filled, more) := (payload.insert key value).insertAll rest
    (filled, logged ++ more)

/-- A key that has been inserted is found with its value. -/
theorem get_insert_self (payload : EventPayload) (key : String) (value : Value) :
    (payload.insert key value).get? key = some value := by
  rw [get?, insert, Ordered.find_put_self Prod.fst (key, value)]
  rfl

/-- All other keys keep their values. -/
theorem get_insert_of_ne (payload : EventPayload) {key other : String} (h : key ≠ other)
    (value : Value) : (payload.insert key value).get? other = payload.get? other := by
  rw [get?, insert, Ordered.find_put_of_ne h]
  rfl

end EventPayload

/-! ## Trackers -/

/-- What tracking an event leaves behind. -/
structure Receipt where
  /-- The events that were recorded. -/
  tracked : List (String × EventPayload)
  /-- What was logged. -/
  log : List LogEvent

/-- What receives events in the end. -/
inductive Tracker where
  /-- Keeps events. -/
  | recording
  /-- Only logs events. -/
  | logging
deriving DecidableEq, Repr

/-- Receives an event. -/
def Tracker.receive (tracker : Tracker) (name : String) (payload : EventPayload) : Receipt :=
  match tracker with
  | recording => ⟨[(name, payload)], []⟩
  | logging =>
    ⟨[], [.saying .info [("event", name), ("fields", payload.size.repr)] payload.shown]⟩

/-- How a handle passes events on. -/
inductive Link where
  /-- It refers to a handle that belongs to someone else. -/
  | borrowed
  /-- It holds a handle of its own. -/
  | owned
  /-- It shares a handle within a thread. -/
  | shared
  /-- It shares a handle between threads. -/
  | sharedBetweenThreads
  /-- It hides what kind of handle it holds. -/
  | hidden
deriving DecidableEq, Repr

/-- What an event can be sent through. -/
inductive Handle where
  /-- A tracker itself. -/
  | direct (tracker : Tracker)
  /-- A link to another handle. -/
  | through (link : Link) (inner : Handle)
deriving DecidableEq, Repr

/-- The tracker that a handle leads to. -/
def Handle.tracker : Handle → Tracker
  | direct tracker => tracker
  | through _ inner => inner.tracker

/-- Sends an event through a handle: every link passes it on as it is. -/
def Handle.track (name : String) (payload : EventPayload) : Handle → Receipt
  | direct tracker => tracker.receive name payload
  | through _ inner => inner.track name payload

/-- Through whatever handle an event is sent, the tracker receives it once and whole. -/
theorem Handle.track_eq (handle : Handle) (name : String) (payload : EventPayload) :
    handle.track name payload = handle.tracker.receive name payload := by
  induction handle with
  | direct tracker => rfl
  | through link inner ih => exact ih

/-- Sends an event whose payload is filled with data. -/
def Handle.send (handle : Handle) (name : String) (data : List (String × Payload.Datum)) :
    Receipt :=
  let (payload, logged) := EventPayload.empty.insertAll data
  let receipt := handle.track name payload
  { receipt with log := logged ++ receipt.log }

end EventTracking
