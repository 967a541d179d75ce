import EventTracking.Artifact

/-!
# Listings

A listing describes event groups for the reader: where a group is declared, the function and the
file that are generated for it, and its events with the keys of their payloads.

Main statements: a group's listing has a line for each of its events (`length_listingLines`).
-/

namespace EventTracking

/-- An event of a group with the keys of its payload. -/
def Event.listingLine (event : Event) : String :=
  match event.keys with
  | [] => "  " ++ event.eventName
  | keys => "  " ++ event.eventName ++ " \x7b " ++ ", ".intercalate keys ++ " \x7d"

namespace EventGroup

/-- The lines that describe a group. -/
def listingLines (group : EventGroup) : List String :=
  (group.name.display ++ " (" ++ group.location.file ++ ":" ++ group.location.line.repr ++ ")") ::
    ("  " ++ trackingFunction group.name ++ " -> " ++ artifactFile group.name) ::
    group.registry.events.map Event.listingLine

/-- The description of a group. -/
def listing (group : EventGroup) : String :=
  String.join (group.listingLines.map (· ++ "\n"))

/-- The description of several groups, with an empty line between two of them. -/
def listingAll (groups : List EventGroup) : String :=
  match groups with
  | [] => "no event groups found\n"
  | groups => "\n".intercalate (groups.map listing)

/-- Two lines introduce a group, and each of its events has one. -/
theorem length_listingLines (group : EventGroup) :
    group.listingLines.length = group.registry.size + 2 := by
  simp [listingLines, Registry.size]

end EventGroup

end EventTracking
