import EventTracking.Diagnostic
import EventTracking.Registry

/-!
# Event groups

A declaration makes an event group, or it is skipped. It has to be a closed type without parameters
other than lifetimes. Its events are the members that belong to it directly, of which it is known
what they hold and that have a constructor; every other member is left out with a note. A
declaration without any event is skipped too.

Main statements: there is a note about a member exactly if it makes no event (`isSome_note?_iff`),
and a skipped declaration is the subject of exactly one warning, which comes last
(`findings_of_skipped`).
-/

namespace EventTracking

/-- A group of events, ready to be written as code. -/
structure EventGroup where
  /-- The qualified name of the type. -/
  name : QualifiedName
  /-- The number of lifetime parameters of the type. -/
  lifetimes : Nat
  /-- Where the type is marked. -/
  location : Location
  /-- The events. -/
  registry : Registry
  /-- The names of the direct members that make no event, in order. -/
  excluded : List QualifiedName
deriving DecidableEq, Repr

/-! ## Skipped declarations -/

/-- Why a declaration makes no group. -/
inductive Skip where
  /-- It is no type. -/
  | notType (item : String)
  /-- It is a type without a fixed set of variants. -/
  | notClosed (item : String)
  /-- It has parameters other than lifetimes. -/
  | generic
  /-- None of its members makes an event. -/
  | noEvents
deriving DecidableEq, Repr

/-- The reason in words. -/
def Skip.message : Skip → String
  | notType item => "`" ++ item ++ "` item is not a type declaration"
  | notClosed item => "`" ++ item ++ "` is not a closed type, expected an enum"
  | generic => "generic event groups are not supported"
  | noEvents => "no valid variants"

namespace Declaration

/-- Why a declaration makes no group, whatever its members. -/
def ineligible? (declaration : Declaration) : Option Skip :=
  match declaration.kind with
  | .untyped item => some (.notType item)
  | .unbounded item => some (.notClosed item)
  | .closed _ => if declaration.isGeneric then some .generic else none

/-- A diagnostic about a declaration. -/
def diagnostic (declaration : Declaration) (severity : Severity) (step : Step) (message : String) :
    Diagnostic :=
  .located severity step message declaration.location.file declaration.location.line

/-! ## Members -/

/-- Why a member makes no event. -/
inductive Exclusion where
  /-- It is not known what it holds. -/
  | unknown
  /-- It does not belong to the declaration directly. -/
  | indirect
  /-- It has no constructor. -/
  | noConstructor
deriving DecidableEq

/-- The event that a member of a declaration makes, or why it makes none. -/
def event (declaration : Declaration) (member : Member) : Except Exclusion Event :=
  if member.isKnown then
    if declaration.isDirect member then
      match member.constructors with
      | [] => .error .noConstructor
      | fields :: _ => .ok ⟨member.name, member.form, fields⟩
    else .error .indirect
  else .error .unknown

/-- The event that a member makes, if it makes one. -/
def event? (declaration : Declaration) (member : Member) : Option Event :=
  (declaration.event member).toOption

/-- The step at which a member is left out. -/
def Exclusion.step : Exclusion → Step
  | unknown => .validMember
  | indirect => .validMember
  | noConstructor => .declaredEvents

/-- What is wrong with a member of a declaration. -/
def Exclusion.message (declaration : Declaration) : Exclusion → String
  | unknown => "has no structural metadata"
  | indirect => "does not extend `" ++ declaration.name.display ++ "`"
  | noConstructor => "has no named constructor"

/-- The note about a member that makes no event. -/
def note? (declaration : Declaration) (member : Member) : Option Diagnostic :=
  match declaration.event member with
  | .ok _ => none
  | .error exclusion =>
    some (declaration.diagnostic .note exclusion.step
      ("`" ++ member.name.display ++ "` " ++ exclusion.message declaration ++ ", skipping"))

/-- Whether a member belongs to a declaration directly and makes no event. -/
def excludes (declaration : Declaration) (member : Member) : Bool :=
  declaration.isDirect member && (declaration.event? member).isNone

/-- There is a note about a member exactly if it makes no event. -/
theorem isSome_note?_iff (declaration : Declaration) (member : Member) :
    (declaration.note? member).isSome = true ↔ declaration.event? member = none := by
  unfold note? event?
  cases declaration.event member <;> simp [Except.toOption]

/-! ## Groups -/

/-- The events of a declaration. -/
def registry (declaration : Declaration) : Registry :=
  .ofList (declaration.members.filterMap declaration.event?)

/-- The group that a declaration makes if it makes one. -/
def group (declaration : Declaration) : EventGroup where
  name := declaration.name
  lifetimes := declaration.lifetimes
  location := declaration.location
  registry := declaration.registry
  excluded := (declaration.members.filter declaration.excludes).map Member.name

/-- The group that a declaration makes, or why it is skipped. -/
def toGroup (declaration : Declaration) : Except Skip EventGroup :=
  match declaration.ineligible? with
  | some skip => .error skip
  | none => if declaration.registry.isEmpty then .error .noEvents else .ok declaration.group

/-- The group that a declaration makes, if it makes one. -/
def group? (declaration : Declaration) : Option EventGroup := declaration.toGroup.toOption

/-! ## Findings -/

/-- The notes about the members of a declaration, in order. -/
def notes (declaration : Declaration) : List Diagnostic :=
  declaration.members.filterMap declaration.note?

/-- The warning that a declaration is skipped. -/
def skipWarning (declaration : Declaration) (skip : Skip) : Diagnostic :=
  let shown := "`" ++ declaration.name.display ++ "`"
  match skip with
  | .noEvents =>
    declaration.diagnostic .warning .process (shown ++ " has no valid variants, skipping")
  | skip =>
    declaration.diagnostic .warning .analyticsElement
      (shown ++ ": " ++ skip.message ++ ", skipping")

/-- What there is to say about a declaration: notes about its members unless it is not eligible,
and a warning if it is skipped. -/
def findings (declaration : Declaration) : List Diagnostic :=
  match declaration.ineligible? with
  | some skip => [declaration.skipWarning skip]
  | none =>
    declaration.notes ++
      if declaration.registry.isEmpty then [declaration.skipWarning .noEvents] else []

/-- A skipped declaration is the subject of a warning, which comes last. -/
theorem findings_of_skipped {declaration : Declaration} {skip : Skip}
    (h : declaration.toGroup = .error skip) :
    declaration.findings.getLast? = some (declaration.skipWarning skip) := by
  unfold toGroup at h
  unfold findings
  split at h
  · cases h
    simp
  · split at h
    · rename_i empty
      cases h
      simp [empty]
    · cases h

/-- The findings about a declaration that makes a group are the notes about its members. -/
theorem findings_of_group {declaration : Declaration} {group : EventGroup}
    (h : declaration.toGroup = .ok group) : declaration.findings = declaration.notes := by
  unfold toGroup at h
  unfold findings
  split at h
  · cases h
  · split at h
    · cases h
    · rename_i nonempty
      simp [nonempty]

end Declaration

end EventTracking
