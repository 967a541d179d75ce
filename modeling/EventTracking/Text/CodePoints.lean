/-!
# Sets of code points

A set of code points is written as the ascending list of its boundaries: the first number opens
the set, the next one closes it, the next one opens it again, and so on. A code point belongs to
the set when an odd number of boundaries lie at or below it.

Main statements: the empty list is the empty set (`contains_nil`), and a leading boundary above a
code point keeps it out (`contains_cons_of_lt`).
-/

namespace EventTracking.Text

/-- A set of code points, given by the ascending list of the points at which membership changes. -/
structure CodePoints where
  /-- The points at which membership changes, in ascending order. -/
  boundaries : List Nat

namespace CodePoints

/-- A code point belongs to the set when an odd number of boundaries lie at or below it. -/
def contains (set : CodePoints) (point : Nat) : Bool :=
  (set.boundaries.takeWhile (· ≤ point)).length % 2 == 1

/-- The set without boundaries is empty. -/
theorem contains_nil (point : Nat) : (CodePoints.mk []).contains point = false := rfl

/-- Nothing below the first boundary belongs to the set. -/
theorem contains_cons_of_lt {first : Nat} {rest : List Nat} {point : Nat} (h : point < first) :
    (CodePoints.mk (first :: rest)).contains point = false := by
  simp [contains, Nat.not_le.mpr h]

end CodePoints

end EventTracking.Text
