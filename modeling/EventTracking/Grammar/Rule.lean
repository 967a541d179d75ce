import EventTracking.Grammar.Parser
import EventTracking.Code.Outline

/-!
# Rules of the grammar

The nonterminals of the grammar and what a parser for each of them answers. The rules themselves are
written for a family of parsers that read what lies one level deeper, so that a rule may use every
nonterminal, its own included.
-/

namespace EventTracking.Grammar

open Code

/-- How tightly an operator binds, the loosest first. -/
abbrev Precedence := Nat

namespace Precedence

/-- Anything may follow. -/
def lowest : Precedence := 0

/-- Assignments. -/
def assign : Precedence := 1

/-- Ranges. -/
def range : Precedence := 2

/-- Comparisons. -/
def compare : Precedence := 6

/-- Casts. -/
def cast : Precedence := 13

end Precedence

/-- What the grammar needs to know about an expression that has been read. -/
inductive Shape where
  /-- An expression that ends in a block and may stand as a statement: a block, a loop, a branch. -/
  | block
  /-- A macro call, and whether its arguments stand in braces. -/
  | macroCall (braced : Bool)
  /-- A range. -/
  | range
  /-- A comparison. -/
  | comparison
  /-- Any other expression. -/
  | other
deriving DecidableEq

/-- What the grammar needs to know about a pattern that has been read. -/
inductive PatternShape where
  /-- The pattern `..`. -/
  | rest
  /-- A range with one end missing, and the line of its dots. -/
  | openRange (line : Nat)
  /-- Any other pattern. -/
  | other
deriving DecidableEq

/-- What the grammar needs to know about a bound that has been read. -/
inductive BoundShape where
  /-- A trait. -/
  | trait
  /-- Anything else: a lifetime or a list of captured parameters. -/
  | other
deriving DecidableEq

/-- The recursive nonterminals of the grammar. -/
inductive Nonterminal where
  /-- A type, and whether several bounds may be joined by `+`. -/
  | type (plus : Bool)
  /-- A bound, and whether captured parameters and the word `const` are allowed. -/
  | bound (captures constant : Bool)
  /-- An expression, and whether a brace may follow a path for a struct's fields. -/
  | expression (structs : Bool)
  /-- An expression without binary operators. -/
  | operand (structs : Bool)
  /-- The operators that follow an expression and bind at least as tightly as given. -/
  | operation (structs : Bool) (left : Shape) (base : Precedence)
  /-- An expression that stands as a statement or a match arm and may end with its block. -/
  | boundary
  /-- Statements up to the end of the group. -/
  | statements
  /-- A pattern without alternatives. -/
  | pattern
  /-- An item with its attributes. -/
  | item
  /-- A tree of a `use` item, and whether braces may hold paths that begin with `::`. -/
  | useTree (roots : Bool)

/-- What a parser for a nonterminal answers. -/
abbrev Nonterminal.Value : Nonterminal → Type
  | type _ => WrittenType
  | bound _ _ => BoundShape
  | expression _ => Shape
  | operand _ => Shape
  | operation _ _ _ => Shape
  | boundary => Shape
  | statements => Unit
  | pattern => PatternShape
  | item => Item
  | useTree _ => Option UseTree

/-- A family of parsers, one for every nonterminal. -/
abbrev Rules := (nonterminal : Nonterminal) → Parser nonterminal.Value

end EventTracking.Grammar
