/-!
# Lines of code

Code is a list of lines, each with the depth at which it is indented. A block indents its lines one
level deeper than its head and its closing brace.

Main statements: code is written line by line (`render_append`).
-/

namespace EventTracking.Code

/-- A line of code. -/
structure Line where
  /-- The number of levels of indentation. -/
  depth : Nat
  /-- The text after the indentation. -/
  text : String
deriving DecidableEq, Repr

namespace Line

/-- One level of indentation. -/
def indentation : String := "    "

/-- A line with its indentation and the line break at its end. -/
def write (line : Line) : String :=
  if line.text.toList.isEmpty then "\n"
  else String.join (List.replicate line.depth indentation) ++ line.text ++ "\n"

/-- The text of some lines. -/
def render (lines : List Line) : String := String.join (lines.map write)

/-- A line at the outermost level. -/
def outermost (text : String) : Line := ⟨0, text⟩

/-- Lines one level deeper. -/
def nested (lines : List Line) : List Line :=
  lines.map fun line => { line with depth := line.depth + 1 }

/-- Lines in braces after a head. -/
def block (head : String) (body : List Line) : List Line :=
  outermost (head ++ " \x7b") :: nested body ++ [outermost "\x7d"]

/-- Code is written line by line. -/
theorem render_append (lines more : List Line) :
    render (lines ++ more) = render lines ++ render more := by
  simp [render]

/-- Nesting works line by line. -/
theorem nested_append (lines more : List Line) :
    nested (lines ++ more) = nested lines ++ nested more := by
  simp [nested]

end Line

end EventTracking.Code
