import Graft.Data.Json.Read
import Graft.Pattern

/-!
# Patterns as data

A pattern is written as an object whose fields are the names of a level and whose values are the
patterns below them. The last of several fields of one name counts.
-/
namespace Graft.Pattern

mutual

/-- The pattern that a value writes, if it is made of objects only. -/
def ofData? : Data → Option Pattern
  | .object fields => ofFields? .leaf fields
  | _ => none

/-- Adds the fields of an object to a level. -/
def ofFields? (level : Pattern) : List (Text × Data) → Option Pattern
  | [] => some level
  | (name, value) :: rest =>
    match ofData? value with
    | none => none
    | some below => ofFields? (insert name below level) rest

end

/-- The level as fields of an object. -/
def toFields : Pattern → List (Text × Data)
  | .leaf => []
  | .entry n below others => (n, .object below.toFields) :: others.toFields

def toData (p : Pattern) : Data := .object p.toFields

/-- Reads a pattern from JSON text. -/
def parse? (t : Text) : Option Pattern := (Json.parse? t).bind ofData?

end Graft.Pattern
