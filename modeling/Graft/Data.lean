import Graft.Text

/-!
# Data

Values as data files hold them. Objects keep the order of their fields and repeated names. A number
is kept as an integer when it is written as one; any other scalar that is neither a text nor a truth
value, such as a fraction or a date, is kept as its literal.
-/
namespace Graft

inductive Data where
  | null
  | bool (value : Bool)
  | integer (value : Int)
  | scalar (literal : Text)
  | string (value : Text)
  | array (items : List Data)
  | object (fields : List (Text × Data))
  deriving Repr

namespace Data

/-- The value of the last field of that name. -/
def field? (name : Text) : Data → Option Data
  | object fields => (fields.reverse.find? (·.1 == name)).map (·.2)
  | _ => none

def string? : Data → Option Text
  | string t => some t
  | _ => none

def bool? : Data → Option Bool
  | bool b => some b
  | _ => none

def array? : Data → Option (List Data)
  | array xs => some xs
  | _ => none

def object? : Data → Option (List (Text × Data))
  | object fs => some fs
  | _ => none

/-- A natural number that a 64-bit word can hold. -/
def word? : Data → Option Nat
  | integer n => if 0 ≤ n ∧ n < Int.pow 2 64 then some n.toNat else none
  | _ => none

def strings? : Data → Option (List Text)
  | array xs => xs.mapM string?
  | _ => none

/-- The values of the named fields of a record. A record is written as an object, each name at most
once, or as an array of its values in order; `strict` refuses items past the last name. -/
def record? (strict : Bool) (names : List Text) : Data → Option (List (Option Data))
  | object fields =>
    if names.all fun n => (fields.filter (·.1 == n)).length ≤ 1 then
      some (names.map fun n => (fields.find? (·.1 == n)).map (·.2))
    else none
  | array items =>
    if strict && items.length > names.length then none
    else some ((List.range names.length).map fun i => items[i]?)
  | _ => none

mutual

/-- How deep arrays and objects nest; a scalar has depth one. -/
def depth : Data → Nat
  | array items => depthItems items + 1
  | object fields => depthFields fields + 1
  | _ => 1

def depthItems : List Data → Nat
  | [] => 0
  | d :: ds => max d.depth (depthItems ds)

def depthFields : List (Text × Data) → Nat
  | [] => 0
  | (_, d) :: ds => max d.depth (depthFields ds)

end

/-- An optional value: a field that is left out or null has none. -/
def optional {α : Type} (read : Data → Option α) : Option Data → Option (Option α)
  | none => some none
  | some null => some none
  | some v => (read v).map some

/-- A value with a default for a field that is left out. -/
def orElse {α : Type} (fallback : α) (read : Data → Option α) : Option Data → Option α
  | none => some fallback
  | some v => read v

/-! ## Dialects -/

/-- How a format writes records and alternatives. -/
structure Dialect where
  /-- A record written as an array may have items past its last field. -/
  allowsSurplus : Bool
  /-- The value that stands for an alternative without contents. -/
  isNothing : Data → Bool
  /-- The contents of an alternative may be written as an array, and hold no unknown field. -/
  checksContents : Bool

/-- The dialect of JSON. -/
def jsonDialect : Dialect where
  allowsSurplus := false
  isNothing
    | null => true
    | _ => false
  checksContents := false

/-- The dialect of TOML. -/
def tomlDialect : Dialect where
  allowsSurplus := true
  isNothing
    | array [] | object [] => true
    | _ => false
  checksContents := true

/-- An alternative: its name, alone or with contents. -/
def alternative? : Data → Option (Text × Option Data)
  | string name => some (name, none)
  | object [(name, contents)] => some (name, some contents)
  | _ => none

/-- The fields of an alternative with contents. -/
def contents? (n : Dialect) (names : List Text) : Data → Option (List (Option Data))
  | object fields =>
    if n.checksContents && fields.any fun f => !names.contains f.1 then none
    else (object fields).record? true names
  | array items => if n.checksContents then (array items).record? false names else none
  | _ => none

end Data
end Graft
