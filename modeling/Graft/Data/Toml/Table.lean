import Graft.Data

/-!
# Tables of TOML

A file builds its tables piece by piece, by headers and by dotted keys. How a table came about
decides what may still be added to it.
-/
namespace Graft.Toml

/-- How a table came about. An implicit table was only passed through, by a header or, if it is
dotted, by a dotted key. -/
structure Role where
  implicit : Bool
  dotted : Bool
  deriving DecidableEq, Repr

/-- The role of a table with a header or braces of its own. -/
def Role.own : Role := ⟨false, false⟩

inductive Item where
  | value (data : Data)
  | table (role : Role) (fields : List (Text × Item))
  /-- The tables of one name, last first. -/
  | tables (rows : List (List (Text × Item)))

abbrev Fields := List (Text × Item)

mutual

def Item.toData : Item → Data
  | .value d => d
  | .table _ fields => .object (fieldsData fields)
  | .tables rows => .array (rowsData rows).reverse

def fieldsData : List (Text × Item) → List (Text × Data)
  | [] => []
  | (k, item) :: rest => (k, item.toData) :: fieldsData rest

def rowsData : List (List (Text × Item)) → List Data
  | [] => []
  | row :: rest => .object (fieldsData row) :: rowsData rest

end

/-- Puts an item in place of the one of that name, or at the end. -/
def put (k : Text) (item : Item) : Fields → Fields
  | [] => [(k, item)]
  | (n, old) :: rest => if n = k then (n, item) :: rest else (n, old) :: put k item rest

/-- Changes the table that `path` leads to. Tables on the way are made as needed; of several tables
of one name the last is meant. A dotted key may not pass through a table with a header. -/
def descend (dotted : Bool) (change : Role → Fields → Option Fields) :
    List Text → Role → Fields → Option Fields
  | [], role, fields => change role fields
  | k :: path, _, fields =>
    match fields.lookup k with
    | none => do
      let role : Role := ⟨true, dotted⟩
      return fields ++ [(k, .table role (← descend dotted change path role []))]
    | some (.table role inner) =>
      if dotted && !role.implicit then none
      else do return put k (.table role (← descend dotted change path role inner)) fields
    | some (.tables (row :: rows)) => do
      return put k (.tables ((← descend dotted change path .own row) :: rows)) fields
    | some _ => none

/-- Adds a value under a key, whose last name is `k`. -/
def assign (path : List Text) (k : Text) (value : Data) (role : Role) (fields : Fields) :
    Option Fields :=
  descend (!path.isEmpty) (fun role fields =>
    if role.dotted == path.isEmpty || (fields.lookup k).isSome then none
    else some (fields ++ [(k, .value value)])) path role fields

/-- Opens a table by its header. Only a table that was passed through by headers may be there. -/
def openTable (path : List Text) (k : Text) (fields : Fields) : Option Fields :=
  descend false (fun _ fields =>
    match fields.lookup k with
    | none => some (fields ++ [(k, .table .own [])])
    | some (.table role inner) =>
      if role.implicit && !role.dotted then
        some (fields.filter (·.1 != k) ++ [(k, .table .own inner)])
      else none
    | some _ => none) path .own fields

/-- Opens one more table of a name. -/
def openRow (path : List Text) (k : Text) (fields : Fields) : Option Fields :=
  descend false (fun _ fields =>
    match fields.lookup k with
    | none => some (fields ++ [(k, .tables [[]])])
    | some (.tables rows) => some (put k (.tables ([] :: rows)) fields)
    | some _ => none) path .own fields

end Graft.Toml
