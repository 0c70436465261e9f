import Graft.Shell.Regex.Search
import Graft.Shell.Tool.Basic

/-!
# Report programs

The expressions, statements and rules of a report program.
-/
namespace Graft.Shell.Tool.Awk

/-- A variable: one of the whole program, or one of the function that runs. -/
inductive Name where
  | shared (i : Nat)
  | own (i : Nat)
  deriving DecidableEq, Repr

inductive Operation where
  | add
  | subtract
  | multiply
  | divide
  | remainder
  | power
  deriving DecidableEq, Repr

inductive Comparison where
  | less
  | lessOrEqual
  | equal
  | different
  | greater
  | greaterOrEqual
  deriving DecidableEq, Repr

/-- Functions that every program has. -/
inductive Function where
  | length
  | index
  | substr
  | sprintf
  | sin
  | cos
  | atan2
  | exp
  | log
  | int
  | sqrt
  | rand
  | srand
  | close
  | system
  | toupper
  | tolower
  | fflush
  | mktime
  | strftime
  | systime
  deriving DecidableEq, Repr

namespace Function

def all : List (String × Function) :=
  [("length", length), ("index", index), ("substr", substr), ("sprintf", sprintf), ("sin", sin),
    ("cos", cos), ("atan2", atan2), ("exp", exp), ("log", log), ("int", int), ("sqrt", sqrt),
    ("rand", rand), ("srand", srand), ("close", close), ("system", system), ("toupper", toupper),
    ("tolower", tolower), ("fflush", fflush), ("mktime", mktime), ("strftime", strftime),
    ("systime", systime)]

/-- How many arguments a function takes at least and at most. -/
def arguments : Function → Nat × Nat
  | length => (0, 1)
  | index | atan2 => (2, 2)
  | substr => (2, 3)
  | sprintf => (1, 255)
  | sin | cos | exp | log | int | sqrt | close | system | toupper | tolower | mktime => (1, 1)
  | rand | systime => (0, 0)
  | srand | fflush => (0, 1)
  | strftime => (0, 3)

end Function

mutual

/-- What can be assigned to. -/
inductive Place where
  | named (n : Name)
  | element (n : Name) (keys : List Expression)
  | field (e : Expression)

inductive Expression where
  | number (x : Float)
  | text (b : Bytes)
  /-- Whether the record matches. -/
  | regex (p : Regex.Program)
  | place (p : Place)
  /-- An expression in parentheses. -/
  | group (e : Expression)
  | assign (p : Place) (e : Expression)
  | update (o : Operation) (p : Place) (e : Expression)
  /-- Adds a number to a place; the value is the new one or the old one. -/
  | step (p : Place) (amount : Float) (isNew : Bool)
  | calculate (o : Operation) (a b : Expression)
  | negative (a : Expression)
  | positive (a : Expression)
  | not (a : Expression)
  | and (a b : Expression)
  | or (a b : Expression)
  | compare (c : Comparison) (a b : Expression)
  | join (a b : Expression)
  | choose (c a b : Expression)
  | fits (negated : Bool) (a r : Expression)
  | isKey (keys : List Expression) (n : Name)
  | call (f : Nat) (args : List Expression)
  | function (f : Function) (args : List Expression)
  /-- How many keys a table has, or how long a text is. -/
  | sizeOf (n : Name)
  | substitute (isGlobal : Bool) (r new : Expression) (p : Place)
  | split (a : Expression) (n : Name) (separator : Option Expression)
  | search (a r : Expression)
  | readNext (p : Option Place)
  | readFile (p : Option Place) (path : Expression)
  | readCommand (p : Option Place) (command : Expression)

end

/-- Where output goes. -/
inductive Redirection where
  | file
  | append
  | pipe
  deriving DecidableEq, Repr

inductive Statement where
  | block (ss : List Statement)
  | compute (e : Expression)
  | print (args : List Expression) (target : Option (Redirection × Expression))
  | printf (args : List Expression) (target : Option (Redirection × Expression))
  | choose (c : Expression) (a : Statement) (b : Option Statement)
  | loop (c : Expression) (body : Statement)
  | doLoop (body : Statement) (c : Expression)
  | count (first : Option Expression) (c : Option Expression) (last : Option Expression)
    (body : Statement)
  | forEach (n table : Name) (body : Statement)
  | leave
  | again
  | next
  | nextFile
  | exit (e : Option Expression)
  | back (e : Option Expression)
  | delete (n : Name) (keys : Option (List Expression))

inductive Pattern where
  | always
  | test (e : Expression)
  /-- The number tells ranges apart. -/
  | range (number : Nat) (a b : Expression)

structure Rule where
  pattern : Pattern
  body : Statement

/-- A function of the program: its parameters, and what it does. -/
structure Definition where
  name : Bytes
  parameters : Nat
  body : Statement

structure Program where
  starts : List Statement
  rules : List Rule
  ends : List Statement
  definitions : Array Definition
  /-- The names of the variables. -/
  names : Array Bytes

/-! ## Variables with a meaning -/

/-- The variables that every program has, in order. -/
def specialNames : List String :=
  ["NR", "FNR", "ARGC", "FILENAME", "NF", "ENVIRON", "FS", "ORS", "OFS", "RS", "RSTART", "RLENGTH",
    "SUBSEP", "ARGV", "OFMT", "CONVFMT"]

namespace Special

def nr : Nat := 0
def fnr : Nat := 1
def argc : Nat := 2
def filename : Nat := 3
def nf : Nat := 4
def environ : Nat := 5
def fs : Nat := 6
def ors : Nat := 7
def ofs : Nat := 8
def rs : Nat := 9
def rstart : Nat := 10
def rlength : Nat := 11
def subsep : Nat := 12
def argv : Nat := 13
def ofmt : Nat := 14
def convfmt : Nat := 15

end Special

end Graft.Shell.Tool.Awk
