import Graft.Shell.Bytes

/-!
# Shell scripts

A script is a list of chains of pipelines of commands. Words keep apart what was quoted and what is
still to be expanded.
-/
namespace Graft.Shell

/-- What is put in place of a variable. -/
inductive Fallback where
  /-- The word, if the variable is not set. -/
  | default
  /-- The word, which the variable is set to, if it is not set. -/
  | assign
  /-- An error, if the variable is not set. -/
  | require
  /-- The word, if the variable is set. -/
  | alternative
  deriving DecidableEq, Repr

/-- What a redirection does to a descriptor. -/
inductive Opening where
  | read
  | write
  /-- Writes over what is there in any case. -/
  | clobber
  | append
  /-- Reads and writes from the beginning. -/
  | both
  | duplicate
  /-- The word is a here-document. -/
  | document
  deriving DecidableEq, Repr

mutual

/-- A part of a word. -/
inductive Part where
  | text (t : Bytes) (quoted : Bool)
  /-- The home of a user, or of the owner of the process if the name is empty. -/
  | home (user : Bytes)
  | variable (name : Bytes) (use : Use) (quoted : Bool)
  /-- The output of commands. -/
  | output (body : List Chain) (quoted : Bool)
  /-- The value of an arithmetic expression. -/
  | sum (body : List Part) (quoted : Bool)

/-- How a variable is used. With `orEmpty` an empty variable counts as one that is not set. -/
inductive Use where
  | value
  | length
  | fallback (kind : Fallback) (orEmpty : Bool) (word : List Part)
  /-- Without the shortest or longest match of a pattern at its beginning or end. -/
  | trim (atEnd longest : Bool) (pattern : List Part)
  /-- In a way that is not known. -/
  | bad

inductive Redirect where
  | mk (descriptor : Nat) (opening : Opening) (word : List Part)

/-- A command. The line is the one it begins on. -/
inductive Command where
  | simple (line : Nat) (assigned : List (Bytes × List Part)) (words : List (List Part))
      (redirects : List Redirect)
  /-- A compound command with redirections. -/
  | redirected (line : Nat) (body : Command) (redirects : List Redirect)
  | group (body : List Chain)
  | subshell (line : Nat) (body : List Chain) (redirects : List Redirect)
  /-- Conditions with what follows from them, and what is done if none holds. -/
  | branch (arms : List (List Chain × List Chain)) (otherwise : List Chain)
  /-- Repeats the body as long as the condition succeeds, or fails if `goal` is false. -/
  | loop (goal : Bool) (condition body : List Chain)
  /-- Runs the body for each word, or for each argument if there are no words. -/
  | each (line : Nat) (name : Bytes) (words : Option (List (List Part))) (body : List Chain)
  /-- Runs the body of the first arm that has a pattern for the word. -/
  | choice (line : Nat) (word : List Part) (arms : List (List (List Part) × List Chain))
  | define (name : Bytes) (body : Command)

inductive Pipeline where
  | mk (negated : Bool) (commands : List Command)

/-- Pipelines, each after the first run only if the one before it succeeded, or failed. A chain in
the background is not waited for. -/
inductive Chain where
  | mk (first : Pipeline) (rest : List (Bool × Pipeline)) (background : Bool)

end

/-- A word is the concatenation of its parts. -/
abbrev Word := List Part

def isNameStart (c : Char) : Bool := c.isAlpha || c == '_'

def isNameChar (c : Char) : Bool := c.isAlphanum || c == '_'

/-- A text that can name a variable. -/
def isName : Bytes → Bool
  | [] => false
  | c :: r => isNameStart c && r.all isNameChar

namespace Word

/-- Puts neighbouring texts of one kind together. -/
def glue : Word → Word
  | [] => []
  | p :: rest =>
    match p, glue rest with
    | .text t q, .text u r :: more =>
      if q == r then .text (t ++ u) q :: more else .text t q :: .text u r :: more
    | p, more => p :: more

/-- The text of a word without quotes and expansions. -/
def literal? : Word → Option Bytes
  | [.text t false] => some t
  | _ => none

/-- The assignment that a word is. -/
def assignment? : Word → Option (Bytes × Word)
  | .text t false :: rest =>
    let name := t.takeWhile (· != '=')
    match t.dropWhile (· != '=') with
    | _ :: [] => if isName name then some (name, rest) else none
    | _ :: value => if isName name then some (name, .text value false :: rest) else none
    | [] => none
  | _ => none

/-- Whether the name of a user behind a tilde ends within the text, or is all that is left. -/
private def userEnds (inValue : Bool) (t : Bytes) (isLast : Bool) : Option (Bytes × Bytes) :=
  let stops (c : Char) : Bool := c == '/' || (inValue && c == ':')
  let user := t.takeWhile (!stops ·)
  let rest := t.drop user.length
  if rest.isEmpty && !isLast then none else some (user, rest)

/-- Replaces tildes that stand for homes in a text that is not quoted. In a value they may also
follow a colon. -/
def homesIn (inValue isLast : Bool) : Nat → Bool → Bytes → Word
  | 0, _, t => [.text t false]
  | _, _, [] => []
  | fuel + 1, atStart, c :: r =>
    match (if c == '~' && atStart then userEnds inValue r isLast else none) with
    | some (user, rest) => .home user :: homesIn inValue isLast fuel false rest
    | none =>
      match homesIn inValue isLast fuel (inValue && c == ':') r with
      | .text t false :: more => .text (c :: t) false :: more
      | more => .text [c] false :: more

/-- A word with the tildes at its beginning replaced, or those in a value. -/
def homes (inValue : Bool) (atStart : Bool) : Word → Word
  | [] => []
  | .text t false :: rest =>
    homesIn inValue rest.isEmpty (t.length + 1) atStart t ++
      homes inValue (inValue && t.getLast? == some ':') rest
  | p :: rest => p :: (if inValue then homes inValue false rest else rest)

end Word
end Graft.Shell
