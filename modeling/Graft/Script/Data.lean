import Graft.Data
import Graft.Script

/-!
# Summaries as data
-/
namespace Graft.Script

def Kind.word : Kind → String
  | document => "document"
  | block => "block"
  | statement => "statement"

def Summary.toData (s : Summary) : Data :=
  let number (n : Nat) : Data := .integer n
  .object [("type".toList, .string s.kind.word.toList), ("name".toList, .string s.name),
    ("span".toList,
      .object [("start".toList, number s.span.start), ("end".toList, number s.span.stop)]),
    ("line".toList, number s.line), ("is_empty_inline".toList, .bool s.isEmptyInline)]

end Graft.Script
