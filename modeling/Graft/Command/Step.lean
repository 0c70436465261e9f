import Graft.Command.Report
import Graft.Text.Blank

/-!
# Steps of a command

A command ends with a reply, or it asks one question and goes on with the answer.
-/
namespace Graft.Command

/-- Where a command runs: the disk, the working directory and the home directory. -/
structure Host where
  disk : Disk
  here : Location
  home : Text

/-- What a command leaves behind. -/
structure Reply where
  exit : Nat
  printed : Printed
  disk : Disk

inductive Step where
  | done (reply : Reply)
  /-- The question has been printed; the rest depends on the answer, if it can be read. -/
  | ask (printed : Printed) (answer : Except Disk.Fault Bool → Reply)

/-- The reply of a command that an error ends. -/
def Reply.fatal (d : Disk) (p : Printed) (e : Fatal) : Reply := ⟨1, p.errorLine e.report, d⟩

/-- The first line of an input, without its end. -/
def firstLine (t : Text) : Text := t.takeWhile (· != '\n')

/-- Answers that mean yes. -/
def isYes (t : Text) : Bool :=
  ["y", "Y", "yes", "Yes"].contains (String.ofList (Text.trim t))

/-- Answers the question from the first line of the input. -/
def Step.run (input : Except Disk.Fault Text) : Step → Reply
  | done reply => reply
  | ask printed answer =>
    let reply := answer (input.map fun t => isYes (firstLine t))
    { reply with printed := printed.append reply.printed }

end Graft.Command
