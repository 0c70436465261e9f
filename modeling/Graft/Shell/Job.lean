import Graft.Shell.Runner

/-!
# Jobs

Chains in the background run when the shell waits: they come in the order in which they would end,
for time passes only while a process sleeps. Signals that a shell gets meanwhile are acted on
between its commands.
-/
namespace Graft.Shell

/-- Starts a chain in the background. -/
def startJob (s : State) (c : Chain) : State :=
  let (s, slot) := freeSlot s
  let (child, i) := (fork s).openSource ⟨.null, 0, false, true, true⟩
  let child := child.setDescriptor 0 i
  let job : Job :=
    ⟨child.self, s.self, slot, s.clock, c, { child.toProcess with tested := false }, none, false,
      false, false⟩
  { child with
    toProcess := s.toProcess
    jobs := s.jobs ++ [job]
    lastJob := some child.self
    halt := s.halt }.finish 0

namespace Runner

/-- Runs a job to its end. The others are held meanwhile. -/
def runJob (r : Runner) (s : State) (j : Job) : State :=
  let inner := { s with
    toProcess := j.process
    clock := j.start
    halt := none
    jobs := s.jobs.map fun k => { k with isHeld := true } }
  let after := r.conclude (r.chains inner [j.body])
  let e := ending after
  let ended (k : Job) : Job :=
    let isHeld := (s.jobs.find? (·.number == k.number)).any (·.isHeld)
    { k with isHeld, ending := if k.number == j.number then some e else k.ending }
  { after with
    toProcess := s.toProcess, halt := s.halt, lost := s.lost, jobs := after.jobs.map ended }

/-- The job that ends first of those that are still to be run, and when. -/
private def nextJob? (r : Runner) (s : State) : Option (Job × Nat) :=
  let waiting := s.jobs.filter fun j => j.ending.isNone && !j.isHeld
  let ends := waiting.map fun j => (j, (r.runJob s j).clock)
  ends.foldl (fun best e =>
    match best with
    | some b => if e.2 < b.2 then some e else some b
    | none => some e) none

/-- Runs jobs in the order in which they end: at most `count` of those that end until a time, or of
all. It stops as soon as a signal comes, if `alert`. -/
def runJobs (r : Runner) (alert : Bool) (time : Option Nat) : Nat → State → State
  | 0, s => s
  | count + 1, s =>
    if alert && s.pending.any (·.1 == s.self) then s
    else
      match nextJob? r s with
      | none => s
      | some (j, t) =>
        if time.any (· < t) then s
        else r.runJobs alert time count { r.runJob s j with clock := max s.clock t }

/-- How many jobs may start others. -/
private def maxJobs : Nat := 1024

/-- Runs all jobs. -/
def finishJobs (r : Runner) (s : State) : State := r.runJobs false none maxJobs s

/-- The jobs of a shell, the last first. -/
private def ownJobs (s : State) : List Job := (s.jobs.filter (·.isOf s.self)).reverse

/-- The job that an argument with a percent sign means. -/
private def jobBySign? (s : State) (a : Bytes) : Option Job :=
  match a.tail with
  | [] | ['%'] | ['+'] => (ownJobs s).head?
  | ['-'] => (ownJobs s)[1]?
  | t => (Builtin.natural? t).bind fun n => (ownJobs s).find? (·.slot == n)

private def noJob (s : State) (a : Bytes) : State := s.abort ("No such job: ".toList ++ a)

/-- The status after a signal that came while the shell was waiting. -/
private def interrupted? (s : State) : Option Nat :=
  (s.pending.find? (·.1 == s.self)).map fun p => 128 + p.2

/-- Waits for a job and takes its status. An ending that the shell did not know of is told. -/
private def waitForJob (r : Runner) (s : State) (j : Job) : State :=
  let s := if j.ending.isSome then s
    else r.runJobs true (some (r.runJob s j).clock) maxJobs s
  match (s.jobs.find? (·.number == j.number)).bind (·.ending), interrupted? s with
  | none, some n => s.finish n
  | e, _ =>
    let e := e.getD (.exited 0)
    let s := noticeJobs s
    let mark (k : Job) : Job := if k.number == j.number then { k with isAwaited := true } else k
    let s := { s with jobs := s.jobs.map mark }.finish e.status
    if j.isSeen then s else announce s e

/-- Waits for what an argument means and takes its status. -/
private def waitForOne (r : Runner) (s : State) (a : Bytes) : State :=
  if a.head? == some '%' then
    match jobBySign? s a with
    | some j => waitForJob r s j
    | none => noJob s a
  else
    match Builtin.natural? a with
    | none => Builtin.badNumber s a
    | some n =>
      match (ownJobs s).find? (·.number == n) with
      | none => s.finish 127
      | some j => waitForJob r s j

/-- Waits for jobs, or for all of them. -/
def wait (r : Runner) (s : State) (args : List Bytes) : State :=
  Builtin.withOptions "" s args fun _ args =>
    if args.isEmpty then
      let s := r.runJobs true none maxJobs s
      match interrupted? s with
      | some n => s.finish n
      | none =>
        let mark (j : Job) : Job := if j.isOf s.self then { j with isAwaited := true } else j
        (noticeJobs { s with jobs := s.jobs.map mark }).finish 0
    else
      args.foldl (fun s a => if s.halt.isSome then s else r.waitForOne s a) (s.finish 0)

/-- How many processes a chain starts. -/
private def parts : Chain → Nat
  | .mk (.mk _ commands) [] _ => commands.length
  | _ => 1

/-- Shows a job. It is forgotten then if it has ended. -/
private def showJob (numbers onlyNumbers : Bool) (s : State) (j : Job) : State :=
  let order := ownJobs s
  let sign := if (order.head?.map (·.number)) == some j.number then '+'
    else if (order[1]?.map (·.number)) == some j.number then '-' else ' '
  let how : String := match j.ending with
    | none => "Running"
    | some (.exited 0) => "Done"
    | some (.exited n) => "Done(" ++ toString n ++ ")"
    | some (.killed n) => Signal.text n
  let front := ("[" ++ toString j.slot ++ "] ").toList ++ [sign, ' '] ++
    (if numbers then (toString j.number ++ " ").toList else []) ++ how.toList
  let line := front ++ List.replicate (33 - front.length) ' ' ++
    (if numbers then [] else (List.replicate (parts j.body - 1) " | ".toList).flatten)
  let s := s.print ((if onlyNumbers then (toString j.number).toList else line) ++ ['\n'])
  if j.ending.isSome && !onlyNumbers then
    { s with jobs := s.jobs.filter (·.number != j.number) }
  else s

/-- Shows the jobs of the shell. -/
def listJobs (s : State) (args : List Bytes) : State :=
  Builtin.withOptions "lp" s args fun os args =>
    let numbers := os.any (·.1 == 'l')
    let onlyNumbers := os.any (·.1 == 'p')
    let s := (noticeJobs s).finish 0
    if args.isEmpty then (ownJobs s).foldl (showJob numbers onlyNumbers) s
    else
      args.foldl (fun s a =>
        if s.halt.isSome then s
        else
          match jobBySign? s a with
          | some j => showJob numbers onlyNumbers s j
          | none => noJob s a) s

/-- Cannot bring a job to the front, because jobs have no terminals. -/
def moveJob (s : State) (args : List Bytes) : State :=
  match args with
  | [] =>
    if (ownJobs s).isEmpty then s.abort "No current job".toList
    else s.abort "job (null) not created under job control".toList
  | a :: _ =>
    match jobBySign? s a with
    | some _ => s.abort ("job ".toList ++ a ++ " not created under job control".toList)
    | none => noJob s a

/-- Runs a program as a process of its own and waits for it. Jobs that end meanwhile are run. -/
def launch (r : Runner) (s : State) (words : List Bytes) : State :=
  let name := words.headD []
  let s := if name.contains '/' || s.hashed.contains name || (search? s name).isNone then s
    else { s with hashed := s.hashed ++ [name] }
  let child := r.image (fork s) words
  let after := if s.deadline.any (· ≤ child.clock) then
      { rejoin s child with halt := some (.ended (.killed 15)) }
    else resume s child
  if after.clock == s.clock || after.jobs.isEmpty then after
  else (noticeJobs (r.runJobs false (some after.clock) maxJobs after)).finish after.status

/-- Acts on signals that were sent to the shell. -/
def settle (r : Runner) : Nat → State → State
  | 0, s => s
  | count + 1, s =>
    if s.halt.isSome then s
    else
      match s.pending.find? (·.1 == s.self) with
      | none => s
      | some (n, signal) =>
        let s := { s with pending := s.pending.erase (n, signal) }
        match s.traps.lookup signal with
        | none => { s with halt := some (.ended (.killed signal)) }
        | some action =>
          let after := r.text { s with tested := false } action
          let after := { after with tested := s.tested, line := s.line }
          r.settle count (if after.halt.isSome then after else after.finish s.status)

end Runner
end Graft.Shell
