import Graft.Proofs.Atomicity
import Graft.Recipe.Apply

/-!
# Failing operations

An operation that fails leaves what the overlay shows, and what an operation does can be told from
what the overlay shows. So a run that keeps going comes to the same as one without the operations
that failed, and a run that stops comes to the same as one of the operations before the failure.
-/
namespace Graft.Recipe

open Overlay (Alike Sorted)

/-! ## One operation -/

namespace Operation

variable (op : Operation) {parser : Parser} (unit : Text) {d : Disk} {o o' : Overlay}

theorem trace_of_quiet (hquiet : parser.IsQuiet) : op.trace parser unit d o = d := by
  rw [trace]
  split
  · rfl
  · exact Script.traceInject_of_quiet _ d o hquiet _ _ _

variable (parser)

private theorem apply_of_alike (h : Alike d o o') :
    (op.apply parser unit d o).1 = (op.apply parser unit d o').1 ∧
      Alike d (op.apply parser unit d o).2 (op.apply parser unit d o').2 := by
  rw [apply, apply]
  cases toProperties op.properties with
  | error flaw => exact ⟨rfl, h⟩
  | ok properties =>
    have hinject := (Script.mk op.file parser unit).inject_of_alike op.target properties
      Digest.ofText h
    simp only
    generalize (Script.mk op.file parser unit).inject d o op.target properties = r at hinject
    generalize (Script.mk op.file parser unit).inject d o' op.target properties = r' at hinject
    obtain ⟨a, p⟩ := r
    obtain ⟨a', q⟩ := r'
    obtain ⟨rfl, halike⟩ : a = a' ∧ Alike d p q := hinject
    cases a <;> exact ⟨rfl, halike⟩

variable {parser unit}

private theorem alike_apply_of_error (h : Sorted o.entries) {f : Failure}
    (hf : (op.apply parser unit d o).1 = .error f) : Alike d o (op.apply parser unit d o).2 := by
  rw [apply] at hf ⊢
  cases hproperties : toProperties op.properties with
  | error flaw => exact .refl h
  | ok properties =>
    have hinject (e : ScriptError) :=
      (Script.mk op.file parser unit).alike_inject_of_error op.target properties Digest.ofText
        (d := d) h (e := e)
    simp only [hproperties] at hf ⊢
    generalize (Script.mk op.file parser unit).inject d o op.target properties = r at hinject hf ⊢
    obtain ⟨a, p⟩ := r
    cases a with
    | error e => exact hinject e rfl
    | ok plan => cases hf

private theorem sorted_apply (h : Sorted o.entries) : Sorted (op.apply parser unit d o).2.entries :=
  (op.apply_of_alike parser unit (Alike.refl (d := d) h)).2.sorted

end Operation

/-- The operation has run to its end. -/
def Outcome.isDone : Outcome → Bool
  | applied .. | unchanged _ => true
  | skipped _ => false

private theorem Operation.isDone_of_apply {op : Operation} {parser : Parser} {unit : Text}
    {d : Disk} {o : Overlay} {outcome : Outcome} (h : (op.apply parser unit d o).1 = .ok outcome) :
    outcome.isDone = true := by
  rw [apply] at h
  split at h
  · cases h
  · split at h
    · cases h
    · cases h
      rw [Outcome.ofPlan]
      split <;> rfl

/-! ## Runs -/

section
variable {parser : Parser} {unit : Text} {d : Disk} {o o' : Overlay} {op : Operation}
  (rest : List Operation)

private theorem applyAll_cons_of_ok (hquiet : parser.IsQuiet) {outcome : Outcome}
    (h : (op.apply parser unit d o).1 = .ok outcome) (keepGoing : Bool) :
    applyAll parser unit keepGoing d (op :: rest) o =
      let tail := applyAll parser unit keepGoing d rest (op.apply parser unit d o).2
      ((op.id, .ok outcome) :: tail.1, tail.2) := by
  simp [applyAll, op.trace_of_quiet unit hquiet, h, Except.toBool]

private theorem applyAll_cons_of_error (hquiet : parser.IsQuiet) {f : Failure}
    (h : (op.apply parser unit d o).1 = .error f) :
    applyAll parser unit true d (op :: rest) o =
      let tail := applyAll parser unit true d rest (op.apply parser unit d o).2
      ((op.id, .error f) :: tail.1, tail.2) := by
  simp [applyAll, op.trace_of_quiet unit hquiet, h]

private theorem applyAll_cons_of_stop (hquiet : parser.IsQuiet) {f : Failure}
    (h : (op.apply parser unit d o).1 = .error f) :
    applyAll parser unit false d (op :: rest) o =
      ((op.id, .error f) :: rest.map fun later => (later.id, .ok (.skipped op.id)),
        (op.apply parser unit d o).2, d) := by
  simp [applyAll, op.trace_of_quiet unit hquiet, h, Except.toBool]

end

theorem ids_applyAll (parser : Parser) (unit : Text) (keepGoing : Bool) (d : Disk)
    (operations : List Operation) (o : Overlay) :
    (applyAll parser unit keepGoing d operations o).1.map (·.1) = operations.map (·.id) := by
  induction operations generalizing d o with
  | nil => rfl
  | cons op rest ih =>
    simp only [applyAll]
    split
    · simp [ih]
    · simp

/-- The operations that have not failed, by their results. -/
def kept (operations : List Operation) (results : List Result) : List Operation :=
  ((operations.zip results).filter (·.2.2.toBool)).map (·.1)

private theorem kept_cons_ok (op : Operation) (rest : List Operation) (outcome : Outcome)
    (results : List Result) :
    kept (op :: rest) ((op.id, .ok outcome) :: results) = op :: kept rest results := rfl

private theorem kept_cons_error (op : Operation) (rest : List Operation) (f : Failure)
    (results : List Result) :
    kept (op :: rest) ((op.id, .error f) :: results) = kept rest results := rfl

section
variable {parser : Parser} (unit : Text) {d : Disk}

theorem disk_applyAll (hquiet : parser.IsQuiet) (keepGoing : Bool) (operations : List Operation)
    (o : Overlay) : (applyAll parser unit keepGoing d operations o).2.2 = d := by
  induction operations generalizing o with
  | nil => rfl
  | cons op rest ih =>
    simp only [applyAll, op.trace_of_quiet unit hquiet]
    split
    · exact ih _
    · rfl

/-- A run that keeps going, and one of the operations that do not fail in it, give the same results
and show the same after it. -/
theorem applyAll_kept (hquiet : parser.IsQuiet) {o o' : Overlay} (h : Alike d o o')
    (operations : List Operation) :
    let run := applyAll parser unit true d operations o
    let rerun := applyAll parser unit true d (kept operations run.1) o'
    rerun.1 = run.1.filter (·.2.toBool) ∧ Alike d run.2.1 rerun.2.1 := by
  induction operations generalizing o o' with
  | nil => exact ⟨rfl, h⟩
  | cons op rest ih =>
    obtain ⟨hsame, hafter⟩ := op.apply_of_alike parser unit h
    cases hresult : (op.apply parser unit d o).1 with
    | ok outcome =>
      rw [hresult] at hsame
      obtain ⟨hresults, hshown⟩ := ih hafter
      simp only [applyAll_cons_of_ok _ hquiet hresult, kept_cons_ok,
        applyAll_cons_of_ok _ hquiet hsame.symm]
      exact ⟨by rw [hresults]; rfl, hshown⟩
    | error f =>
      -- the other run has nothing in the place of this operation
      have hskip : Alike d (op.apply parser unit d o).2 o' :=
        (op.alike_apply_of_error h.sorted hresult).symm.trans h
      simp only [applyAll_cons_of_error _ hquiet hresult, kept_cons_error]
      exact ih hskip

variable {unit}

/-- A run that stops has done the operations before the failure, and shows what they left. -/
theorem applyAll_stopped (hquiet : parser.IsQuiet) {o : Overlay} (h : Sorted o.entries)
    (operations : List Operation) {result : Result}
    (hmem : result ∈ (applyAll parser unit false d operations o).1)
    (hfail : result.2.toBool = false) :
    ∃ (before later : List Operation) (op : Operation) (f : Failure),
      operations = before ++ op :: later ∧ result = (op.id, .error f) ∧
      let earlier := applyAll parser unit false d before o
      let run := applyAll parser unit false d operations o
      (∀ x ∈ earlier.1, ∃ outcome : Outcome, x.2 = .ok outcome ∧ outcome.isDone = true) ∧
      (op.apply parser unit d earlier.2.1).1 = .error f ∧
      run.1 = earlier.1 ++ (op.id, .error f) ::
        later.map (fun skipped => (skipped.id, .ok (.skipped op.id))) ∧
      Alike d earlier.2.1 run.2.1 := by
  induction operations generalizing o with
  | nil => cases hmem
  | cons op rest ih =>
    cases hresult : (op.apply parser unit d o).1 with
    | error f =>
      have hrun := applyAll_cons_of_stop rest hquiet hresult
      have hhere : result = (op.id, .error f) := by
        rw [hrun] at hmem
        obtain rfl | hskipped := List.mem_cons.mp hmem
        · rfl
        · obtain ⟨later, -, rfl⟩ := List.mem_map.mp hskipped
          cases hfail
      refine ⟨[], rest, op, f, rfl, hhere, by simp [applyAll], hresult, ?_, ?_⟩
      · rw [hrun]
        rfl
      · rw [hrun]
        exact op.alike_apply_of_error h hresult
    | ok outcome =>
      have hrun (later : List Operation) := applyAll_cons_of_ok later hquiet hresult false
      have hlater :
          result ∈ (applyAll parser unit false d rest (op.apply parser unit d o).2).1 := by
        rw [hrun] at hmem
        obtain rfl | hlater := List.mem_cons.mp hmem
        · cases hfail
        · exact hlater
      obtain ⟨before, later, failing, f, rfl, hhere, hdone, hfailing, hresults, hshown⟩ :=
        ih (op.sorted_apply h) hlater
      refine ⟨op :: before, later, failing, f, rfl, hhere, ?_⟩
      simp only [hrun]
      refine ⟨?_, hfailing, by rw [hresults, List.cons_append], hshown⟩
      intro x hx
      obtain rfl | hx := List.mem_cons.mp hx
      · exact ⟨outcome, rfl, Operation.isDone_of_apply hresult⟩
      · exact hdone x hx

end

/-- Failures of operations are isolated, from any state of an overlay on any disk. There is one
result for each operation, in order. A run that keeps going gives the operations that do not fail
the results, and leaves staged the texts, that there would be without the others. A run that stops
gives the first failure, after operations that were done and before ones that are skipped for it,
and leaves staged what the operations before it staged. -/
theorem failures_isolated (r : Recipe) (d : Disk) (base : Location) (home : Text) {o : Overlay}
    (ho : o.Reachable) (parserOf : ParserOf)
    (hquiet : (parserOf d base home r.parser).IsQuiet) :
    let run (keepGoing : Bool) (operations : List Operation) :=
      ({ r with operations := operations } : Recipe).apply keepGoing d base home o parserOf
    let staged (keepGoing : Bool) (operations : List Operation) :=
      (run keepGoing operations).2.1.staged
    let survivors := kept r.operations (run true r.operations).1
    (∀ keepGoing, (run keepGoing r.operations).1.map (·.1) = r.operations.map (·.id) ∧
      (run keepGoing r.operations).2.2 = d) ∧
    ((run true survivors).1 = (run true r.operations).1.filter (·.2.toBool) ∧
      staged true survivors = staged true r.operations) ∧
    ∀ result ∈ (run false r.operations).1, result.2.toBool = false →
      ∃ (before later : List Operation) (op : Operation) (f : Failure),
        r.operations = before ++ op :: later ∧ result = (op.id, .error f) ∧
        (∀ x ∈ (run false before).1,
          ∃ outcome : Outcome, x.2 = .ok outcome ∧ outcome.isDone = true) ∧
        (op.apply (parserOf d base home r.parser) r.unit d (run false before).2.1).1 = .error f ∧
        (run false r.operations).1 = (run false before).1 ++ (op.id, .error f) ::
          later.map (fun skipped => (skipped.id, .ok (.skipped op.id))) ∧
        staged false r.operations = staged false before := by
  intro run staged survivors
  refine ⟨fun keepGoing => ⟨ids_applyAll .., disk_applyAll _ hquiet ..⟩, ?_, ?_⟩
  · obtain ⟨hresults, hshown⟩ :=
      applyAll_kept r.unit hquiet (Alike.refl ho.sorted) r.operations
    exact ⟨hresults, hshown.staged_eq.symm⟩
  · intro result hmem hfail
    obtain ⟨before, later, op, f, hsplit, hhere, hdone, hfailing, hresults, hshown⟩ :=
      applyAll_stopped hquiet ho.sorted r.operations hmem hfail
    exact ⟨before, later, op, f, hsplit, hhere, hdone, hfailing, hresults, hshown.staged_eq.symm⟩

/-- Injects a line into the block of the script at a path. -/
def lineOperation (id path : Text) : Operation :=
  ⟨id, path, none, .ofPath [['a']], [.mk id (some ['1']) (some .statement) none]⟩

/-- A recipe with an operation on a script that is missing, between two on one script. -/
def gappedRecipe : Recipe where
  name := []
  description := none
  indent := some [' ']
  parser := .native
  operations := [lineOperation ['b'] ['f'], lineOperation ['c'] ['g'],
    lineOperation ['d'] ['.', '/', 'f']]

/-- The overlay for the directory of the scripts. -/
def freshOverlay : Overlay := ⟨⟨[['w', 's']], []⟩, []⟩

/-- Two lines are staged if the run keeps going, and one if it stops. -/
theorem failures_isolated_missing :
    let d := Script.scriptDisk
    let first := lineOperation ['b'] ['f']
    let last := lineOperation ['d'] ['.', '/', 'f']
    let run (keepGoing : Bool) (operations : List Operation) :=
      ({ gappedRecipe with operations := operations } : Recipe).apply keepGoing d [] [] freshOverlay
    let staged (keepGoing : Bool) (operations : List Operation) :=
      (run keepGoing operations).2.1.staged
    freshOverlay.Reachable ∧ (ParserChoice.parser d [] [] gappedRecipe.parser).IsQuiet ∧
    (run true gappedRecipe.operations).1.map (·.2.toBool) = [true, false, true] ∧
    (staged true gappedRecipe.operations).map (·.2.current) =
      ["a\x7b\n b 1\n d 1\n\x7d".toList] ∧
    staged true [first, last] = staged true gappedRecipe.operations ∧
    staged false gappedRecipe.operations = staged false [first] := by
  intro d first last run staged
  have hopen : Overlay.create d [] "/home".toList "/ws".toList = .ok freshOverlay := by cbv
  have ho : freshOverlay.Reachable := .create (by simp) hopen
  have hquiet : (ParserChoice.parser d [] [] gappedRecipe.parser).IsQuiet := by
    simp [gappedRecipe, ParserChoice.parser, Parser.IsQuiet, Parser.native]
  have happly (keepGoing : Bool) (operations : List Operation) :
      ({ gappedRecipe with operations := operations } : Recipe).apply keepGoing d [] []
        freshOverlay = applyAll .native [' '] keepGoing d operations freshOverlay := rfl
  have hgoing : (applyAll .native [' '] true d gappedRecipe.operations freshOverlay).1 =
      [(['b'], .ok (.applied ['f'] .expandInline [])),
        (['c'], .error (.script ['g'] (.overlay (.notFound [['w', 's'], ['g']])))),
        (['d'], .ok (.applied ['.', '/', 'f'] .appendBeforeClose []))] := by cbv
  have hstaged : (applyAll .native [' '] true d gappedRecipe.operations
      freshOverlay).2.1.staged.map (·.2.current) =
        ["a\x7b\n b 1\n d 1\n\x7d".toList] := by cbv
  have hstop : (applyAll .native [' '] false d gappedRecipe.operations freshOverlay).1 =
      [(['b'], .ok (.applied ['f'] .expandInline [])),
        (['c'], .error (.script ['g'] (.overlay (.notFound [['w', 's'], ['g']])))),
        (['d'], .ok (.skipped ['c']))] := by cbv
  obtain ⟨-, ⟨-, hkept⟩, hstopped⟩ :=
    failures_isolated gappedRecipe d [] [] ho ParserChoice.parser hquiet
  simp only [happly, staged, run] at hkept hstopped ⊢
  rw [hgoing] at hkept
  refine ⟨ho, hquiet, by rw [hgoing]; rfl, hstaged, hkept, ?_⟩
  obtain ⟨before, later, op, f, hsplit, hhere, -, -, -, hsame⟩ := hstopped _
    (hstop.symm ▸ List.mem_cons_of_mem _ List.mem_cons_self) rfl
  have hid : ['c'] = op.id := congrArg Prod.fst hhere
  -- only the second operation has this name
  obtain _ | ⟨x, _ | ⟨y, _ | ⟨z, before⟩⟩⟩ := before
  · cases hsplit
    cases hid
  · cases hsplit
    exact hsame
  · cases hsplit
    cases hid
  · simp [gappedRecipe] at hsplit

end Graft.Recipe
