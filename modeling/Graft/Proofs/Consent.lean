import Graft.Command.Apply
import Graft.Proofs.Checking
import Graft.Proofs.Delivery

/-!
# What the apply command writes

The command takes the recipes of a project one by one, as long as nothing fails or it is to keep
going, and stages their operations. It touches the disk only in one place, the commit at the end,
which has to be allowed and then succeeds. The summary counts what became of all operations of the
recipes taken.
-/
namespace Graft.Command

/-! ## Printing -/

namespace Printed

private theorem append_line (p q : Printed) (s : String) :
    p.append (q.line s) = (p.append q).line s := by
  simp [append, line, String.append_assoc]

private theorem append_errorLine (p q : Printed) (s : String) :
    p.append (q.errorLine s) = (p.append q).errorLine s := by
  simp [append, errorLine, String.append_assoc]

private theorem append_lines {α : Type} (text : α → String) (xs : List α) (p q : Printed) :
    p.append (xs.foldl (fun q x => q.line (text x)) q) =
      xs.foldl (fun q x => q.line (text x)) (p.append q) := by
  induction xs generalizing q with
  | nil => rfl
  | cons x xs ih =>
    rw [List.foldl_cons, List.foldl_cons, ih, append_line]

private theorem append_printTally (t : Tally) (p q : Printed) :
    p.append (printTally t q) = printTally t (p.append q) := by
  simp only [printTally, List.foldl_cons, List.foldl_nil, append_line]

end Printed

/-! ## Tallies -/

namespace Tally

/-- What became of operations. -/
def ofResults (results : List Recipe.Result) : Tally :=
  results.foldl (fun t r => t.add r.2) .zero

def total (t : Tally) : Nat := t.applied + t.unchanged + t.skipped + t.failed

private theorem ofResults_append (results more : List Recipe.Result) :
    ofResults (results ++ more) = more.foldl (fun t r => t.add r.2) (ofResults results) :=
  List.foldl_append

private theorem total_add (t : Tally) (r : Except Recipe.Failure Recipe.Outcome) :
    (t.add r).total = t.total + 1 := by
  match r with
  | .ok (.applied ..) | .ok (.unchanged _) | .ok (.skipped _) | .error _ =>
    simp only [add, total]
    omega

private theorem failed_add (t : Tally) (r : Except Recipe.Failure Recipe.Outcome) :
    (t.add r).failed = t.failed + if r.toBool then 0 else 1 := by
  match r with
  | .ok (.applied ..) | .ok (.unchanged _) | .ok (.skipped _) | .error _ => rfl

private theorem total_ofResults (results : List Recipe.Result) :
    (ofResults results).total = results.length := by
  induction results using List.reverseRecOn with
  | nil => rfl
  | append_singleton results r ih =>
    rw [ofResults_append, List.foldl_cons, List.foldl_nil, total_add, ih, List.length_append,
      List.length_singleton]

private theorem failed_ofResults (results : List Recipe.Result) :
    (ofResults results).failed = results.countP (!·.2.toBool) := by
  induction results using List.reverseRecOn with
  | nil => rfl
  | append_singleton results r ih =>
    rw [ofResults_append, List.foldl_cons, List.foldl_nil, failed_add, ih, List.countP_append,
      List.countP_singleton]
    cases r.2.toBool <;> rfl

end Tally

/-! ## Recipes one after another -/

/-- Some operation failed. -/
def anyFailed (results : List Recipe.Result) : Bool := results.any (!·.2.toBool)

private theorem failed_pos_iff (results : List Recipe.Result) :
    0 < (Tally.ofResults results).failed ↔ anyFailed results = true := by
  rw [Tally.failed_ofResults, List.countP_pos_iff, anyFailed, List.any_eq_true]

section
variable (h : Host) (o : ApplyOptions) (parserOf : Recipe.ParserOf)

/-- The results of recipes that run one after another, and the overlay after them. -/
def runEach : List Recipe → Overlay → List Recipe.Result × Overlay
  | [], overlay => ([], overlay)
  | r :: rest, overlay =>
    let (results, overlay, _) := r.apply o.keepGoing h.disk h.here h.home overlay parserOf
    let (more, overlay) := runEach rest overlay
    (results ++ more, overlay)

private theorem runEach_append (recipes more : List Recipe) (overlay : Overlay) :
    runEach h o parserOf (recipes ++ more) overlay =
      let first := runEach h o parserOf recipes overlay
      let second := runEach h o parserOf more first.2
      (first.1 ++ second.1, second.2) := by
  induction recipes generalizing overlay with
  | nil => rfl
  | cons r recipes ih => simp only [List.cons_append, runEach, ih, List.append_assoc]

private theorem length_runEach (recipes : List Recipe) (overlay : Overlay) :
    (runEach h o parserOf recipes overlay).1.length =
      (recipes.map (·.operations.length)).sum := by
  induction recipes generalizing overlay with
  | nil => rfl
  | cons r recipes ih =>
    have hids := congrArg List.length (Recipe.ids_applyAll (parserOf h.disk h.here h.home r.parser)
      r.unit o.keepGoing h.disk r.operations overlay)
    simp only [List.length_map] at hids
    simp only [runEach, Recipe.apply, List.length_append, List.map_cons, List.sum_cons, ih, hids]

/-- Some operation of the recipes fails, and the run is not to keep going. -/
def Stops (fresh : Overlay) (recipes : List Recipe) : Prop :=
  anyFailed (runEach h o parserOf recipes fresh).1 = true ∧ o.keepGoing = false

/-- The recipes of the first files have been taken: these can be loaded, and the run does not stop
before the last of them. -/
structure Taken (fresh : Overlay) (paths : List Text) (recipes : List Recipe) : Prop where
  loaded : paths.map (Recipe.load h.disk h.here) = recipes.map .ok
  going : ∀ earlier later, recipes = earlier ++ later → later ≠ [] →
    ¬Stops h o parserOf fresh earlier

/-- The run has come as far as the recipes bring it. -/
structure Progress.Follows (fresh : Overlay) (recipes : List Recipe) (s : Progress) : Prop where
  overlay : s.overlay = (runEach h o parserOf recipes fresh).2
  disk : s.disk = h.disk
  tally : s.tally = .ofResults (runEach h o parserOf recipes fresh).1

variable {h o parserOf} {fresh : Overlay} {paths : List Text} {recipes : List Recipe}
  {s : Progress}

private theorem Progress.Follows.isAborted_iff (hs : s.Follows h o parserOf fresh recipes) :
    s.isAborted o = true ↔ Stops h o parserOf fresh recipes := by
  rw [isAborted, Stops, hs.tally, Bool.and_eq_true, decide_eq_true_iff, gt_iff_lt, failed_pos_iff,
    Bool.not_eq_true']

private theorem Progress.Follows.stageRecipe (hs : s.Follows h o parserOf fresh recipes)
    (path : Text) {r : Recipe} (hquiet : (parserOf h.disk h.here h.home r.parser).IsQuiet) :
    (stageRecipe h o path r s parserOf).Follows h o parserOf fresh (recipes ++ [r]) := by
  have hdisk := Recipe.disk_applyAll r.unit (d := h.disk) hquiet o.keepGoing r.operations s.overlay
  simp only [Command.stageRecipe, hs.disk]
  refine ⟨?_, hdisk, ?_⟩
  · simp only [runEach_append, runEach, hs.overlay]
  · simp only [runEach_append, runEach, hs.overlay, hs.tally, List.append_nil,
      Tally.ofResults_append]

private theorem Taken.append (htaken : Taken h o parserOf fresh paths recipes)
    (hs : s.Follows h o parserOf fresh recipes) (hgoing : s.isAborted o = false) {path : Text}
    {r : Recipe} (hload : Recipe.load h.disk h.here path = .ok r) :
    Taken h o parserOf fresh (paths ++ [path]) (recipes ++ [r]) := by
  refine ⟨by simp [htaken.loaded, hload], ?_⟩
  intro earlier later hsplit hlater
  obtain rfl | ⟨init, last, rfl⟩ := List.eq_nil_or_concat later
  · exact absurd rfl hlater
  · rw [List.concat_eq_append, ← List.append_assoc] at hsplit
    obtain ⟨rfl, -⟩ := List.append_inj' hsplit rfl
    by_cases hinit : init = []
    · subst hinit
      rw [List.append_nil] at hs
      rw [← hs.isAborted_iff, hgoing]
      exact Bool.false_ne_true
    · exact htaken.going earlier init rfl hinit

end

/-! ## The end of a run -/

/-- The user agrees to the changes, in advance or when asked. -/
def Approves (o : ApplyOptions) (input : Except Disk.Fault Text) : Prop :=
  o.yes = true ∨ ∃ t, input = .ok t ∧
    String.ofList (Text.trim (firstLine t)) ∈ ["y", "Y", "yes", "Yes"]

/-- The run is to end without a commit. -/
def Progress.IsBlocked (o : ApplyOptions) (input : Except Disk.Fault Text) (s : Progress) : Prop :=
  s.isAborted o = true ∨ s.overlay.staged = [] ∨ o.dryRun = true ∨ ¬Approves o input

section
variable {o : ApplyOptions} {s : Progress} {input : Except Disk.Fault Text} (root : Location)

private theorem isYes_iff (t : Text) :
    isYes t = true ↔ String.ofList (Text.trim t) ∈ ["y", "Y", "yes", "Yes"] :=
  List.contains_iff_mem

private theorem append_fatal (d : Disk) (p q : Printed) (e : Fatal) :
    { Reply.fatal d q e with printed := p.append (Reply.fatal d q e).printed } =
      Reply.fatal d (p.append q) e := by
  simp only [Reply.fatal, Printed.append_errorLine]

private theorem append_conclude (t : Tally) (d : Disk) (p q : Printed) :
    { conclude t d q with printed := p.append (conclude t d q).printed } =
      conclude t d (p.append q) := by
  simp only [conclude, Printed.append_printTally]

private theorem append_commit (p q : Printed) :
    { commit root { s with printed := q } with
      printed := p.append (commit root { s with printed := q }).printed } =
      commit root { s with printed := p.append q } := by
  rw [commit, commit]
  simp only
  split
  · exact append_fatal ..
  · rw [append_conclude, Printed.append_lines]

private theorem run_settle_of_blocked (h : s.IsBlocked o input) :
    (∃ p, (settle o root s).run input = conclude s.tally s.disk p) ∨
      ∃ f p, input = .error f ∧ o.yes = false ∧
        (settle o root s).run input = .fatal s.disk p ⟨f.message, []⟩ := by
  simp only [settle]
  -- the reasons are gone through in this order, so the first that holds ends the run
  split
  case isTrue => exact .inl ⟨_, rfl⟩
  case isFalse hgoing =>
  split
  case isTrue => exact .inl ⟨_, rfl⟩
  case isFalse hstaged =>
  split
  case isTrue => exact .inl ⟨_, rfl⟩
  case isFalse hdry =>
  have hdenied : ¬Approves o input := by
    obtain h | h | h | h := h
    · exact absurd h hgoing
    · exact absurd (List.isEmpty_iff.mpr h) hstaged
    · exact absurd h hdry
    · exact h
  split
  case isTrue hyes => exact absurd (.inl hyes) hdenied
  case isFalse hyes =>
  cases input with
  | error f =>
    exact .inr ⟨f, _, rfl, by simpa using hyes, append_fatal ..⟩
  | ok t =>
    have hno : isYes (firstLine t) = false := by
      rw [← Bool.not_eq_true, isYes_iff]
      exact fun hyes => hdenied (.inr ⟨t, rfl, hyes⟩)
    simp only [Step.run, Except.map, hno]
    exact .inl ⟨_, append_conclude ..⟩

private theorem run_settle_of_free (h : ¬s.IsBlocked o input) :
    ∃ p, (settle o root s).run input = commit root { s with printed := p } := by
  simp only [Progress.IsBlocked, not_or, not_not, ← List.isEmpty_iff] at h
  obtain ⟨hgoing, hstaged, hdry, happroved⟩ := h
  simp only [settle, if_neg hgoing, if_neg hstaged, if_neg hdry]
  split
  case isTrue => exact ⟨_, rfl⟩
  case isFalse hyes =>
    obtain hyes' | ⟨t, rfl, ht⟩ := happroved
    · exact absurd hyes' hyes
    · rw [← isYes_iff] at ht
      simp only [Step.run, Except.map, ht]
      exact ⟨_, append_commit ..⟩

private theorem commit_cases (root : Location) (s : Progress) :
    (∃ f, (s.overlay.commit s.disk).1 = .error f ∧
        commit root s = .fatal (s.overlay.commit s.disk).2.2 s.printed (.ofOverlay f)) ∨
      ∃ p, commit root s = conclude s.tally (s.overlay.commit s.disk).2.2 p := by
  rw [commit]
  split
  case h_1 f _ d hcommit => exact .inl ⟨f, by rw [hcommit], by rw [hcommit]⟩
  case h_2 hcommit => exact .inr ⟨_, by rw [hcommit]⟩

private theorem run_settle_cases (o : ApplyOptions) (s : Progress)
    (input : Except Disk.Fault Text) : (∃ f p, input = .error f ∧ o.yes = false ∧
        (settle o root s).run input = .fatal s.disk p ⟨f.message, []⟩) ∨
    (∃ f p, (s.overlay.commit s.disk).1 = .error f ∧
        (settle o root s).run input = .fatal (s.overlay.commit s.disk).2.2 p (.ofOverlay f)) ∨
    ∃ d p, (settle o root s).run input = conclude s.tally d p := by
  by_cases h : s.IsBlocked o input
  · obtain ⟨p, hrun⟩ | hunread := run_settle_of_blocked root h
    · exact .inr (.inr ⟨s.disk, p, hrun⟩)
    · exact .inl hunread
  · obtain ⟨p, hrun⟩ := run_settle_of_free root h
    obtain ⟨f, hcommit, hfatal⟩ | ⟨q, hend⟩ := commit_cases root { s with printed := p }
    · exact .inr (.inl ⟨f, p, hcommit, hrun.trans hfatal⟩)
    · exact .inr (.inr ⟨_, q, hrun.trans hend⟩)

end

/-! ## Whole runs -/

section
variable {h : Host} {o : ApplyOptions} {parserOf : Recipe.ParserOf} {root : Location}
  {files : List Text} {fresh : Overlay}

private theorem Stops.append {recipes : List Recipe} (hstops : Stops h o parserOf fresh recipes)
    (more : List Recipe) : Stops h o parserOf fresh (recipes ++ more) := by
  obtain ⟨hfailed, hkeep⟩ := hstops
  refine ⟨?_, hkeep⟩
  simp only [runEach_append, anyFailed, List.any_append, Bool.or_eq_true]
  exact .inl hfailed

private theorem Progress.Follows.outcome {s : Progress} {recipes : List Recipe}
    (hs : s.Follows h o parserOf fresh recipes) (root : Location)
    (input : Except Disk.Fault Text) :
    let reply := (settle o root s).run input
    let run := runEach h o parserOf recipes fresh
    (∃ f p, input = .error f ∧ o.yes = false ∧ reply = .fatal h.disk p ⟨f.message, []⟩) ∨
      (∃ f p, (run.2.commit h.disk).1 = .error f ∧
        reply = .fatal (run.2.commit h.disk).2.2 p (.ofOverlay f)) ∨
      ∃ (t : Tally) (p : Printed), reply.printed = printTally t p ∧
        t.applied + t.unchanged + t.skipped + t.failed = (recipes.map (·.operations.length)).sum ∧
        t.failed = run.1.countP (!·.2.toBool) ∧ reply.exit = if 0 < t.failed then 1 else 0 := by
  intro reply run
  obtain ⟨f, p, hinput, hyes, hfatal⟩ | ⟨f, p, hcommit, hfatal⟩ | ⟨d, p, hconclude⟩ :=
    run_settle_cases root o s input
  · exact .inl ⟨f, p, hinput, hyes, by rw [← hs.disk]; exact hfatal⟩
  · rw [hs.overlay, hs.disk] at hcommit hfatal
    exact .inr (.inl ⟨f, p, hcommit, hfatal⟩)
  · have hreply : reply = conclude s.tally d p := hconclude
    refine .inr (.inr ⟨s.tally, p, by rw [hreply, conclude], ?_, ?_, by rw [hreply, conclude]⟩)
    · rw [← length_runEach h o parserOf recipes fresh, ← Tally.total_ofResults, ← hs.tally]
      rfl
    · rw [hs.tally, Tally.failed_ofResults]

private theorem Taken.exists_append {paths rest : List Text} {recipes all : List Recipe}
    (htaken : Taken h o parserOf fresh paths recipes)
    (hall : (paths ++ rest).map (Recipe.load h.disk h.here) = all.map .ok) :
    ∃ more, all = recipes ++ more ∧ rest.map (Recipe.load h.disk h.here) = more.map .ok := by
  rw [List.map_append, htaken.loaded] at hall
  obtain ⟨first, more, rfl, hfirst, hmore⟩ := List.append_eq_map_iff.mp hall
  obtain rfl : first = recipes := List.map_injective_iff.mpr (fun _ _ => Except.ok.inj) hfirst
  exact ⟨more, rfl, hmore.symm⟩

end

end Graft.Command
