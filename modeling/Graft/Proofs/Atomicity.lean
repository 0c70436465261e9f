import Graft.Proofs.Landing
import Graft.Proofs.View

/-!
# Work on scripts

Searching and reading a script make no difference to what an overlay answers, and neither does an
injection that fails. One that succeeds changes the text at one location, by the edits of its plan,
into a text that the parser of the script accepts. So all that is ever staged can be parsed.
-/
namespace Graft

open Overlay (Ledger Reflects text)

/-! ## Parsers -/

private theorem Parser.IsKnown.source_eq {p : Parser} (hp : p.IsKnown) {source : Text}
    {doc : Document} (h : p.parse source = .ok doc) : doc.source = source := by
  obtain rfl | ⟨helper, rfl⟩ := hp
  · obtain ⟨-, -, hsource, -⟩ := Grammar.parse_layout (Plan.ok_of_mapError_eq_ok h)
    exact hsource
  · change parseWith helper source = .ok doc at h
    rw [parseWith] at h
    repeat' split at h
    case h_3 =>
      obtain ⟨nodes, -, h⟩ := exists_of_bind_eq_ok (Plan.ok_of_mapError_eq_ok h)
      cases h
      rfl
    all_goals cases h

/-- Parsing leaves the disk as it is. -/
def Parser.IsQuiet (p : Parser) : Prop := ∀ trace ∈ p.trace?, ∀ d t, trace d t = d

namespace Script

/-- A script under one of the parsers there are, which leaves the disk as it is. -/
structure Steady extends Script where
  known : parser.IsKnown
  quiet : parser.IsQuiet

section
variable (s : Script) (d : Disk) (o : Overlay)

private theorem traceReading_of_quiet (hquiet : s.parser.IsQuiet) : s.traceReading d o = d := by
  rw [traceReading]
  split
  case h_1 trace source htrace _ _ => exact hquiet trace htrace d source
  case h_2 => rfl

private theorem traceFind_of_quiet (hquiet : s.parser.IsQuiet) (pattern : Pattern) :
    s.traceFind d o pattern = d := by
  rw [traceFind]
  split
  · exact s.traceReading_of_quiet d o hquiet
  · rfl

theorem traceInject_of_quiet (hquiet : s.parser.IsQuiet) (pattern : Pattern)
    (properties : List Property) (hash : Text → UInt64) :
    s.traceInject d o pattern properties hash = d := by
  rw [traceInject]
  split
  case h_1 => rfl
  case h_2 trace htrace =>
    simp only [s.traceReading_of_quiet d o hquiet]
    split
    · split
      · rfl
      · exact hquiet trace htrace d _
    · rfl

end

/-! ## What scripts do to an overlay -/

/-- The document of a script whose text is known. -/
def reading (s : Script) (source : Except Overlay.Failure Text) : Except ScriptError Document :=
  match s.parser.probe with
  | .error e => .error e
  | .ok () =>
    match source with
    | .error f => .error (.overlay f)
    | .ok source => s.parser.parse source

private theorem of_reading_eq_ok {s : Script} {source : Except Overlay.Failure Text}
    {doc : Document} (h : s.reading source = .ok doc) :
    ∃ t, source = .ok t ∧ s.parser.parse t = .ok doc := by
  unfold reading at h
  split at h
  · cases h
  · split at h
    · cases h
    · exact ⟨_, rfl, h⟩

section
variable {d : Disk} {w : Ledger} {o : Overlay}

private theorem document_of_reflects (s : Script) (h : Reflects d w o) :
    (s.document d o).1 = s.reading (text d w (o.key s.path)) ∧ Reflects d w (s.document d o).2 ∧
      (s.document d o).2.guard = o.guard := by
  obtain ⟨hread, hreflects⟩ := h.read s.path
  have hguard := o.guard_read d s.path
  unfold document reading
  cases s.parser.probe with
  | error e => exact ⟨rfl, h, rfl⟩
  | ok u =>
    rw [← hread]
    generalize o.read d s.path = r at hreflects hguard
    obtain ⟨r, o'⟩ := r
    cases r with
    | error f => exact ⟨rfl, hreflects, hguard⟩
    | ok source => exact ⟨rfl, hreflects, hguard⟩

private theorem of_revise_eq_ok {s : Script} {doc : Document} {pattern : Pattern}
    {properties : List Property} {hash : Text → UInt64} {plan : Plan} {t : Text}
    (h : s.revise doc pattern properties hash = .ok (plan, t)) :
    Edit.apply doc.source plan.edits hash = .ok t ∧
      (plan.isNoop = false → ∃ doc', s.parser.parse t = .ok doc') := by
  rw [revise] at h
  obtain ⟨⟨plan', t'⟩, hdraft, h⟩ := exists_of_bind_eq_ok h
  rw [draft] at hdraft
  obtain ⟨plan₁, -, hdraft⟩ := exists_of_bind_eq_ok hdraft
  obtain ⟨t₁, happly, hdraft⟩ := exists_of_bind_eq_ok hdraft
  cases hdraft
  simp only at h
  split at h
  case isTrue hnoop =>
    cases h
    exact ⟨Plan.ok_of_mapError_eq_ok happly, by simp [hnoop]⟩
  case isFalse hnoop =>
    split at h
    case h_1 doc' hparse =>
      cases h
      exact ⟨Plan.ok_of_mapError_eq_ok happly, fun _ => ⟨doc', hparse⟩⟩
    case h_2 => cases h
    case h_3 => cases h

/-- An injection leaves what is staged as it is, or it stages one text: what the edits of its plan
make of the text before, and a text that can be parsed. -/
theorem inject_cases (s : Script) (hp : s.parser.IsKnown) (h : Reflects d w o) (pattern : Pattern)
    (properties : List Property) (hash : Text → UInt64) :
    (s.inject d o pattern properties hash).2.guard = o.guard ∧
    ((((∃ e, (s.inject d o pattern properties hash).1 = .error e) ∨
        ∃ plan, (s.inject d o pattern properties hash).1 = .ok plan ∧ plan.isNoop = true) ∧
      Reflects d w (s.inject d o pattern properties hash).2) ∨
    ∃ plan before after doc, (s.inject d o pattern properties hash).1 = .ok plan ∧
      plan.isNoop = false ∧ text d w (o.key s.path) = .ok before ∧
      Edit.apply before plan.edits hash = .ok after ∧ s.parser.parse after = .ok doc ∧
      Reflects d (Function.update w (o.key s.path) (some after))
        (s.inject d o pattern properties hash).2) := by
  obtain ⟨hdocument, hreflects, hguard⟩ := s.document_of_reflects h
  rw [inject]
  generalize s.document d o = r at hdocument hreflects hguard
  obtain ⟨doc | doc, o'⟩ := r <;> simp only at hdocument hreflects hguard ⊢
  · exact ⟨hguard, .inl ⟨.inl ⟨_, rfl⟩, hreflects⟩⟩
  · have hkey : o'.key s.path = o.key s.path := by simp only [Overlay.key, hguard]
    obtain ⟨before, hbefore, hdoc⟩ := of_reading_eq_ok hdocument.symm
    split
    case h_1 e he => exact ⟨hguard, .inl ⟨.inl ⟨_, rfl⟩, hreflects⟩⟩
    case h_2 plan t hrevise =>
      split
      case isTrue hnoop => exact ⟨hguard, .inl ⟨.inr ⟨_, rfl, hnoop⟩, hreflects⟩⟩
      case isFalse hnoop =>
        obtain ⟨happly, hparse⟩ := of_revise_eq_ok hrevise
        obtain ⟨doc', hdoc'⟩ := hparse (by simpa using hnoop)
        have hguard' := o'.guard_write d s.path t
        obtain ⟨saved, hholds, -, hwrite⟩ | ⟨f, -, hwrite⟩ := hreflects.write_cases s.path t
        · rw [hwrite] at hguard' ⊢
          rw [hp.source_eq hdoc] at happly
          exact ⟨hguard'.trans hguard, .inr ⟨plan, before, t, doc', rfl, by simpa using hnoop,
            hbefore, happly, hdoc', hkey ▸ hreflects.stage hholds t⟩⟩
        · rw [hwrite] at hguard' ⊢
          exact ⟨hguard'.trans hguard, .inl ⟨.inl ⟨_, rfl⟩, hreflects⟩⟩

end

/-! ## Requests and answers -/

inductive Request where
  | inject (script : Steady) (pattern : Pattern) (properties : List Property)
  | find (script : Steady) (pattern : Pattern)
  | outline (script : Steady)
  | read (path : Text)
  | discard

inductive Response where
  | planned (result : Except ScriptError Plan)
  | found (result : Except ScriptError (List Summary))
  | text (result : Except Overlay.Failure Text)
  | discarded

def Response.isError : Response → Bool
  | planned (.error _) | found (.error _) | text (.error _) => true
  | _ => false

end Script

/-- Does what a request to a script or to the overlay of a session asks for. -/
def Session.work (hash : Text → UInt64) (s : Session) : Script.Request → Script.Response × Session
  | .inject script pattern properties =>
    let (r, o) := script.inject s.disk s.overlay pattern properties hash
    (.planned r, ⟨o, script.traceInject s.disk s.overlay pattern properties hash⟩)
  | .find script pattern =>
    let (r, o) := script.find s.disk s.overlay pattern
    (.found r, ⟨o, script.traceFind s.disk s.overlay pattern⟩)
  | .outline script =>
    let (r, o) := script.outline s.disk s.overlay
    (.found r, ⟨o, script.traceReading s.disk s.overlay⟩)
  | .read path =>
    let (r, o) := s.overlay.read s.disk path
    (.text r, { s with overlay := o })
  | .discard => (.discarded, { s with overlay := s.overlay.discard })

namespace Script

/-- A text that was staged, and the parser of the script it was staged for. -/
structure Draft where
  parser : Parser
  text : Text

/-- The last draft for each location. -/
abbrev Drafts := Location → Option Draft

def Drafts.ledger (w : Drafts) : Ledger := fun l => (w l).map (·.text)

/-- Notes what has come of a request, for a reader who is at `root`: a plan with edits makes a draft
from the text before. -/
def note (hash : Text → UInt64) (d : Disk) (root : Location) (w : Drafts) :
    Request × Response → Drafts
  | (.inject script _ _, .planned (.ok plan)) =>
    let l := Path.normal root script.path
    match text d w.ledger l with
    | .ok before =>
      match plan.isNoop, Edit.apply before plan.edits hash with
      | false, .ok after => Function.update w l (some ⟨script.parser, after⟩)
      | _, _ => w
    | .error _ => w
  | (.discard, _) => fun _ => none
  | _ => w

/-- The drafts since the last discard. -/
def drafts (hash : Text → UInt64) (d : Disk) (root : Location)
    (history : List (Request × Response)) : Drafts :=
  history.foldl (note hash d root) fun _ => none

private theorem ledger_update (w : Drafts) (l : Location) (draft : Draft) :
    Drafts.ledger (Function.update w l (some draft)) =
      Function.update w.ledger l (some draft.text) := by
  funext m
  by_cases h : m = l
  · subst h
    simp [Drafts.ledger]
  · simp [Drafts.ledger, h]

/-- The overlay of the session holds the drafts, and all of them can be parsed. -/
structure Agrees (g : Guard) (d : Disk) (w : Drafts) (s : Session) : Prop where
  session : Overlay.Agrees g d w.ledger s
  parsed : ∀ l draft, w l = some draft → ∃ doc, draft.parser.parse draft.text = .ok doc

section
variable {g : Guard} {d : Disk} {w : Drafts} {s : Session} (hash : Text → UInt64)

private theorem find_of_reflects (script : Script) {v : Ledger} {o : Overlay} (h : Reflects d v o)
    (pattern : Pattern) : Reflects d v (script.find d o pattern).2 ∧
      (script.find d o pattern).2.guard = o.guard := by
  obtain ⟨-, hreflects, hguard⟩ := script.document_of_reflects h
  rw [find]
  split
  · exact ⟨h, rfl⟩
  · exact ⟨hreflects, hguard⟩

private theorem Agrees.work (hroot : ∀ n ∈ g.root, Path.IsName n) (h : Agrees g d w s)
    (r : Request) : Agrees g d (note hash d g.root w (r, (s.work hash r).1)) (s.work hash r).2 := by
  obtain ⟨⟨rfl, rfl, hreflects⟩, hparsed⟩ := h
  cases r with
  | inject script pattern properties =>
    have hquiet :=
      script.traceInject_of_quiet s.disk s.overlay script.quiet pattern properties hash
    obtain ⟨hguard, hcases⟩ :=
      script.inject_cases script.known hreflects pattern properties hash
    simp only [Session.work, hquiet]
    obtain ⟨hidle, hsame⟩ | ⟨plan, before, after, doc, hplan, hnoop, hbefore, hafter, hdoc, hnew⟩ :=
      hcases
    · have hnote : note hash s.disk s.overlay.guard.root w (.inject script pattern properties,
          .planned (script.inject s.disk s.overlay pattern properties hash).1) = w := by
        obtain ⟨e, he⟩ | ⟨plan, hplan, hnoop⟩ := hidle
        · rw [he]
          rfl
        · rw [hplan]
          simp only [note, hnoop]
          split <;> rfl
      rw [hnote]
      exact ⟨⟨hguard, rfl, hsame⟩, hparsed⟩
    · rw [Overlay.key_eq_normal hroot] at hbefore hnew
      simp only [note, hplan, hbefore, hnoop, hafter]
      refine ⟨⟨hguard, rfl, by rw [ledger_update]; exact hnew⟩, fun l draft hl => ?_⟩
      by_cases hm : l = Path.normal s.overlay.guard.root script.path
      · subst hm
        rw [Function.update_self] at hl
        cases hl
        exact ⟨doc, hdoc⟩
      · rw [Function.update_of_ne hm] at hl
        exact hparsed l draft hl
  | find script pattern =>
    obtain ⟨hsame, hguard⟩ := script.find_of_reflects hreflects pattern
    exact ⟨⟨hguard, script.traceFind_of_quiet _ _ script.quiet pattern, hsame⟩, hparsed⟩
  | outline script =>
    obtain ⟨-, hsame, hguard⟩ := script.document_of_reflects hreflects
    exact ⟨⟨hguard, script.traceReading_of_quiet _ _ script.quiet, hsame⟩, hparsed⟩
  | read path => exact ⟨⟨Overlay.guard_read .., rfl, (hreflects.read path).2⟩, hparsed⟩
  | discard => exact ⟨⟨rfl, rfl, Overlay.reflects_discard ..⟩, by simp [note]⟩

private theorem Agrees.work_eq {t : Session} (hs : Agrees g d w s) (ht : Agrees g d w t)
    (r : Request) : (s.work hash r).1 = (t.work hash r).1 := by
  obtain ⟨⟨hguard, rfl, hreflects⟩, -⟩ := hs
  obtain ⟨⟨rfl, hdisk, hreflects'⟩, -⟩ := ht
  have halike := hreflects.alike hreflects' hguard
  have hdocument (script : Script) := script.document_eq_of_alike halike
  cases r with
  | inject script pattern properties =>
    simp only [Session.work, hdisk, (script.inject_of_alike pattern properties hash halike).1]
  | find script pattern =>
    simp only [Session.work, hdisk, find]
    cases pattern.validate with
    | error f => rfl
    | ok u => simp only [hdocument]
  | outline script => simp only [Session.work, hdisk, outline, hdocument]
  | read path =>
    simp only [Session.work, hdisk, halike.read_eq path]
  | discard => rfl

private theorem Agrees.replay_eq (hroot : ∀ n ∈ g.root, Path.IsName n) {t : Session}
    (hs : Agrees g d w s) (ht : Agrees g d w t) (later : List Request) :
    (replay (Session.work hash) s later).1 = (replay (Session.work hash) t later).1 := by
  refine Graft.replay_eq (R := fun s t => ∃ w, Agrees g d w s ∧ Agrees g d w t) ?_ ⟨w, hs, ht⟩ later
  rintro s t r ⟨w, hs, ht⟩
  have hanswer := hs.work_eq hash ht r
  exact ⟨hanswer, _, hs.work hash hroot r, hanswer ▸ ht.work hash hroot r⟩

private theorem note_of_isError {root : Location} {r : Request}
    (h : (s.work hash r).1.isError = true) : note hash d root w (r, (s.work hash r).1) = w := by
  cases r with
  | inject script pattern properties =>
    simp only [Session.work] at h ⊢
    cases hr : (script.inject s.disk s.overlay pattern properties hash).1 with
    | error e => rfl
    | ok plan =>
      rw [hr] at h
      cases h
  | discard => cases h
  | _ => rfl

end

/-- In any run of requests on a disk that stays as it is, with parsers that are functions of the
text, injections are atomic. A request that fails leaves no trace in the overlay, in any later
answer or on the disk. A plan with edits has made of the text before what is to be read now, and of
nothing else. All that is staged is the last draft for its location, and its parser accepts it. -/
theorem injections_atomic {d₀ d : Disk} {base : Location} {home root : Text} {o : Overlay}
    (hbase : ∀ n ∈ base, Path.IsName n) (hopen : Overlay.create d₀ base home root = .ok o)
    (requests : List Request) (hash : Text → UInt64) :
    let run := replay (Session.work hash) ⟨o, d⟩ requests
    let s := run.2
    s.disk = d ∧
    (∀ r, (s.work hash r).1.isError = true →
      (s.work hash r).2.disk = d ∧ (s.work hash r).2.overlay.staged = s.overlay.staged ∧
      (∀ path, ((s.work hash r).2.overlay.read d path).1 = (s.overlay.read d path).1) ∧
      ∀ later, (replay (Session.work hash) (s.work hash r).2 later).1 =
        (replay (Session.work hash) s later).1) ∧
    (∀ script pattern properties plan,
      (s.work hash (.inject script pattern properties)).1 = .planned (.ok plan) → plan.edits ≠ [] →
      let s' := (s.work hash (.inject script pattern properties)).2
      ∃ before after, (s.overlay.read d script.path).1 = .ok before ∧
        Edit.apply before plan.edits hash = .ok after ∧
        (s'.overlay.read d script.path).1 = .ok after ∧
        ∀ path, Path.normal o.guard.root path ≠ Path.normal o.guard.root script.path →
          (s'.overlay.read d path).1 = (s.overlay.read d path).1) ∧
    ∀ l e, (l, e) ∈ s.overlay.staged → ∃ draft doc,
      drafts hash d o.guard.root run.1 l = some draft ∧ e.current = draft.text ∧
      draft.parser.parse draft.text = .ok doc := by
  intro run s
  have hroot : ∀ n ∈ o.guard.root, Path.IsName n :=
    (Overlay.Reachable.create hbase hopen).keyed.root
  have hstart : Agrees o.guard d (fun _ => none) ⟨o, d⟩ :=
    ⟨Overlay.agrees_create hopen d, by simp⟩
  have hs : Agrees o.guard d (drafts hash d o.guard.root run.1) s :=
    replay_related (R := Agrees o.guard d) (fun _ _ r h => h.work hash hroot r) hstart requests
  have hread {w : Ledger} {t : Overlay} (hguard : t.guard = o.guard) (ht : Reflects d w t)
      (path : Text) : (t.read d path).1 = text d w (Path.normal o.guard.root path) := by
    rw [(ht.read path).1, Overlay.key_eq_normal (hguard ▸ hroot), hguard]
  obtain ⟨hguard, hdisk, hreflects⟩ := hs.session
  refine ⟨hdisk, fun r hr => ?_, fun script pattern properties plan hplan hedits => ?_,
    fun l e he => ?_⟩
  · have hnext := hs.work hash hroot r
    rw [note_of_isError hash hr] at hnext
    obtain ⟨hguard', hdisk', hreflects'⟩ := hnext.session
    exact ⟨hdisk', hreflects'.staged_eq hreflects,
      fun path => by rw [hread hguard' hreflects', hread hguard hreflects],
      hnext.replay_eq hash hroot hs⟩
  · simp only [Session.work, hdisk] at hplan ⊢
    obtain ⟨hguard', hcases⟩ :=
      script.inject_cases script.known hreflects pattern properties hash
    obtain ⟨⟨e, he⟩ | ⟨plan', hplan', hnoop⟩, -⟩ |
      ⟨plan', before, after, -, hplan', -, hbefore, hafter, -, hnew⟩ := hcases
    · rw [he] at hplan
      cases hplan
    · rw [hplan'] at hplan
      cases hplan
      exact absurd (List.isEmpty_iff.mp hnoop) hedits
    · rw [hplan'] at hplan
      cases hplan
      rw [Overlay.key_eq_normal (hguard ▸ hroot), hguard] at hbefore hnew
      rw [hguard] at hguard'
      refine ⟨before, after, by rw [hread hguard hreflects, hbefore], hafter, ?_, ?_⟩
      · rw [hread hguard' hnew, text, Function.update_self]
      · intro path hpath
        rw [hread hguard' hnew, hread hguard hreflects, text, text, Function.update_of_ne hpath]
  · obtain ⟨hw, -, -⟩ := hreflects.mem_staged_iff.mp he
    obtain ⟨draft, hdraft, htext⟩ := Option.map_eq_some_iff.mp hw
    obtain ⟨doc, hdoc⟩ := hs.parsed l draft hdraft
    exact ⟨draft, doc, hdraft, htext.symm, hdoc⟩

/-- A workspace `ws` with one script `f`. -/
def scriptDisk : Disk :=
  ⟨[(["ws".toList], .directory),
    (["ws".toList, "f".toList], .file (.text "a\x7b\x7d".toList) false)]⟩

/-- The script on that disk. -/
def steadyScript : Steady where
  path := "f".toList
  parser := .native
  unit := [' ']
  known := .inl rfl
  quiet := by simp [Parser.IsQuiet, Parser.native]

/-- Injects a line with the given value into the block of the script. -/
def injectLine (value : Text) : Request :=
  .inject steadyScript (.ofPath ["a".toList]) [.line "b".toList value .statement]

/-- The overlay after the value `1` has been injected. -/
def stagedOverlay : Overlay :=
  ⟨⟨["ws".toList], []⟩,
    [(["ws".toList, "f".toList], ⟨some "a\x7b\x7d".toList, "a\x7b\n b 1\n\x7d".toList⟩)]⟩

/-- After an injection a second one succeeds, and a third one, which would spoil the script, is
refused. -/
theorem injections_atomic_spoiled :
    ∃ (o : Overlay) (plan : Plan),
      (∀ n ∈ ([] : Location), Path.IsName n) ∧
      Overlay.create scriptDisk [] "/home".toList "/ws".toList = .ok o ∧
      let s := (replay (Session.work Digest.ofText) ⟨o, scriptDisk⟩ [injectLine "1".toList]).2
      s = ⟨stagedOverlay, scriptDisk⟩ ∧
      (s.work Digest.ofText (injectLine "2".toList)).1 = .planned (.ok plan) ∧ plan.edits ≠ [] ∧
      (∃ after, Edit.apply "a\x7b\n b 1\n\x7d".toList plan.edits = .ok after ∧
        ((s.work Digest.ofText (injectLine "2".toList)).2.overlay.read scriptDisk "f".toList).1 =
          .ok after) ∧
      (s.work Digest.ofText (injectLine "(".toList)).1.isError = true ∧
      (s.work Digest.ofText (injectLine "(".toList)).2.overlay.staged = s.overlay.staged := by
  have hbase : ∀ n ∈ ([] : Location), Path.IsName n := by simp
  have hopen : Overlay.create scriptDisk [] "/home".toList "/ws".toList =
      .ok ⟨⟨["ws".toList], []⟩, []⟩ := by cbv
  have hfirst : (replay (Session.work Digest.ofText) ⟨⟨⟨["ws".toList], []⟩, []⟩, scriptDisk⟩
      [injectLine "1".toList]).2 = ⟨stagedOverlay, scriptDisk⟩ := by cbv
  have hsecond : ∃ plan, (Session.work Digest.ofText ⟨stagedOverlay, scriptDisk⟩
      (injectLine "2".toList)).1 = .planned (.ok plan) ∧ plan.edits ≠ [] := ⟨_, by cbv, by decide⟩
  have hspoiling : (Session.work Digest.ofText ⟨stagedOverlay, scriptDisk⟩
      (injectLine "(".toList)).1.isError = true := by cbv
  have hbefore : (stagedOverlay.read scriptDisk "f".toList).1 =
      .ok "a\x7b\n b 1\n\x7d".toList := by cbv
  obtain ⟨plan, hplan, hedits⟩ := hsecond
  have h := injections_atomic (d := scriptDisk) hbase hopen [injectLine "1".toList]
    Digest.ofText
  simp only [hfirst] at h
  obtain ⟨-, herror, hok, -⟩ := h
  obtain ⟨before, after, hread, happly, hafter, -⟩ := hok steadyScript _ _ plan hplan hedits
  cases hread.symm.trans hbefore
  refine ⟨_, plan, hbase, hopen, ?_⟩
  simp only [hfirst]
  exact ⟨trivial, hplan, hedits, ⟨after, happly, hafter⟩, hspoiling, (herror _ hspoiling).2.1⟩

end Script
end Graft
