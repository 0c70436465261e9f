import Graft.Proofs.Commit
import Graft.Proofs.Spelling

/-!
# What an overlay holds

On a disk that stays as it is, an overlay answers as if it kept nothing but the last text staged for
each location since it was last discarded. What it has read, and when it first looked at the disk,
makes no difference.
-/
namespace Graft

/-! ## Requests and answers -/

/-- The requests with the answers to them, in order, and the state at the end. -/
def replay {σ ρ α : Type} (step : σ → ρ → α × σ) : σ → List ρ → List (ρ × α) × σ
  | s, [] => ([], s)
  | s, r :: rs =>
    let (a, s) := step s r
    let (history, s) := replay step s rs
    ((r, a) :: history, s)

section
variable {σ ρ α β : Type} {step : σ → ρ → α × σ}

/-- What each step makes of a relation to some other state, a whole run makes of it. -/
theorem replay_related {R : β → σ → Prop} {note : β → ρ × α → β}
    (hstep : ∀ b s r, R b s → R (note b (r, (step s r).1)) (step s r).2) {b : β} {s : σ}
    (h : R b s) (rs : List ρ) :
    R ((replay step s rs).1.foldl note b) (replay step s rs).2 := by
  induction rs generalizing b s with
  | nil => exact h
  | cons r rs ih => exact ih (hstep b s r h)

/-- States that answer alike and stay so cannot be told apart by any requests. -/
theorem replay_eq {R : σ → σ → Prop}
    (hstep : ∀ s t r, R s t → (step s r).1 = (step t r).1 ∧ R (step s r).2 (step t r).2) {s t : σ}
    (h : R s t) (rs : List ρ) : (replay step s rs).1 = (replay step t rs).1 := by
  induction rs generalizing s t with
  | nil => rfl
  | cons r rs ih =>
    obtain ⟨hanswer, hnext⟩ := hstep s t r h
    simp only [replay, hanswer, ih hnext]

end

/-- An overlay and the disk under it. -/
structure Session where
  overlay : Overlay
  disk : Disk

namespace Overlay

open Graft.Path (IsName)

inductive Request where
  | read (path : Text)
  | write (path content : Text)
  | staged
  | discard

inductive Response where
  | text (result : Except Failure Text)
  | stored (result : Except Failure Unit)
  | files (files : List (Location × Entry))
  | discarded

/-- Reading, listing and requests that fail: nothing is said to change. -/
def Request.isIdle : Request → Response → Bool
  | .read _, _ | .staged, _ | .write .., .stored (.error _) => true
  | _, _ => false

end Overlay

/-- Serves a request to the overlay of a session. -/
def Session.serve (s : Session) : Overlay.Request → Overlay.Response × Session
  | .read path =>
    let (r, o) := s.overlay.read s.disk path
    (.text r, { s with overlay := o })
  | .write path content =>
    let (r, o) := s.overlay.write s.disk path content
    (.stored r, { s with overlay := o })
  | .staged => (.files s.overlay.staged, s)
  | .discard => (.discarded, { s with overlay := s.overlay.discard })

namespace Overlay

open Graft.Path (IsName)

/-! ## Entries -/

private theorem lookup_cons_entry (l m : Location) (e : Entry) (es : List (Location × Entry)) :
    ((m, e) :: es).lookup l = if l = m then some e else es.lookup l := by
  by_cases h : l = m
  · simp [h]
  · have hne : (l == m) = false := beq_eq_false_iff_ne.mpr h
    rw [List.lookup_cons, hne, if_neg h]

theorem get?_insert (o : Overlay) (l m : Location) (e : Entry) :
    (o.insert l e).get? m = if m = l then some e else o.get? m := by
  change (insertEntry l e o.entries).lookup m = if m = l then some e else o.entries.lookup m
  fun_induction insertEntry l e o.entries with
  | case1 => exact lookup_cons_entry m l e []
  | case2 n f rest _ => exact lookup_cons_entry m l e _
  | case3 n f rest hcompare =>
    obtain rfl := (Location.compares_compare l n).eq_eq.mp hcompare
    rw [lookup_cons_entry, lookup_cons_entry]
    by_cases h : m = l <;> simp [h]
  | case4 n f rest hcompare ih =>
    have hne : l ≠ n := ((Location.compares_compare l n).eq_gt.mp hcompare).ne'
    rw [lookup_cons_entry, ih, lookup_cons_entry]
    by_cases h : m = l
    · simp [h, hne]
    · simp [h]

/-- The entries are in the order of their locations, one for each. -/
def Sorted (es : List (Location × Entry)) : Prop := es.Pairwise fun p q => p.1 < q.1

theorem Sorted.insertEntry {es : List (Location × Entry)} (h : Sorted es) (l : Location)
    (e : Entry) : Sorted (insertEntry l e es) := by
  have hcompares := Location.compares_compare
  fun_induction Overlay.insertEntry l e es with
  | case1 => exact List.pairwise_singleton _ _
  | case2 m f rest hcompare =>
    have hlt : l < m := (hcompares l m).eq_lt.mp hcompare
    refine List.pairwise_cons.mpr ⟨fun p hp => ?_, h⟩
    obtain rfl | hp := List.mem_cons.mp hp
    · exact hlt
    · exact hlt.trans ((List.pairwise_cons.mp h).1 p hp)
  | case3 m f rest hcompare =>
    obtain rfl := (hcompares l m).eq_eq.mp hcompare
    exact List.pairwise_cons.mpr (List.pairwise_cons.mp h)
  | case4 m f rest hcompare ih =>
    obtain ⟨hfirst, hrest⟩ := List.pairwise_cons.mp h
    refine List.pairwise_cons.mpr ⟨fun p hp => ?_, ih hrest⟩
    obtain rfl | hp := mem_insertEntry hp
    · exact (hcompares l m).eq_gt.mp hcompare
    · exact hfirst p hp

theorem Sorted.mem_iff {es : List (Location × Entry)} (h : Sorted es) {l : Location} {e : Entry} :
    (l, e) ∈ es ↔ es.lookup l = some e := by
  induction es with
  | nil => simp
  | cons p es ih =>
    obtain ⟨m, f⟩ := p
    obtain ⟨hfirst, hrest⟩ := List.pairwise_cons.mp h
    rw [lookup_cons_entry, List.mem_cons, ih hrest]
    by_cases hm : l = m
    · have hnone : es.lookup l ≠ some e := fun hlookup =>
        (hfirst (l, e) ((ih hrest).mpr hlookup)).ne hm.symm
      simp [hm, hm ▸ hnone, eq_comm]
    · simp [hm]

theorem Sorted.ext {es fs : List (Location × Entry)} (he : Sorted es) (hf : Sorted fs)
    (h : ∀ l e, (l, e) ∈ es ↔ (l, e) ∈ fs) : es = fs :=
  have : Std.Irrefl fun p q : Location × Entry => p.1 < q.1 := ⟨fun p => lt_irrefl p.1⟩
  have : Std.Asymm fun p q : Location × Entry => p.1 < q.1 := ⟨fun _ _ => lt_asymm⟩
  he.eq_of_mem_iff hf fun p => h p.1 p.2

/-! ## Ledgers -/

/-- The last text staged for each location. -/
abbrev Ledger := Location → Option Text

/-- What the disk holds at a location: a text, or nothing at all. -/
def Holds (d : Disk) (l : Location) : Option Text → Prop
  | some t => onDisk d l = .ok t
  | none => onDisk d l = .error .notFound

private theorem Holds.unique {d : Disk} {l : Location} {s t : Option Text} (hs : Holds d l s)
    (ht : Holds d l t) : s = t := by
  cases s <;> cases t <;> cases hs.symm.trans ht <;> rfl

/-- What is to be read at a location: the text in the ledger, else that on the disk. -/
def text (d : Disk) (w : Ledger) (l : Location) : Except Failure Text :=
  match w l with
  | some t => .ok t
  | none => (onDisk d l).mapError (.ofFault l)

/-- Whether a text can be staged for a location. The ledger has no part in it. -/
def verdict (d : Disk) (g : Guard) (l : Location) : Except Failure Unit :=
  match g.validate d l.display with
  | .error r => .error (.refused r)
  | .ok _ =>
    match onDisk d l with
    | .ok _ | .error .notFound => .ok ()
    | .error f => .error (.ofFault l f)

/-- The overlay keeps what is in the ledger, and other files only as they are on the disk. -/
structure Reflects (d : Disk) (w : Ledger) (o : Overlay) : Prop where
  sorted : Sorted o.entries
  kept : ∀ l t, w l = some t → ∃ e, o.get? l = some e
  found : ∀ l e, o.get? l = some e → Holds d l e.saved ∧ (w l).or e.saved = some e.current

theorem reflects_discard (d : Disk) (o : Overlay) : Reflects d (fun _ => none) o.discard :=
  ⟨List.Pairwise.nil, by simp, by simp [discard, get?]⟩

section
variable {d : Disk} {w : Ledger} {o : Overlay}

private theorem Reflects.insert (h : Reflects d w o) {v : Ledger} {l : Location} {e : Entry}
    (hsame : ∀ m, m ≠ l → v m = w m) (hholds : Holds d l e.saved)
    (hentry : (v l).or e.saved = some e.current) : Reflects d v (o.insert l e) := by
  refine ⟨h.sorted.insertEntry l e, fun m t hm => ?_, fun m f hm => ?_⟩
  · by_cases hl : m = l
    · exact ⟨e, by rw [get?_insert, if_pos hl]⟩
    · rw [get?_insert, if_neg hl]
      exact h.kept m t (hsame m hl ▸ hm)
  · rw [get?_insert] at hm
    split at hm
    case isTrue hl =>
      cases hm
      subst hl
      exact ⟨hholds, hentry⟩
    case isFalse hl =>
      rw [hsame m hl]
      exact h.found m f hm

theorem Reflects.read (h : Reflects d w o) (path : Text) :
    (o.read d path).1 = text d w (o.key path) ∧ Reflects d w (o.read d path).2 := by
  have hnone (hget : o.get? (o.key path) = none) : w (o.key path) = none := by
    cases hw : w (o.key path) with
    | none => rfl
    | some t =>
      obtain ⟨e, he⟩ := h.kept _ t hw
      cases hget.symm.trans he
  simp only [Overlay.read]
  split
  case h_1 e he =>
    refine ⟨?_, h⟩
    obtain ⟨hholds, hentry⟩ := h.found _ e he
    cases hw : w (o.key path) with
    | some t => simp_all [text]
    | none =>
      rw [hw, Option.none_or] at hentry
      rw [hentry] at hholds
      simp only [text, hw]
      rw [show onDisk d (o.key path) = .ok e.current from hholds]
      rfl
  case h_2 hget =>
    have hw := hnone hget
    split
    case h_1 t ht =>
      exact ⟨by simp [text, hw, ht, Except.mapError], h.insert (fun _ _ => rfl) ht (by simp [hw])⟩
    case h_2 f hf => exact ⟨by simp [text, hw, hf, Except.mapError], h⟩

/-- A text is staged over what the disk holds, or nothing changes; the verdict says which. -/
theorem Reflects.write_cases (h : Reflects d w o) (path content : Text) :
    (∃ saved, Holds d (o.key path) saved ∧ verdict d o.guard (o.key path) = .ok () ∧
      o.write d path content = (.ok (), o.insert (o.key path) ⟨saved, content⟩)) ∨
    ∃ f, verdict d o.guard (o.key path) = .error f ∧ o.write d path content = (.error f, o) := by
  cases hvalid : o.guard.validate d (o.key path).display with
  | error r => exact .inr ⟨.refused r, by simp [verdict, hvalid], by simp [Overlay.write, hvalid]⟩
  | ok t =>
    have hok {saved : Option Text} (hholds : Holds d (o.key path) saved) :
        verdict d o.guard (o.key path) = .ok () := by
      cases saved <;> rw [verdict, hvalid, show onDisk d (o.key path) = _ from hholds]
    cases hget : o.get? (o.key path) with
    | some e =>
      obtain ⟨hholds, -⟩ := h.found _ e hget
      exact .inl ⟨e.saved, hholds, hok hholds, by simp [Overlay.write, hvalid, hget]⟩
    | none =>
      cases hdisk : onDisk d (o.key path) with
      | ok t =>
        have hholds : Holds d (o.key path) (some t) := hdisk
        exact .inl ⟨some t, hholds, hok hholds, by simp [Overlay.write, hvalid, hget, hdisk]⟩
      | error f =>
        by_cases hf : f = .notFound
        · subst hf
          have hholds : Holds d (o.key path) none := hdisk
          exact .inl ⟨none, hholds, hok hholds, by simp [Overlay.write, hvalid, hget, hdisk]⟩
        · exact .inr ⟨.ofFault (o.key path) f, by simp [verdict, hvalid, hdisk],
            by simp [Overlay.write, hvalid, hget, hdisk]⟩

private theorem Reflects.write_eq (h : Reflects d w o) (path content : Text) :
    (o.write d path content).1 = verdict d o.guard (o.key path) := by
  obtain ⟨saved, -, hverdict, hwrite⟩ | ⟨f, hverdict, hwrite⟩ := h.write_cases path content
  · rw [hverdict, hwrite]
  · rw [hverdict, hwrite]

theorem Reflects.stage (h : Reflects d w o) {l : Location} {saved : Option Text}
    (hholds : Holds d l saved) (content : Text) :
    Reflects d (Function.update w l (some content)) (o.insert l ⟨saved, content⟩) :=
  h.insert (fun _ hm => Function.update_of_ne hm _ _) hholds (by simp)

theorem Reflects.mem_staged_iff (h : Reflects d w o) {l : Location} {e : Entry} :
    (l, e) ∈ o.staged ↔ w l = some e.current ∧ Holds d l e.saved ∧ e.saved ≠ some e.current := by
  rw [staged, List.mem_filter, h.sorted.mem_iff]
  change o.get? l = some e ∧ (e.saved != some e.current) = true ↔ _
  rw [bne_iff_ne]
  constructor
  · rintro ⟨hget, hdirty⟩
    obtain ⟨hholds, hentry⟩ := h.found l e hget
    refine ⟨?_, hholds, hdirty⟩
    cases hw : w l with
    | none => exact absurd (by simpa [hw] using hentry) hdirty
    | some t => simpa [hw] using hentry
  · rintro ⟨hw, hholds, hdirty⟩
    obtain ⟨f, hget⟩ := h.kept l _ hw
    obtain ⟨hholds', hentry⟩ := h.found l f hget
    have hcurrent : f.current = e.current := by simpa [hw, eq_comm] using hentry
    have hsame : f = e := by
      cases f
      cases e
      cases hcurrent
      cases hholds'.unique hholds
      rfl
    exact ⟨hsame ▸ hget, hdirty⟩

theorem Reflects.staged_eq {o' : Overlay} (h : Reflects d w o) (h' : Reflects d w o') :
    o.staged = o'.staged :=
  Sorted.ext (h.sorted.filter _) (h'.sorted.filter _) fun l e => by
    rw [h.mem_staged_iff, h'.mem_staged_iff]

end

@[simp]
theorem guard_read (o : Overlay) (d : Disk) (path : Text) : (o.read d path).2.guard = o.guard := by
  simp only [read]
  split
  · rfl
  · split <;> rfl

@[simp]
theorem guard_write (o : Overlay) (d : Disk) (path content : Text) :
    (o.write d path content).2.guard = o.guard := by
  simp only [write]
  split
  · rfl
  · split
    · rfl
    · split <;> rfl

private theorem verdict_eq_ok_iff {d : Disk} {g : Guard} {l : Location} :
    verdict d g l = .ok () ↔ (∃ t, g.validate d l.display = .ok t) ∧ ∃ saved, Holds d l saved := by
  cases hvalid : g.validate d l.display with
  | error r => simp [verdict, hvalid]
  | ok t =>
    simp only [verdict, hvalid, Except.ok.injEq, exists_eq', true_and]
    cases hdisk : onDisk d l with
    | ok t => exact iff_of_true rfl ⟨some t, hdisk⟩
    | error f =>
      by_cases hf : f = .notFound
      · subst hf
        exact iff_of_true rfl ⟨none, hdisk⟩
      · refine iff_of_false (by simp) ?_
        rintro ⟨saved, hholds⟩
        cases saved with
        | none => exact hf (by cases hdisk.symm.trans hholds; rfl)
        | some t => cases hdisk.symm.trans hholds

/-! ## Sessions -/

/-- Notes in the ledger what has come of a request, for a reader who is at `root`. -/
def note (root : Location) (w : Ledger) : Request × Response → Ledger
  | (.write path content, .stored (.ok ())) =>
    Function.update w (Path.normal root path) (some content)
  | (.discard, _) => fun _ => none
  | _ => w

/-- The texts that were staged since the last discard, as far as they were accepted. -/
def written (root : Location) (history : List (Request × Response)) : Ledger :=
  history.foldl (note root) fun _ => none

/-- The session has the guard `g` and the disk `d`, and its overlay reflects the ledger. -/
structure Agrees (g : Guard) (d : Disk) (w : Ledger) (s : Session) : Prop where
  guard : s.overlay.guard = g
  disk : s.disk = d
  reflects : Reflects d w s.overlay

section
variable {g : Guard} {d : Disk} {w : Ledger} {s : Session}

theorem key_eq_normal {o : Overlay} (h : ∀ n ∈ o.guard.root, IsName n) (path : Text) :
    o.key path = Path.normal o.guard.root path :=
  Location.ofPath_eq_normal h path

private theorem Agrees.serve (hroot : ∀ n ∈ g.root, IsName n) (h : Agrees g d w s) (r : Request) :
    Agrees g d (note g.root w (r, (s.serve r).1)) (s.serve r).2 := by
  obtain ⟨rfl, rfl, hreflects⟩ := h
  cases r with
  | read path => exact ⟨guard_read .., rfl, (hreflects.read path).2⟩
  | write path content =>
    refine ⟨guard_write .., rfl, ?_⟩
    simp only [Session.serve]
    obtain ⟨saved, hholds, -, hwrite⟩ | ⟨f, -, hwrite⟩ := hreflects.write_cases path content
    · rw [hwrite]
      simp only [note, ← key_eq_normal hroot]
      exact hreflects.stage hholds content
    · rw [hwrite]
      exact hreflects
  | staged => exact ⟨rfl, rfl, hreflects⟩
  | discard => exact ⟨rfl, rfl, reflects_discard ..⟩

private theorem Agrees.serve_eq {t : Session} (hs : Agrees g d w s) (ht : Agrees g d w t)
    (r : Request) : (s.serve r).1 = (t.serve r).1 := by
  obtain ⟨hguard, rfl, hreflects⟩ := hs
  obtain ⟨rfl, hdisk, hreflects'⟩ := ht
  have hkey (path : Text) : s.overlay.key path = t.overlay.key path := by simp only [key, hguard]
  cases r with
  | read path =>
    simp only [Session.serve, hdisk]
    rw [(hreflects.read path).1, (hreflects'.read path).1, hkey]
  | write path content =>
    simp only [Session.serve, hdisk]
    rw [hreflects.write_eq, hreflects'.write_eq, hkey, hguard]
  | staged => simp only [Session.serve, hreflects.staged_eq hreflects']
  | discard => rfl

private theorem Agrees.replay_eq (hroot : ∀ n ∈ g.root, IsName n) {t : Session}
    (hs : Agrees g d w s) (ht : Agrees g d w t) (later : List Request) :
    (replay Session.serve s later).1 = (replay Session.serve t later).1 := by
  refine Graft.replay_eq (R := fun s t => ∃ w, Agrees g d w s ∧ Agrees g d w t) ?_ ⟨w, hs, ht⟩ later
  rintro s t r ⟨w, hs, ht⟩
  have hanswer := hs.serve_eq ht r
  exact ⟨hanswer, _, hs.serve hroot r, hanswer ▸ ht.serve hroot r⟩

private theorem note_of_isIdle {root : Location} {r : Request} {a : Response}
    (h : r.isIdle a = true) : note root w (r, a) = w := by
  cases r with
  | read path => rfl
  | write path content =>
    cases a with
    | stored result =>
      cases result with
      | error f => rfl
      | ok u => cases h
    | _ => rfl
  | staged => rfl
  | discard => cases h

end

theorem agrees_create {d₀ : Disk} {base : Location} {home root : Text} {o : Overlay}
    (h : create d₀ base home root = .ok o) (d : Disk) :
    Agrees o.guard d (fun _ => none) ⟨o, d⟩ := by
  simp only [create] at h
  split at h
  case h_1 g hg =>
    cases h
    exact ⟨rfl, rfl, reflects_discard d ⟨g, []⟩⟩
  case h_2 => cases h

/-- On a disk that stays as it is, an overlay answers all requests from the texts that were staged
since the last discard, by the normal forms of their paths, and from the disk. Requests that are
idle make no difference to any later answer, and the disk is never written. -/
theorem served_from_ledger {d₀ d : Disk} {base : Location} {home root : Text} {o : Overlay}
    (hbase : ∀ n ∈ base, IsName n) (hopen : create d₀ base home root = .ok o)
    (requests : List Request) :
    let run := replay Session.serve ⟨o, d⟩ requests
    let w := written o.guard.root run.1
    let s := run.2
    (∀ path, (s.serve (.read path)).1 = .text (match w (Path.normal o.guard.root path) with
      | some t => .ok t
      | none => (onDisk d (Path.normal o.guard.root path)).mapError
          (.ofFault (Path.normal o.guard.root path)))) ∧
    (∀ path content, (s.serve (.write path content)).1 = .stored (.ok ()) ↔
      (∃ t, o.guard.validate d (Path.normal o.guard.root path).display = .ok t) ∧
        ∃ saved, Holds d (Path.normal o.guard.root path) saved) ∧
    (∃ files, (s.serve .staged).1 = .files files ∧ (files.map (·.1)).Pairwise (· < ·) ∧
      ∀ l e, (l, e) ∈ files ↔
        w l = some e.current ∧ Holds d l e.saved ∧ e.saved ≠ some e.current) ∧
    (∀ (r : Request) (later : List Request), r.isIdle (s.serve r).1 = true →
      (replay Session.serve (s.serve r).2 later).1 = (replay Session.serve s later).1) ∧
    s.disk = d := by
  intro run w s
  have hroot : ∀ n ∈ o.guard.root, IsName n := (Reachable.create hbase hopen).keyed.root
  have hs : Agrees o.guard d w s := replay_related (R := Agrees o.guard d)
    (fun _ _ r h => h.serve hroot r) (agrees_create hopen d) requests
  obtain ⟨hguard, hdisk, hreflects⟩ := hs
  have hkey (path : Text) : s.overlay.key path = Path.normal o.guard.root path := by
    rw [key_eq_normal (hguard ▸ hroot), hguard]
  refine ⟨fun path => ?_, fun path content => ?_, ⟨s.overlay.staged, rfl, ?_, fun l e =>
    hreflects.mem_staged_iff⟩, fun r later hidle => ?_, hdisk⟩
  · simp only [Session.serve, hdisk]
    rw [(hreflects.read path).1, hkey, text]
  · simp only [Session.serve, hdisk, Response.stored.injEq]
    rw [hreflects.write_eq, hkey, hguard, verdict_eq_ok_iff]
  · exact List.pairwise_map.mpr (hreflects.sorted.filter _)
  · have hnext := Agrees.serve hroot ⟨hguard, hdisk, hreflects⟩ r
    rw [note_of_isIdle hidle] at hnext
    exact hnext.replay_eq hroot ⟨hguard, hdisk, hreflects⟩ later

/-- Two spellings of one file, a text that is no change, and a path that is refused. -/
theorem served_from_ledger_spellings :
    ∃ (o : Overlay) (requests : List Request),
      (∀ n ∈ ([] : Location), IsName n) ∧
      create (linkedDisk "f".toList) [] "/home".toList "/ws".toList = .ok o ∧
      requests = [.write "l".toList "f".toList, .write "/../ws/x/..//f/".toList "F".toList,
        .write "../e".toList "E".toList] ∧
      let s := (replay Session.serve ⟨o, linkedDisk "f".toList⟩ requests).2
      (s.serve (.read "./f".toList)).1 = .text (.ok "F".toList) ∧
      ∃ files, (s.serve .staged).1 = .files files ∧
        (["ws".toList, "f".toList], ⟨some "f".toList, "F".toList⟩) ∈ files ∧
        (["ws".toList, "l".toList], ⟨some "f".toList, "f".toList⟩) ∉ files := by
  have hopen := create_linkedDisk "f".toList
  have hbase : ∀ n ∈ ([] : Location), IsName n := by simp
  refine ⟨_, _, hbase, hopen, rfl, ?_⟩
  obtain ⟨hread, -, ⟨files, hfiles, -, hmem⟩, -, -⟩ :=
    served_from_ledger (d := linkedDisk "f".toList) hbase hopen [.write "l".toList "f".toList,
      .write "/../ws/x/..//f/".toList "F".toList, .write "../e".toList "E".toList]
  have hhistory : (replay Session.serve ⟨⟨⟨["ws".toList], []⟩, []⟩, linkedDisk "f".toList⟩
      [.write "l".toList "f".toList, .write "/../ws/x/..//f/".toList "F".toList,
        .write "../e".toList "E".toList]).1 =
      [(.write "l".toList "f".toList, .stored (.ok ())),
        (.write "/../ws/x/..//f/".toList "F".toList, .stored (.ok ())),
        (.write "../e".toList "E".toList,
          .stored (.error (.refused (.outside ["e".toList] ["ws".toList]))))] := by cbv
  rw [hhistory] at hread hmem
  refine ⟨?_, files, hfiles, ?_, ?_⟩
  · rw [hread]
    cbv
  · refine (hmem _ _).mpr ⟨by cbv, ?_, by decide⟩
    change onDisk _ _ = _
    cbv
  · simp [hmem]

end Overlay
end Graft
