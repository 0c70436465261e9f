import Graft.Proofs.Injection
import Graft.Recipe.Apply
import Graft.Recipe.Read

/-!
# Checked recipes

The check of a recipe looks at no script, and planning looks at a pattern and at properties before
it looks at the script. So a recipe without issues is one whose operations can be planned whatever
the scripts hold, and when it is applied it is never the recipe that is at fault.
-/
namespace Graft

/-! ## Plans -/

namespace Plan

/-- Whether there is a plan is not a matter of the document. -/
theorem exists_make_iff {d : Document} {pattern : Pattern} {properties : List Property}
    {fallback : Text} {hash : Text → UInt64} :
    (∃ plan, make d pattern properties fallback hash = .ok plan) ↔
      (pattern.validate = .ok () ∧ ∃ names, pattern.chain = .ok names) ∧
        Property.validateAll properties = .ok () := by
  constructor
  · rintro ⟨plan, h⟩
    rw [make] at h
    obtain ⟨_, hvalid, h⟩ := exists_of_bind_eq_ok h
    obtain ⟨names, hchain, h⟩ := exists_of_bind_eq_ok h
    obtain ⟨_, hproperties, -⟩ := exists_of_bind_eq_ok h
    exact ⟨⟨ok_of_mapError_eq_ok hvalid, names, ok_of_mapError_eq_ok hchain⟩,
      ok_of_mapError_eq_ok hproperties⟩
  · rintro ⟨⟨hvalid, names, hchain⟩, hproperties⟩
    obtain ⟨plan, hmake, -⟩ := exists_make (d := d) hvalid hchain hproperties fallback hash
    exact ⟨plan, hmake⟩

end Plan

namespace Recipe

/-! ## Properties as written -/

private theorem validated_eq_ok {p q : Property} (h : validated p = .ok q) :
    q.validate = .ok () := by
  unfold validated at h
  split at h
  case h_1 hvalid =>
    cases h
    exact hvalid
  case h_2 => cases h

private theorem Spec.validate_of_toProperty {s : Spec} {p : Property} (h : s.toProperty = .ok p) :
    p.validate = .ok () := by
  obtain ⟨name, value, form, block⟩ := s
  cases value with
  | some v =>
    cases form <;> cases block <;> rw [toProperty] at h
    case some.none => exact validated_eq_ok h
    all_goals cases h
  | none =>
    cases form with
    | some f =>
      rw [toProperty] at h
      cases h
    | none =>
      cases block with
      | none =>
        rw [toProperty] at h
        exact validated_eq_ok h
      | some children =>
        rw [toProperty] at h
        obtain ⟨ps, -, h⟩ := exists_of_bind_eq_ok h
        exact validated_eq_ok h

private theorem validateAll_of_toProperties {specs : List Spec} {ps : List Property}
    (h : toProperties specs = .ok ps) : Property.validateAll ps = .ok () := by
  induction specs generalizing ps with
  | nil =>
    rw [toProperties] at h
    cases h
    rfl
  | cons s specs ih =>
    rw [toProperties] at h
    obtain ⟨p, hp, h⟩ := exists_of_bind_eq_ok h
    obtain ⟨rest, hrest, h⟩ := exists_of_bind_eq_ok h
    cases h
    rw [Property.validateAll, Spec.validate_of_toProperty hp]
    exact ih hrest

private theorem specFlaw?_eq_none_iff {s : Spec} :
    specFlaw? s = none ↔ ∃ p, s.toProperty = .ok p := by
  rw [specFlaw?]
  cases s.toProperty <;> simp

private theorem filterMap_specFlaw?_eq_nil_iff {specs : List Spec} :
    specs.filterMap specFlaw? = [] ↔ ∃ ps, toProperties specs = .ok ps := by
  induction specs with
  | nil => simp [toProperties]
  | cons s specs ih =>
    rw [toProperties]
    cases hs : s.toProperty with
    | error f => simp [specFlaw?, hs, bind, Except.bind]
    | ok p =>
      have hnone : specFlaw? s = none := specFlaw?_eq_none_iff.mpr ⟨p, hs⟩
      rw [List.filterMap_cons_none hnone, ih]
      cases toProperties specs <;> simp [bind, Except.bind, pure, Except.pure]

/-! ## Issues -/

private theorem targetFlaw?_eq_none_iff {p : Pattern} :
    targetFlaw? p = none ↔ p.validate = .ok () ∧ ∃ names, p.chain = .ok names := by
  rw [targetFlaw?]
  cases p.validate with
  | error f => simp
  | ok u => cases p.chain <;> simp

private theorem not_isBlankText_iff {t : Text} :
    ¬ Text.isBlankText t = true ↔ ∃ c ∈ t, Text.isBlank c = false := by
  simp [Text.isBlankText]

private theorem isIndentUnit_iff {t : Text} :
    isIndentUnit t = true ↔ t ≠ [] ∧ ∀ c ∈ t, c = ' ' ∨ c = '\t' := by
  simp [isIndentUnit, Text.isIndent]

/-- An operation that says what to do and where, and that can be planned for any document. -/
structure Operation.Sound (o : Operation) : Prop where
  id : ∃ c ∈ o.id, Text.isBlank c = false
  file : ∃ c ∈ o.file, Text.isBlank c = false
  properties : o.properties ≠ []
  planned : ∃ properties, toProperties o.properties = .ok properties ∧
    ∀ (d : Document) (fallback : Text) (hash : Text → UInt64),
      (∀ f, Plan.make d o.target properties fallback hash ≠ .error (.pattern f)) ∧
      ∀ f, Plan.make d o.target properties fallback hash ≠ .error (.property f)

private theorem forall_make_ne_error_iff {pattern : Pattern} {properties : List Property} :
    (∀ (d : Document) (fallback : Text) (hash : Text → UInt64),
      (∀ f, Plan.make d pattern properties fallback hash ≠ .error (.pattern f)) ∧
      ∀ f, Plan.make d pattern properties fallback hash ≠ .error (.property f)) ↔
      (pattern.validate = .ok () ∧ ∃ names, pattern.chain = .ok names) ∧
        Property.validateAll properties = .ok () := by
  constructor
  · intro h
    obtain ⟨hpattern, hproperty⟩ := h ⟨[], []⟩ [] fun _ => 0
    cases hmake : Plan.make ⟨[], []⟩ pattern properties [] fun _ => 0 with
    | ok plan => exact Plan.exists_make_iff.mp ⟨plan, hmake⟩
    | error e =>
      cases e with
      | pattern f => exact absurd hmake (hpattern f)
      | property f => exact absurd hmake (hproperty f)
  · intro h d fallback hash
    have hplan : ∃ plan, Plan.make d pattern properties fallback hash = .ok plan :=
      Plan.exists_make_iff.mpr h
    obtain ⟨plan, hmake⟩ := hplan
    simp [hmake]

private theorem Operation.issues_eq_nil_iff {o : Operation} : o.issues = [] ↔ o.Sound := by
  have hsplit : o.issues = [] ↔ ¬ Text.isBlankText o.id = true ∧ ¬ Text.isBlankText o.file = true ∧
      targetFlaw? o.target = none ∧ o.properties ≠ [] ∧
      o.properties.filterMap specFlaw? = [] := by
    simp [issues]
  rw [hsplit, not_isBlankText_iff, not_isBlankText_iff, targetFlaw?_eq_none_iff,
    filterMap_specFlaw?_eq_nil_iff]
  constructor
  · rintro ⟨hid, hfile, htarget, hne, ps, hps⟩
    exact ⟨hid, hfile, hne, ps, hps,
      forall_make_ne_error_iff.mpr ⟨htarget, validateAll_of_toProperties hps⟩⟩
  · rintro ⟨hid, hfile, hne, ps, hps, hplanned⟩
    exact ⟨hid, hfile, (forall_make_ne_error_iff.mp hplanned).1, hne, ps, hps⟩

private theorem issues_eq_nil_iff {r : Recipe} : r.issues = [] ↔ r.operations ≠ [] ∧
    (∀ t ∈ r.indent, t ≠ [] ∧ ∀ c ∈ t, c = ' ' ∨ c = '\t') ∧ ∀ o ∈ r.operations, o.Sound := by
  have hindent : r.indent.all isIndentUnit = true ↔
      ∀ t ∈ r.indent, t ≠ [] ∧ ∀ c ∈ t, c = ' ' ∨ c = '\t' := by
    cases r.indent <;> simp [isIndentUnit_iff]
  rw [← hindent]
  simp [issues, Operation.issues_eq_nil_iff]

end Recipe

/-! ## Errors of a request -/

/-- The request itself is at fault, whatever the script holds. -/
def ScriptError.isRequest : ScriptError → Bool
  | pattern _ | property _ => true
  | _ => false

private theorem Parser.IsKnown.isRequest_probe {p : Parser} (hp : p.IsKnown) {e : ScriptError}
    (h : p.probe = .error e) : e.isRequest = false := by
  obtain rfl | ⟨helper, rfl⟩ := hp
  · cases h
  · rw [ofHelper] at h
    split at h
    · cases h
    · cases h
      rfl

private theorem Parser.IsKnown.isRequest_parse {p : Parser} (hp : p.IsKnown) {source : Text}
    {e : ScriptError} (h : p.parse source = .error e) : e.isRequest = false := by
  have hmap {ε : Type} {r : Except ε Document} {f : ε → ScriptError}
      (hf : ∀ x, (f x).isRequest = false) (hr : r.mapError f = .error e) : e.isRequest = false := by
    cases r with
    | ok d => cases hr
    | error x =>
      cases hr
      exact hf x
  obtain rfl | ⟨helper, rfl⟩ := hp
  · exact hmap (fun _ => rfl) h
  · change parseWith helper source = .error e at h
    rw [parseWith] at h
    repeat' split at h
    case h_3 => exact hmap (fun _ => rfl) h
    all_goals
      cases h
      rfl

namespace Script

variable {s : Script} {d : Disk} {o : Overlay} {pattern : Pattern} {properties : List Property}
  {e : ScriptError}

private theorem isRequest_of_document (hp : s.parser.IsKnown) (h : (s.document d o).1 = .error e) :
    e.isRequest = false := by
  rw [document] at h
  split at h
  case h_1 f hprobe =>
    cases h
    exact hp.isRequest_probe hprobe
  case h_2 =>
    split at h
    case h_1 =>
      cases h
      rfl
    case h_2 => exact hp.isRequest_parse h

private theorem isRequest_of_revise (hp : s.parser.IsKnown) {doc : Document} {hash : Text → UInt64}
    (hplan : ∃ plan, Plan.make doc pattern properties s.unit hash = .ok plan)
    (h : s.revise doc pattern properties hash = .error e) : e.isRequest = false := by
  obtain ⟨plan, hmake⟩ := hplan
  rw [revise, draft, hmake] at h
  cases happly : Edit.apply doc.source plan.edits hash with
  | error f =>
    simp only [happly, Except.mapError, bind, Except.bind] at h
    cases h
    rfl
  | ok t =>
    simp only [happly, Except.mapError, bind, Except.bind, pure, Except.pure] at h
    split at h
    · cases h
    · split at h
      case h_1 => cases h
      case h_2 =>
        cases h
        rfl
      case h_3 f hparse =>
        cases h
        exact hp.isRequest_parse hparse

private theorem isRequest_of_inject (hp : s.parser.IsKnown)
    (hplan : ∀ doc, ∃ plan, Plan.make doc pattern properties s.unit = .ok plan)
    (h : (s.inject d o pattern properties).1 = .error e) : e.isRequest = false := by
  rw [inject] at h
  split at h
  case h_1 f o' hdocument =>
    cases h
    exact isRequest_of_document hp (congrArg Prod.fst hdocument)
  case h_2 doc o' hdocument =>
    split at h
    case h_1 f hrevise =>
      cases h
      exact isRequest_of_revise hp (hplan doc) hrevise
    case h_2 plan t hrevise =>
      split at h
      · cases h
      · split at h
        case h_1 =>
          cases h
          rfl
        case h_2 => cases h

end Script

namespace Recipe

/-! ## Operations of a checked recipe -/

/-- The recipe itself is at fault. -/
def Failure.isRequest : Failure → Bool
  | invalid .. => true
  | script _ e => e.isRequest

private theorem Operation.Sound.isRequest {o : Operation} (h : o.Sound) {parser : Parser}
    (hp : parser.IsKnown) {unit : Text} {d : Disk} {overlay : Overlay} {f : Failure}
    (hf : (o.apply parser unit d overlay).1 = .error f) : f.isRequest = false := by
  obtain ⟨ps, hps, hplanned⟩ := h.planned
  rw [apply, hps] at hf
  simp only at hf
  split at hf
  case h_1 e overlay' hinject =>
    cases hf
    refine Script.isRequest_of_inject (s := ⟨o.file, parser, unit⟩) hp (fun doc => ?_)
      (congrArg Prod.fst hinject)
    exact Plan.exists_make_iff.mpr (forall_make_ne_error_iff.mp hplanned)
  case h_2 => cases hf

private theorem mem_applyAll {parser : Parser} {unit : Text} {keepGoing : Bool} {d : Disk}
    {operations : List Operation} {overlay : Overlay} {x : Result}
    (h : x ∈ (applyAll parser unit keepGoing d operations overlay).1) :
    ∃ o ∈ operations, (∃ d' overlay', x = (o.id, (o.apply parser unit d' overlay').1)) ∨
      ∃ failed, x = (o.id, .ok (.skipped failed)) := by
  induction operations generalizing d overlay with
  | nil => cases h
  | cons o rest ih =>
    rw [applyAll] at h
    simp only at h
    split at h
    · obtain rfl | h := List.mem_cons.mp h
      · exact ⟨o, List.mem_cons_self, .inl ⟨d, overlay, rfl⟩⟩
      · obtain ⟨o', ho', hx⟩ := ih h
        exact ⟨o', List.mem_cons_of_mem o ho', hx⟩
    · obtain rfl | h := List.mem_cons.mp h
      · exact ⟨o, List.mem_cons_self, .inl ⟨d, overlay, rfl⟩⟩
      · obtain ⟨later, hlater, rfl⟩ := List.mem_map.mp h
        exact ⟨later, List.mem_cons_of_mem o hlater, .inr ⟨o.id, rfl⟩⟩

private theorem issues_of_parse {path : Option Text} {t : Text} {r : Recipe}
    (h : parse path t = .ok r) : r.issues = [] := by
  rw [parse] at h
  split at h
  · cases h
  · split at h
    case isTrue hempty =>
      cases h
      exact List.isEmpty_iff.mp hempty
    case isFalse => cases h

/-- No operation fails for what the recipe says, with any of the parsers there are. -/
def Blameless (r : Recipe) : Prop :=
  ∀ (keepGoing : Bool) (d : Disk) (base : Location) (home : Text) (overlay : Overlay)
    (parserOf : ParserOf), (parserOf d base home r.parser).IsKnown →
    ∀ x ∈ (r.apply keepGoing d base home overlay parserOf).1,
      (∀ id flaw, x.2 ≠ .error (.invalid id flaw)) ∧
      (∀ file flaw, x.2 ≠ .error (.script file (.pattern flaw))) ∧
      ∀ file flaw, x.2 ≠ .error (.script file (.property flaw))

private theorem blameless_of_issues {r : Recipe} (h : r.issues = []) : r.Blameless := by
  intro keepGoing d base home overlay parserOf hknown x hx
  obtain ⟨-, -, hsound⟩ := issues_eq_nil_iff.mp h
  have hfault : ∀ f, x.2 = .error f → f.isRequest = false := by
    intro f hf
    obtain ⟨o, ho, ⟨d', overlay', rfl⟩ | ⟨failed, rfl⟩⟩ := mem_applyAll hx
    · exact (hsound o ho).isRequest hknown hf
    · cases hf
  refine ⟨fun id flaw h => ?_, fun file flaw h => ?_, fun file flaw h => ?_⟩
  · cases hfault _ h
  · cases hfault _ h
  · cases hfault _ h

/-- A recipe has no issues exactly when it has operations, its indentation is one, and each of its
operations has a name, a file and properties that mean something and can be planned together with
its target for any document. The recipe is not at fault then when it is applied, and a recipe that
was read has no issues. -/
theorem checked_iff_planned (r : Recipe) :
    (r.issues = [] ↔ r.operations ≠ [] ∧
      (∀ t ∈ r.indent, t ≠ [] ∧ ∀ c ∈ t, c = ' ' ∨ c = '\t') ∧ ∀ o ∈ r.operations, o.Sound) ∧
    (r.issues = [] → r.Blameless) ∧
    ∀ (path : Option Text) (t : Text), parse path t = .ok r → r.issues = [] ∧ r.Blameless := by
  refine ⟨issues_eq_nil_iff, blameless_of_issues, fun path t hparse => ?_⟩
  have hissues := issues_of_parse hparse
  exact ⟨hissues, blameless_of_issues hissues⟩

/-- A recipe with one operation. -/
def blockRecipe : Recipe where
  name := []
  description := none
  indent := none
  parser := .native
  operations := [⟨['i'], ['f'], none, .ofPath [['a']], [.mk ['x'] none none (some [])]⟩]

/-- The recipe as its author writes it. -/
def blockRecipeText : Text :=
  ("operations=[\x7bid='i',file='f',target.a=\x7b\x7d," ++
    "properties=[\x7bname='x',block=[]\x7d]\x7d]").toList

theorem parse_blockRecipeText (path : Option Text) :
    parse path blockRecipeText = .ok blockRecipe := by
  cbv

/-- In a project without the script it is the missing file that is at fault. -/
theorem checked_iff_planned_missing :
    parse none blockRecipeText = .ok blockRecipe ∧
    (ParserChoice.parser ⟨[]⟩ [] [] blockRecipe.parser).IsKnown ∧
    ∃ x ∈ (blockRecipe.apply true ⟨[]⟩ [] [] ⟨⟨[], []⟩, []⟩).1, x.2.toBool = false ∧
      (∀ id flaw, x.2 ≠ .error (.invalid id flaw)) ∧
      (∀ file flaw, x.2 ≠ .error (.script file (.pattern flaw))) ∧
      ∀ file flaw, x.2 ≠ .error (.script file (.property flaw)) := by
  have hparse := parse_blockRecipeText none
  have hnative : ParserChoice.parser ⟨[]⟩ [] [] blockRecipe.parser = .native := rfl
  have hresults : (applyAll .native Plan.defaultUnit true ⟨[]⟩ blockRecipe.operations
      ⟨⟨[], []⟩, []⟩).1 = [(['i'], .error (.script ['f'] (.overlay (.notFound [['f']]))))] := by cbv
  have hx := List.mem_singleton_self
    ((['i'], .error (.script ['f'] (.overlay (.notFound [['f']])))) : Result)
  rw [← hresults] at hx
  refine ⟨hparse, .inl hnative, _, hx, rfl, ?_⟩
  obtain ⟨-, -, hread⟩ := checked_iff_planned blockRecipe
  obtain ⟨-, hblameless⟩ := hread none blockRecipeText hparse
  exact hblameless true ⟨[]⟩ [] [] _ ParserChoice.parser (.inl hnative) _ hx

end Recipe
end Graft
