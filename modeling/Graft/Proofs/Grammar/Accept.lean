import Graft.Proofs.Grammar.Run

/-!
# What the builder accepts

A run that succeeds is taken apart from the front: a name, its arguments, the rest of the body. The
parts form a derivation, and the run over what follows them succeeds with the same nodes.
-/
namespace Graft.Tree

open Grammar

section
variable {ns : List Node} {bs : List Open} {result : List Node}

private theorem run_cons_inv {s : State} {t : Token} {ts : List Token}
    (h : run s (t :: ts) = .ok result) : ∃ s', s.step t = .ok s' ∧ run s' ts = .ok result := by
  rw [run_cons] at h
  cases hs : s.step t with
  | error f => rw [hs] at h; cases h
  | ok s' => rw [hs] at h; exact ⟨s', rfl, h⟩

/-! ## Names -/

private theorem exists_linked {head : Head} (ts : List Token)
    (h : run ⟨ns, bs, .named head⟩ ts = .ok result) :
    ∃ ps rest, ts = (ps.flatMap fun p => [p.1, p.2]) ++ rest ∧ Name.Linked head.stop ps ∧
      ¬ Name.Extends (Name.stopFrom head.stop ps) rest := by
  by_cases he : Name.Extends head.stop ts
  · obtain ⟨p, i, more, rfl, hp, hi⟩ := he
    have hone : run ⟨ns, bs, .named head⟩ ([(p, i)].flatMap (fun p => [p.1, p.2]) ++ more) =
        .ok result := h
    rw [run_linked ns bs [(p, i)] ⟨hp, hi, trivial⟩] at hone
    obtain ⟨ps, rest, rfl, hl, hm⟩ := exists_linked more hone
    exact ⟨(p, i) :: ps, rest, by simp, ⟨hp, hi, hl⟩, hm⟩
  · exact ⟨[], ts, by simp, trivial, he⟩
termination_by ts.length

private theorem exists_name {t : Token} {ts : List Token} (ht : t.kind = .identifier)
    (h : run ⟨ns, bs, .none⟩ (t :: ts) = .ok result) :
    ∃ (n : Name) (rest : List Token), t :: ts = n.tokens ++ rest ∧ n.Valid rest ∧
      run ⟨ns, bs, .arguments (headOf n) [] []⟩ rest = .ok result := by
  have hfalse (c : Char) : t.isSymbol c = false := isSymbol_of_kind ht (by decide) c
  have hfirst : State.step ⟨ns, bs, .none⟩ t =
      .ok ⟨ns, bs, .named ⟨t.text, t.start, t.stop⟩⟩ := by
    simp [State.step, State.between, ht, hfalse]
  have hnamed := h
  rw [run_cons_ok hfirst] at hnamed
  obtain ⟨ps, rest, rfl, hl, hm⟩ := exists_linked ts hnamed
  have hv : Name.Valid ⟨t, ps⟩ rest := ⟨ht, hl, hm⟩
  refine ⟨⟨t, ps⟩, rest, rfl, hv, ?_⟩
  rw [← run_name ns bs hv]
  exact h

/-! ## Arguments -/

private theorem isEnclosed_or_isBraced {o c : Token} {d : Char} (hd : opener? c = some d)
    (ho : o.isSymbol d) : IsEnclosed o c ∨ IsBraced o c := by
  unfold opener? at hd
  split at hd
  · next hc => cases hd; exact .inl (.inl ⟨ho, hc⟩)
  · split at hd
    · next hc => cases hd; exact .inl (.inr ⟨ho, hc⟩)
    · split at hd
      · next hc => cases hd; exact .inr ⟨ho, hc⟩
      · cases hd

private theorem bracketsAfter_inv {b t : Token} {brackets brackets' : List Token}
    (h : bracketsAfter (b :: brackets) t = .ok brackets') :
    (¬ IsBracket t ∧ brackets' = b :: brackets) ∨
      (isOpener t ∧ brackets' = t :: b :: brackets) ∨
      ((IsEnclosed b t ∨ IsBraced b t) ∧ brackets' = brackets) := by
  by_cases ho : isOpener t
  · simp only [bracketsAfter, ho, if_true, Except.ok.injEq] at h
    exact .inr (.inl ⟨ho, h.symm⟩)
  · cases hc : opener? t with
    | none =>
      simp only [bracketsAfter, ho, hc, Bool.false_eq_true, if_false, Except.ok.injEq] at h
      exact .inl ⟨by simp [isBracket_iff, ho, hc], h.symm⟩
    | some d =>
      simp only [bracketsAfter, ho, hc, Bool.false_eq_true, if_false] at h
      split at h
      · next hd =>
        cases h
        exact .inr (.inr ⟨isEnclosed_or_isBraced hc hd, rfl⟩)
      · cases h

private theorem step_within_inv {head : Head} {args brackets : List Token} {b t : Token} {s : State}
    (h : State.step ⟨ns, bs, .arguments head args (b :: brackets)⟩ t = .ok s) :
    ∃ brackets', bracketsAfter (b :: brackets) t = .ok brackets' := by
  by_cases hn : t.kind = .newline
  · have hb : ¬ IsBracket t := by
      intro hb
      rw [kind_of_isBracket hb] at hn
      cases hn
    exact ⟨_, bracketsAfter_plain hb _⟩
  · simp only [State.step, State.argue, List.isEmpty_cons, Bool.false_and, hn, if_false,
      Bool.false_eq_true] at h
    cases ha : bracketsAfter (b :: brackets) t with
    | ok brackets' => exact ⟨brackets', rfl⟩
    | error f => rw [ha] at h; cases h

/-- Inside a bracket there are nested tokens up to the mark that closes it. -/
theorem exists_nested {head : Head} {args brackets : List Token} {b : Token} (ts : List Token)
    (h : run ⟨ns, bs, .arguments head args (b :: brackets)⟩ ts = .ok result) :
    ∃ (p : Pieces) (c : Token) (rest : List Token), ts = p.tokens ++ c :: rest ∧ p.Nested ∧
      (IsEnclosed b c ∨ IsBraced b c) ∧
      run ⟨ns, bs, .arguments head (c :: (p.kept.reverse ++ args)) brackets⟩ rest = .ok result := by
  cases ts with
  | nil => cases h
  | cons t ts =>
    obtain ⟨s, hs, hrun⟩ := run_cons_inv h
    obtain ⟨brackets', hb⟩ := step_within_inv hs
    have hstep := step_within ns bs head args (by simp) hb
    rw [run_cons_ok hstep] at h
    rcases bracketsAfter_inv hb with ⟨hplain, rfl⟩ | ⟨hopen, rfl⟩ | ⟨hclose, rfl⟩
    · rw [ite_self] at h
      obtain ⟨p, c, rest, rfl, hp, hc, hrest⟩ := exists_nested ts h
      refine ⟨.token t p, c, rest, rfl, .token hplain hp, hc, ?_⟩
      rw [← hrest, kept_token]
      by_cases hn : t.kind = .newline <;> simp [hn]
    · have hkind : t.kind = .symbol := kind_of_isBracket (isBracket_iff.mpr (.inl hopen))
      simp only [hkind, reduceCtorEq, if_false, List.singleton_append] at h
      obtain ⟨inside, d, more, rfl, hi, hd, hmore⟩ := exists_nested ts h
      obtain ⟨p, c, rest, rfl, hp, hc, hrest⟩ := exists_nested more hmore
      refine ⟨.group t inside d p, c, rest, by simp [Pieces.tokens], .group hd hi hp, hc, ?_⟩
      rw [← hrest, kept_group hd]
      simp
    · have hkind : t.kind = .symbol := kind_of_isBracket (isBracket_of_group hclose).2
      simp only [hkind, reduceCtorEq, if_false, List.singleton_append] at h
      exact ⟨.nil, t, ts, rfl, .nil, hclose, h⟩
termination_by ts.length
decreasing_by
  all_goals subst_vars
  all_goals simp only [List.length_cons, List.length_append]
  all_goals omega

/-- The first token that is neither an argument nor part of one. -/
def StopsArguments (ts : List Token) : Prop :=
  ∀ t ∈ ts.head?, IsSeparator t ∨ t.isSymbol '}' ∨ t.isSymbol '{'

private theorem step_outside_inv {head : Head} {args : List Token} {t : Token} {s : State}
    (hs : ¬ IsSeparator t) (hclose : ¬ t.isSymbol '}') (hopen : ¬ t.isSymbol '{')
    (h : State.step ⟨ns, bs, .arguments head args []⟩ t = .ok s) :
    ¬ IsBracket t ∨ t.isSymbol '(' ∨ t.isSymbol '[' := by
  have hline : ¬ t.kind = .newline := fun hl => hs (.inl hl)
  have hsemi : ¬ t.isSymbol ';' := fun hl => hs (.inr hl)
  by_cases hr : t.isSymbol '('
  · exact .inr (.inl hr)
  · by_cases hq : t.isSymbol '['
    · exact .inr (.inr hq)
    · refine .inl fun hb => ?_
      have hno : isOpener t = false := by simp [isOpener, hr, hq, hopen]
      have hsome : (opener? t).isSome := by simpa [isBracket_iff, hno] using hb
      obtain ⟨d, hd⟩ := Option.isSome_iff_exists.mp hsome
      simp only [State.step, State.argue, hline, hsemi, hclose, hopen, bracketsAfter, hno, hd] at h
      cases h

private theorem exists_arguments {head : Head} {args : List Token} (ts : List Token)
    (h : run ⟨ns, bs, .arguments head args []⟩ ts = .ok result) :
    ∃ (p : Pieces) (rest : List Token), ts = p.tokens ++ rest ∧ p.Arguments ∧
      StopsArguments rest ∧
      run ⟨ns, bs, .arguments head (p.kept.reverse ++ args) []⟩ rest = .ok result := by
  by_cases hstop : StopsArguments ts
  · exact ⟨.nil, ts, rfl, .nil, hstop, h⟩
  · cases ts with
    | nil => exact absurd (by simp [StopsArguments]) hstop
    | cons t ts =>
      simp only [StopsArguments, List.head?_cons, Option.mem_def, Option.some.injEq, forall_eq',
        not_or] at hstop
      obtain ⟨hs, hclose, hopen⟩ := hstop
      obtain ⟨s, hstep, hrun⟩ := run_cons_inv h
      by_cases hb : IsBracket t
      · have hround : t.isSymbol '(' ∨ t.isSymbol '[' := by
          simpa [hb] using step_outside_inv hs hclose hopen hstep
        have hgroup : ∃ c, IsEnclosed t c := by
          rcases hround with hr | hq
          · exact ⟨⟨⟨.symbol, [')']⟩, 0⟩, .inl ⟨hr, rfl⟩⟩
          · exact ⟨⟨⟨.symbol, [']']⟩, 0⟩, .inr ⟨hq, rfl⟩⟩
        obtain ⟨_, hgroup⟩ := hgroup
        rw [run_cons_ok (step_opening ns bs hgroup)] at h
        obtain ⟨inside, c, more, rfl, hi, hc, hmore⟩ := exists_nested ts h
        have hc : IsEnclosed t c := hc.resolve_right fun hbr => hopen hbr.1
        obtain ⟨p, rest, rfl, hp, hrest, hok⟩ := exists_arguments more hmore
        refine ⟨.group t inside c p, rest, by simp [Pieces.tokens], .group hc hi hp, hrest, ?_⟩
        rw [← hok, kept_group (.inl hc)]
        simp
      · rw [run_cons_ok (step_argument ns bs hs hb)] at h
        obtain ⟨p, rest, rfl, hp, hrest, hok⟩ := exists_arguments ts h
        refine ⟨.token t p, rest, rfl, .token hs hb hp, hrest, ?_⟩
        have hline : ¬ t.kind = .newline := fun hl => hs (.inl hl)
        rw [← hok, kept_token]
        simp [hline]
termination_by ts.length
decreasing_by
  all_goals subst_vars
  all_goals simp only [List.length_cons, List.length_append]
  all_goals omega

/-! ## Items -/

private theorem exists_breaks {head : Head} (ts : List Token)
    (h : run ⟨ns, bs, .broken head⟩ ts = .ok result) :
    ∃ (breaks : List Token) (o : Token) (rest : List Token), ts = breaks ++ o :: rest ∧
      (∀ t ∈ breaks, t.kind = .newline) ∧ o.isSymbol '{' := by
  cases ts with
  | nil => cases h
  | cons t ts =>
    obtain ⟨s, hstep, hrun⟩ := run_cons_inv h
    by_cases hn : t.kind = .newline
    · obtain rfl : ⟨ns, bs, .broken head⟩ = s := by simpa [State.step, hn] using hstep
      obtain ⟨breaks, o, rest, rfl, hb, ho⟩ := exists_breaks ts hrun
      exact ⟨t :: breaks, o, rest, rfl, by simpa [hn] using hb, ho⟩
    · by_cases ho : t.isSymbol '{'
      · exact ⟨[], t, ts, rfl, by simp, ho⟩
      · simp only [State.step, hn, ho, if_false] at hstep
        cases hstep

private theorem exists_item {head : Head} {args ts : List Token}
    (hstop : StopsArguments ts) (h : run ⟨ns, bs, .arguments head args []⟩ ts = .ok result) :
    (args ≠ [] ∧ Ended ts) ∨
      ∃ (breaks : List Token) (o : Token) (rest : List Token), ts = breaks ++ o :: rest ∧
        (∀ t ∈ breaks, t.kind = .newline) ∧ (args = [] ∨ breaks = []) ∧ o.isSymbol '{' := by
  cases ts with
  | nil =>
    cases args with
    | nil => cases h
    | cons last args => exact .inl ⟨by simp, by simp [Ended]⟩
  | cons t ts =>
    obtain ⟨s, hstep, hrun⟩ := run_cons_inv h
    by_cases ho : t.isSymbol '{'
    · exact .inr ⟨[], t, ts, rfl, by simp, .inr rfl, ho⟩
    · have hend : IsSeparator t ∨ t.isSymbol '}' := by
        rcases hstop t (by simp) with h | h | h
        · exact .inl h
        · exact .inr h
        · exact absurd h ho
      cases args with
      | cons last args => exact .inl ⟨by simp, by simpa [Ended] using hend⟩
      | nil =>
        by_cases hn : t.kind = .newline
        · obtain rfl : ⟨ns, bs, .broken head⟩ = s := by
            simpa [State.step, State.argue, hn] using hstep
          obtain ⟨breaks, o, rest, rfl, hb, ho⟩ := exists_breaks ts hrun
          exact .inr ⟨t :: breaks, o, rest, rfl, by simpa [hn] using hb, .inl rfl, ho⟩
        · have hmark : (t.isSymbol ';' || t.isSymbol '}') = true := by
            rcases hend with (hl | hl) | hl
            · exact absurd hl hn
            · simp [hl]
            · simp [hl]
          simp only [State.step, State.argue, List.isEmpty_nil, hn, decide_false, Bool.false_or,
            hmark, Bool.true_and, if_true, if_false] at hstep
          cases hstep

/-! ## Bodies -/

private theorem eq_nil_of_kept {p : Pieces} (hp : p.Arguments) (h : p.kept.reverse = []) :
    p = .nil := by
  by_cases hne : p = .nil
  · exact hne
  · obtain ⟨last, args, hrev, _⟩ := kept_reverse hp hne
    rw [h] at hrev
    cases hrev

private theorem kind_of_item {t : Token} {ts : List Token} (hsep : ¬ IsSeparator t)
    (hclose : ¬ t.isSymbol '}') (h : run ⟨ns, bs, .none⟩ (t :: ts) = .ok result) :
    t.kind = .identifier := by
  obtain ⟨s, hstep, _⟩ := run_cons_inv h
  have hline : ¬ t.kind = .newline := fun hl => hsep (.inl hl)
  have hsemi : ¬ t.isSymbol ';' := fun hl => hsep (.inr hl)
  by_cases hk : t.kind = .identifier
  · exact hk
  · simp only [State.step, State.between, hline, hsemi, hclose, hk] at hstep
    cases hstep

private theorem exists_closing {b : Open} {ts : List Token} (hts : ∀ t ∈ ts.head?, t.isSymbol '}')
    (h : run ⟨ns, b :: bs, .none⟩ ts = .ok result) :
    ∃ c rest, ts = c :: rest ∧ run ⟨.block b.head.name ⟨b.head.start, c.stop⟩ b.header
      ⟨b.opening, c.start⟩ ns.reverse :: b.before, bs, .none⟩ rest = .ok result := by
  cases ts with
  | nil => cases h
  | cons c rest =>
    rw [run_cons_ok (step_leave ns bs (hts c (by simp)))] at h
    exact ⟨c, rest, rfl, h⟩

private theorem step_unmatched {c : Token} {s : State} (hc : c.isSymbol '}') :
    State.step ⟨ns, [], .none⟩ c ≠ .ok s := by
  have hline : c.kind ≠ .newline := kind_ne_of_isSymbol hc (by decide)
  have hsemi : c.isSymbol ';' = false := isSymbol_eq_false hc (by decide)
  simp only [State.step, State.between, State.leave, hline, hsemi, hc]
  intro h
  cases h

/-- A body is read up to the end of the tokens or to a closing brace. -/
theorem exists_body {ns : List Node} {bs : List Open} (ts : List Token)
    (h : run ⟨ns, bs, .none⟩ ts = .ok result) :
    ∃ (b : Body) (rest : List Token), ts = b.tokens ++ rest ∧ b.Valid rest ∧
      (∀ t ∈ rest.head?, t.isSymbol '}') := by
  cases ts with
  | nil => exact ⟨.nil, [], rfl, .nil, by simp⟩
  | cons t ts =>
    by_cases hsep : IsSeparator t
    · rw [run_cons_ok (step_separator ns bs hsep)] at h
      obtain ⟨b, rest, rfl, hb, hrest⟩ := exists_body ts h
      exact ⟨.separator t b, rest, rfl, .separator hsep hb, hrest⟩
    · by_cases hclose : t.isSymbol '}'
      · exact ⟨.nil, t :: ts, rfl, .nil, by simpa using hclose⟩
      · obtain ⟨n, r1, hts, hn, hname⟩ := exists_name (kind_of_item hsep hclose h) h
        obtain ⟨p, r2, rfl, hp, hstop, hargs⟩ := exists_arguments r1 hname
        have hlen : r2.length < (t :: ts).length := by
          rw [hts]
          simp only [Name.tokens, List.length_append, List.length_cons]
          omega
        rw [List.append_nil] at hargs
        rcases exists_item hstop hargs with ⟨hne, hend⟩ | ⟨breaks, o, r3, rfl, hbr, hor, ho⟩
        · have hpne : p ≠ .nil := by
            rintro rfl
            exact hne rfl
          obtain ⟨last, args, hrev, _⟩ := kept_reverse hp hpne
          rw [hrev, run_ended ns bs hend] at hargs
          obtain ⟨b, rest, rfl, hb, hrest⟩ := exists_body r2 hargs
          refine ⟨.statement n p b, rest, ?_, .statement hn hpne hp hend hb, hrest⟩
          rw [hts, Body.tokens, List.append_assoc, List.append_assoc]
        · rw [run_enter ns bs hbr hor ho] at hargs
          obtain ⟨inside, r4, rfl, hi, hr4⟩ := exists_body r3 hargs
          rw [run_body hi] at hargs
          obtain ⟨c, r5, rfl, hrun⟩ := exists_closing hr4 hargs
          have hc : c.isSymbol '}' := hr4 c (by simp)
          obtain ⟨b, rest, rfl, hb, hrest⟩ := exists_body r5 hrun
          have hor' : p = .nil ∨ breaks = [] := hor.imp_left (eq_nil_of_kept hp)
          refine ⟨.block n p breaks o inside c b, rest, ?_,
            .block hn hp hbr hor' ⟨ho, hc⟩ hi hb, hrest⟩
          rw [hts]
          simp [Body.tokens]
termination_by ts.length
decreasing_by
  all_goals subst_vars
  all_goals simp only [List.length_cons, List.length_append] at *
  all_goals omega

/-- The builder accepts the tokens of a derivation with the nodes of that derivation, and no
others. -/
theorem build_eq_ok_iff {ts : List Token} {nodes : List Node} :
    build ts = .ok nodes ↔ ∃ b : Body, b.Derives ts ∧ b.nodes = nodes := by
  rw [build_eq_run]
  constructor
  · intro h
    obtain ⟨b, rest, rfl, hb, hrest⟩ := exists_body ts h
    have hrun := h
    rw [State.start, run_body hb] at hrun
    cases rest with
    | nil =>
      refine ⟨b, ⟨by simp, hb⟩, ?_⟩
      simpa [State.finish] using hrun
    | cons c rest =>
      have hc : c.isSymbol '}' := hrest c (by simp)
      obtain ⟨s, hs, _⟩ := run_cons_inv hrun
      exact absurd hs (step_unmatched hc)
  · rintro ⟨b, ⟨rfl, hb⟩, rfl⟩
    have hrun := run_body hb [] []
    rw [List.append_nil] at hrun
    rw [State.start, hrun, run_nil]
    simp [State.finish]

end
end Graft.Tree
