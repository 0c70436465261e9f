import Graft.Proofs.Grammar

/-!
# Running the builder over a derivation

`run s ts` is what the builder gives for the tokens `ts` from the state `s` on. Each part of a
derivation has one lemma: running over its tokens is the same as going on from the state that holds
what the part stands for.
-/
namespace Graft.Tree

open Grammar

/-- The nodes of the document that the tokens `ts` complete. -/
def run (s : State) (ts : List Token) : Except Fault (List Node) := do
  let s ← ts.foldlM State.step s
  s.finish

theorem build_eq_run (ts : List Token) : build ts = run .start ts := rfl

@[simp] theorem run_nil (s : State) : run s [] = s.finish := rfl

theorem run_cons (s : State) (t : Token) (ts : List Token) :
    run s (t :: ts) = (s.step t).bind fun s => run s ts := by
  simp only [run, List.foldlM_cons, bind_assoc]
  rfl

theorem run_cons_ok {s s' : State} {t : Token} (h : s.step t = .ok s') (ts : List Token) :
    run s (t :: ts) = run s' ts := by
  rw [run_cons, h]
  rfl

private theorem run_congr {s s' : State} {ts : List Token} (hf : s.finish = s'.finish)
    (hs : ∀ t ∈ ts.head?, s.step t = s'.step t) : run s ts = run s' ts := by
  cases ts with
  | nil => exact hf
  | cons t ts => rw [run_cons, run_cons, hs t (by simp)]

/-! ## Marks -/

theorem isSymbol_iff {t : Token} {c : Char} :
    t.isSymbol c ↔ t.kind = .symbol ∧ t.text = [c] := by
  simp [Token.isSymbol]

theorem isSymbol_unique {t : Token} {c d : Char} (hc : t.isSymbol c) (hd : t.isSymbol d) :
    c = d := by
  rw [isSymbol_iff] at hc hd
  exact List.singleton_inj.mp (hc.2.symm.trans hd.2)

theorem isSymbol_eq_false {t : Token} {c d : Char} (hc : t.isSymbol c) (hne : c ≠ d) :
    t.isSymbol d = false := by
  rw [Bool.eq_false_iff]
  intro hd
  exact hne (isSymbol_unique hc hd)

theorem kind_ne_of_isSymbol {t : Token} {c : Char} {k : Token.Kind} (hc : t.isSymbol c)
    (hk : k ≠ .symbol) : t.kind ≠ k := by
  rw [(isSymbol_iff.mp hc).1]
  exact Ne.symm hk

theorem isSymbol_of_kind {t : Token} {k : Token.Kind} (ht : t.kind = k) (hk : k ≠ .symbol)
    (c : Char) : t.isSymbol c = false := by
  rw [Bool.eq_false_iff]
  intro hc
  exact hk (ht.symm.trans (isSymbol_iff.mp hc).1)

theorem isBracket_iff {t : Token} : IsBracket t ↔ isOpener t ∨ (opener? t).isSome := by
  simp only [IsBracket, isOpener, opener?, List.mem_cons, List.not_mem_nil, or_false,
    exists_eq_or_imp, exists_eq_left, Bool.or_eq_true]
  cases t.isSymbol '(' <;> cases t.isSymbol ')' <;> cases t.isSymbol '[' <;>
    cases t.isSymbol ']' <;> cases t.isSymbol '{' <;> cases t.isSymbol '}' <;> simp

/-! ## Names -/

section
variable (ns : List Node) (bs : List Open)

private theorem argue_pending (head : Head) (args brackets : List Token) (t : Token)
    (p q : Pending) : State.argue ⟨ns, bs, p⟩ head args brackets t =
      State.argue ⟨ns, bs, q⟩ head args brackets t := by
  cases args <;> rfl

/-- A name before the tokens that follow it is the start of an item with no arguments yet. -/
theorem run_named {head : Head} {ts : List Token} (hm : ¬ Name.Extends head.stop ts) :
    run ⟨ns, bs, .named head⟩ ts = run ⟨ns, bs, .arguments head [] []⟩ ts := by
  cases ts with
  | nil => rfl
  | cons p ts =>
    by_cases hp : p.isSymbol '.' ∧ head.stop = p.start
    · -- The point does not go on the name, so it is the first argument.
      have hstep : State.step ⟨ns, bs, .named head⟩ p = .ok ⟨ns, bs, .pointed head p⟩ := by
        simp [State.step, hp.1, hp.2]
      have hnewline : p.kind ≠ .newline := kind_ne_of_isSymbol hp.1 (by decide)
      have hfalse (c : Char) (hc : '.' ≠ c) : p.isSymbol c = false := isSymbol_eq_false hp.1 hc
      have hargue : State.step ⟨ns, bs, .arguments head [] []⟩ p =
          .ok ⟨ns, bs, .arguments head [p] []⟩ := by
        simp [State.step, State.argue, bracketsAfter, isOpener, opener?, hnewline, hfalse, bind,
          Except.bind, pure, Except.pure]
      rw [run_cons_ok hstep, run_cons_ok hargue]
      apply run_congr
      · rfl
      · intro i hi
        have hnot : ¬ (i.kind = .identifier ∧ p.touches i) := by
          intro hext
          obtain ⟨rest, rfl⟩ : ∃ rest, ts = i :: rest := by
            cases ts with
            | nil => simp at hi
            | cons j rest => exact ⟨rest, by simpa using hi⟩
          exact hm ⟨p, i, rest, rfl, hp, hext⟩
        simp only [State.step, Bool.and_eq_true, decide_eq_true_eq, hnot, if_false]
        exact argue_pending ns bs head [p] [] i _ _
    · apply run_congr
      · rfl
      · intro t ht
        obtain rfl : p = t := by simpa using ht
        simp only [State.step, Bool.and_eq_true, beq_iff_eq, hp, if_false]
        exact argue_pending ns bs head [] [] p _ _

theorem run_linked {head : Head} (ps : List (Token × Token)) (hl : Name.Linked head.stop ps)
    (ts : List Token) :
    run ⟨ns, bs, .named head⟩ ((ps.flatMap fun p => [p.1, p.2]) ++ ts) =
      run ⟨ns, bs, .named ⟨head.name ++ ps.flatMap (fun p => '.' :: p.2.text), head.start,
        Name.stopFrom head.stop ps⟩⟩ ts := by
  induction ps generalizing head with
  | nil => simp [Name.stopFrom]
  | cons q ps ih =>
    obtain ⟨p, i⟩ := q
    obtain ⟨hp, hi, hrest⟩ := hl
    have hpoint : State.step ⟨ns, bs, .named head⟩ p = .ok ⟨ns, bs, .pointed head p⟩ := by
      simp [State.step, hp.1, hp.2]
    have hident : State.step ⟨ns, bs, .pointed head p⟩ i =
        .ok ⟨ns, bs, .named ⟨head.name ++ '.' :: i.text, head.start, i.stop⟩⟩ := by
      simp [State.step, hi.1, hi.2]
    have hih := @ih ⟨head.name ++ '.' :: i.text, head.start, i.stop⟩ hrest
    simp only [List.flatMap_cons, List.cons_append, List.nil_append]
    rw [run_cons_ok hpoint, run_cons_ok hident, hih]
    simp [Name.stopFrom]

/-- The name as the builder keeps it. -/
def headOf (n : Name) : Head := ⟨n.text, n.first.start, n.stop⟩

theorem run_name {n : Name} {ts : List Token} (hn : n.Valid ts) :
    run ⟨ns, bs, .none⟩ (n.tokens ++ ts) = run ⟨ns, bs, .arguments (headOf n) [] []⟩ ts := by
  have hfalse (c : Char) : n.first.isSymbol c = false :=
    isSymbol_of_kind hn.identifier (by decide) c
  have hfirst : State.step ⟨ns, bs, .none⟩ n.first =
      .ok ⟨ns, bs, .named ⟨n.first.text, n.first.start, n.first.stop⟩⟩ := by
    simp [State.step, State.between, hn.identifier, hfalse]
  rw [Name.tokens, List.cons_append, run_cons_ok hfirst, run_linked ns bs n.rest hn.linked]
  exact run_named ns bs hn.maximal

/-! ## Arguments -/

theorem bracketsAfter_plain {t : Token} (ht : ¬ IsBracket t) (brackets : List Token) :
    bracketsAfter brackets t = .ok brackets := by
  rw [isBracket_iff, not_or] at ht
  have hopen : isOpener t = false := by simpa using ht.1
  have hclose : opener? t = none := by simpa using ht.2
  simp [bracketsAfter, hopen, hclose]

private theorem bracketsAfter_opening {o c : Token} (h : IsEnclosed o c ∨ IsBraced o c)
    (brackets : List Token) : bracketsAfter brackets o = .ok (o :: brackets) := by
  have hopen : isOpener o := by
    rcases h with (h | h) | h <;> simp [isOpener, h.1]
  simp [bracketsAfter, hopen]

private theorem bracketsAfter_closing {o c : Token} (h : IsEnclosed o c ∨ IsBraced o c)
    (brackets : List Token) : bracketsAfter (o :: brackets) c = .ok brackets := by
  rcases h with (h | h) | h
  · have hc (d : Char) (hd : ')' ≠ d) : c.isSymbol d = false := isSymbol_eq_false h.2 hd
    simp [bracketsAfter, isOpener, opener?, h.1, h.2, hc]
  · have hc (d : Char) (hd : ']' ≠ d) : c.isSymbol d = false := isSymbol_eq_false h.2 hd
    simp [bracketsAfter, isOpener, opener?, h.1, h.2, hc]
  · have hc (d : Char) (hd : '}' ≠ d) : c.isSymbol d = false := isSymbol_eq_false h.2 hd
    simp [bracketsAfter, isOpener, opener?, h.1, h.2, hc]

theorem kept_token (t : Token) (rest : Pieces) :
    (Pieces.token t rest).kept = (if t.kind = .newline then [] else [t]) ++ rest.kept := by
  by_cases h : t.kind = .newline <;> simp [Pieces.kept, Pieces.tokens, h]

theorem isBracket_of_group {o c : Token} (h : IsEnclosed o c ∨ IsBraced o c) :
    IsBracket o ∧ IsBracket c := by
  simp only [IsBracket, List.mem_cons, List.not_mem_nil, or_false, exists_eq_or_imp,
    exists_eq_left]
  rcases h with (h | h) | h <;> simp [h.1, h.2]

theorem kind_of_isBracket {t : Token} (h : IsBracket t) : t.kind = .symbol := by
  obtain ⟨c, _, hc⟩ := h
  exact (isSymbol_iff.mp hc).1

theorem kept_group {o c : Token} (h : IsEnclosed o c ∨ IsBraced o c) (inside rest : Pieces) :
    (Pieces.group o inside c rest).kept = o :: (inside.kept ++ c :: rest.kept) := by
  have ho := kind_of_isBracket (isBracket_of_group h).1
  have hc := kind_of_isBracket (isBracket_of_group h).2
  simp [Pieces.kept, Pieces.tokens, ho, hc]

theorem step_within (head : Head) (args : List Token) {brackets brackets' : List Token} {t : Token}
    (hb : brackets ≠ []) (ht : bracketsAfter brackets t = .ok brackets') :
    State.step ⟨ns, bs, .arguments head args brackets⟩ t = .ok ⟨ns, bs, .arguments head
      ((if t.kind = .newline then [] else [t]) ++ args)
      (if t.kind = .newline then brackets else brackets')⟩ := by
  have hempty : brackets.isEmpty = false := by simpa using hb
  by_cases hn : t.kind = .newline
  · simp [State.step, State.argue, hempty, hn]
  · simp only [State.step, State.argue, hempty, Bool.false_and, hn, ht, if_false]
    rfl

private theorem run_nested {p : Pieces} (hp : p.Nested) (head : Head) (args : List Token)
    (b : Token) (brackets ts : List Token) :
    run ⟨ns, bs, .arguments head args (b :: brackets)⟩ (p.tokens ++ ts) =
      run ⟨ns, bs, .arguments head (p.kept.reverse ++ args) (b :: brackets)⟩ ts := by
  induction hp generalizing args b brackets ts with
  | nil => rfl
  | @token t rest ht _ ih =>
    have hstep := step_within ns bs head args (by simp) (bracketsAfter_plain ht (b :: brackets))
    rw [Pieces.tokens, List.cons_append, run_cons_ok hstep, kept_token, ite_self, ih]
    by_cases hn : t.kind = .newline <;> simp [hn]
  | @group o inside c rest hg _ _ ihi ihr =>
    have ho := kind_of_isBracket (isBracket_of_group hg).1
    have hc := kind_of_isBracket (isBracket_of_group hg).2
    have hopen := step_within ns bs head args (by simp)
      (bracketsAfter_opening hg (b :: brackets))
    have hclose := step_within ns bs head (inside.kept.reverse ++ o :: args)
      (by simp) (bracketsAfter_closing hg (b :: brackets))
    simp only [ho, hc, reduceCtorEq, if_false, List.cons_append, List.nil_append] at hopen hclose
    simp only [Pieces.tokens, List.cons_append, List.append_assoc]
    rw [run_cons_ok hopen, ihi, run_cons_ok hclose, ihr, kept_group hg]
    simp

theorem step_argument {head : Head} {args : List Token} {t : Token} (hs : ¬ IsSeparator t)
    (hb : ¬ IsBracket t) : State.step ⟨ns, bs, .arguments head args []⟩ t =
      .ok ⟨ns, bs, .arguments head (t :: args) []⟩ := by
  have hline : ¬ t.kind = .newline := fun h => hs (.inl h)
  have hsemi : ¬ t.isSymbol ';' := fun h => hs (.inr h)
  have hclose : ¬ t.isSymbol '}' := fun h => hb ⟨'}', by simp, h⟩
  have hopen : ¬ t.isSymbol '{' := fun h => hb ⟨'{', by simp, h⟩
  simp only [State.step, State.argue, hline, hsemi, hclose, hopen, bracketsAfter_plain hb]
  rfl

theorem step_opening {head : Head} {args : List Token} {o c : Token} (hg : IsEnclosed o c) :
    State.step ⟨ns, bs, .arguments head args []⟩ o =
      .ok ⟨ns, bs, .arguments head (o :: args) [o]⟩ := by
  have hkind := kind_of_isBracket (isBracket_of_group (.inl hg)).1
  have hother (d : Char) (h1 : '(' ≠ d) (h2 : '[' ≠ d) : o.isSymbol d = false := by
    rcases hg with h | h
    · exact isSymbol_eq_false h.1 h1
    · exact isSymbol_eq_false h.1 h2
  have hsemi := hother ';' (by decide) (by decide)
  have hclose := hother '}' (by decide) (by decide)
  have hopen := hother '{' (by decide) (by decide)
  simp only [State.step, State.argue, hkind, hsemi, hclose, hopen,
    bracketsAfter_opening (.inl hg)]
  rfl

private theorem run_arguments {p : Pieces} (hp : p.Arguments) (head : Head) (args ts : List Token) :
    run ⟨ns, bs, .arguments head args []⟩ (p.tokens ++ ts) =
      run ⟨ns, bs, .arguments head (p.kept.reverse ++ args) []⟩ ts := by
  induction hp generalizing args ts with
  | nil => rfl
  | @token t rest hs hb _ ih =>
    have hline : ¬ t.kind = .newline := fun h => hs (.inl h)
    rw [Pieces.tokens, List.cons_append, run_cons_ok (step_argument ns bs hs hb), ih, kept_token]
    simp [hline]
  | @group o inside c rest hg hi _ ih =>
    have hc := kind_of_isBracket (isBracket_of_group (.inl hg)).2
    have hclose := step_within ns bs head (inside.kept.reverse ++ o :: args)
      (by simp) (bracketsAfter_closing (.inl hg) [])
    simp only [hc, reduceCtorEq, if_false, List.cons_append, List.nil_append] at hclose
    simp only [Pieces.tokens, List.cons_append, List.append_assoc]
    rw [run_cons_ok (step_opening ns bs hg), run_nested ns bs hi, run_cons_ok hclose, ih,
      kept_group (.inl hg)]
    simp

/-! ## Items -/

theorem run_ended {head : Head} {last : Token} {args ts : List Token} (he : Ended ts) :
    run ⟨ns, bs, .arguments head (last :: args) []⟩ ts =
      run ⟨.statement head.name ⟨head.start, last.stop⟩ (last :: args).reverse :: ns, bs, .none⟩
        ts := by
  apply run_congr
  · rfl
  · intro t ht
    have hend : (decide (t.kind = .newline) || t.isSymbol ';' || t.isSymbol '}') = true := by
      rcases he t ht with (h | h) | h <;> simp [h]
    simp only [State.step, State.argue, List.isEmpty_nil, Bool.true_and, hend, if_true,
      State.endStatement]

private theorem step_enter {head : Head} {args : List Token} {o : Token} (ho : o.isSymbol '{') :
    State.step ⟨ns, bs, .arguments head args []⟩ o =
      .ok ⟨[], ⟨head, args.reverse, o.start, ns⟩ :: bs, .none⟩ := by
  have hline : o.kind ≠ .newline := kind_ne_of_isSymbol ho (by decide)
  have hsemi : o.isSymbol ';' = false := isSymbol_eq_false ho (by decide)
  have hclose : o.isSymbol '}' = false := isSymbol_eq_false ho (by decide)
  simp [State.step, State.argue, State.enter, hline, hsemi, hclose, ho]

private theorem run_broken {head : Head} {breaks : List Token}
    (hb : ∀ t ∈ breaks, t.kind = .newline) {o : Token} (ho : o.isSymbol '{') (ts : List Token) :
    run ⟨ns, bs, .broken head⟩ (breaks ++ o :: ts) =
      run ⟨[], ⟨head, [], o.start, ns⟩ :: bs, .none⟩ ts := by
  induction breaks with
  | nil =>
    have hline : o.kind ≠ .newline := kind_ne_of_isSymbol ho (by decide)
    have hstep : State.step ⟨ns, bs, .broken head⟩ o =
        .ok ⟨[], ⟨head, [], o.start, ns⟩ :: bs, .none⟩ := by
      simp [State.step, State.enter, hline, ho]
    exact run_cons_ok hstep ts
  | cons t breaks ih =>
    have hstep : State.step ⟨ns, bs, .broken head⟩ t = .ok ⟨ns, bs, .broken head⟩ := by
      simp [State.step, hb t (by simp)]
    rw [List.cons_append, run_cons_ok hstep]
    exact ih fun u hu => hb u (by simp [hu])

/-- An opening brace on the line of the header, or on a later line where there is no header. -/
theorem run_enter {head : Head} {args breaks : List Token} (hb : ∀ t ∈ breaks, t.kind = .newline)
    (hor : args = [] ∨ breaks = []) {o : Token} (ho : o.isSymbol '{') (ts : List Token) :
    run ⟨ns, bs, .arguments head args []⟩ (breaks ++ o :: ts) =
      run ⟨[], ⟨head, args.reverse, o.start, ns⟩ :: bs, .none⟩ ts := by
  cases breaks with
  | nil => exact run_cons_ok (step_enter ns bs ho) ts
  | cons t breaks =>
    obtain rfl : args = [] := by simpa using hor
    have hstep : State.step ⟨ns, bs, .arguments head [] []⟩ t = .ok ⟨ns, bs, .broken head⟩ := by
      simp [State.step, State.argue, hb t (by simp)]
    rw [List.cons_append, run_cons_ok hstep]
    exact run_broken ns bs (fun u hu => hb u (by simp [hu])) ho ts

theorem step_leave {b : Open} {c : Token} (hc : c.isSymbol '}') :
    State.step ⟨ns, b :: bs, .none⟩ c = .ok ⟨.block b.head.name ⟨b.head.start, c.stop⟩ b.header
      ⟨b.opening, c.start⟩ ns.reverse :: b.before, bs, .none⟩ := by
  have hline : c.kind ≠ .newline := kind_ne_of_isSymbol hc (by decide)
  have hsemi : c.isSymbol ';' = false := isSymbol_eq_false hc (by decide)
  simp [State.step, State.between, State.leave, hline, hsemi, hc]

theorem step_separator {t : Token} (ht : IsSeparator t) :
    State.step ⟨ns, bs, .none⟩ t = .ok ⟨ns, bs, .none⟩ := by
  rcases ht with h | h <;> simp [State.step, State.between, h]

end

private theorem getLast?_tokens {p : Pieces} (hp : p.Arguments) :
    p.tokens.getLast? = p.kept.getLast? := by
  induction hp with
  | nil => rfl
  | @token t rest hs _ _ ih =>
    have hline : ¬ t.kind = .newline := fun h => hs (.inl h)
    rw [kept_token, Pieces.tokens, if_neg hline, List.singleton_append, List.getLast?_cons,
      List.getLast?_cons, ih]
  | @group o inside c rest hg _ _ ih =>
    rw [kept_group (.inl hg), Pieces.tokens, ← List.cons_append]
    simp only [List.getLast?_append, List.getLast?_cons, ih, Option.some_or]

theorem tokens_ne_nil {p : Pieces} (hp : p ≠ .nil) : p.tokens ≠ [] := by
  cases p <;> simp_all [Pieces.tokens]

theorem kept_reverse {p : Pieces} (hp : p.Arguments) (hne : p ≠ .nil) :
    ∃ last args, p.kept.reverse = last :: args ∧ p.tokens.getLast? = some last := by
  have hsome : p.kept.getLast?.isSome := by
    rw [← getLast?_tokens hp]
    simpa using tokens_ne_nil hne
  obtain ⟨last, hlast⟩ := Option.isSome_iff_exists.mp hsome
  have hhead : p.kept.reverse.head? = some last := by rw [List.head?_reverse, hlast]
  obtain ⟨args, hargs⟩ := List.head?_eq_some_iff.mp hhead
  exact ⟨last, args, hargs, (getLast?_tokens hp).trans hlast⟩

/-- Running over a body adds its nodes to the scope. -/
theorem run_body {b : Body} {after : List Token} (hb : b.Valid after) (ns : List Node)
    (bs : List Open) :
    run ⟨ns, bs, .none⟩ (b.tokens ++ after) = run ⟨b.nodes.reverse ++ ns, bs, .none⟩ after := by
  induction hb generalizing ns bs with
  | nil => rfl
  | separator ht _ ih =>
    rw [Body.tokens, List.cons_append, run_cons_ok (step_separator ns bs ht), ih, Body.nodes]
  | @statement after n args rest hn hne hargs hend _ ih =>
    obtain ⟨last, more, hrev, hlast⟩ := kept_reverse hargs hne
    have hkept : args.kept = (last :: more).reverse := by rw [← hrev, List.reverse_reverse]
    simp only [Body.tokens, List.append_assoc]
    rw [run_name ns bs hn, run_arguments ns bs hargs, List.append_nil, hrev,
      run_ended ns bs hend, ih, Body.nodes]
    simp [hlast, hkept, headOf]
  | @block after n header breaks o inside c rest hn hh hb hor hbr _ _ ihi ihr =>
    have hor' : header.kept.reverse ++ [] = [] ∨ breaks = [] := by
      rcases hor with rfl | h
      · exact .inl rfl
      · exact .inr h
    simp only [Body.tokens, List.append_assoc, List.cons_append]
    rw [run_name ns bs hn, run_arguments ns bs hh, run_enter ns bs hb hor' hbr.1, ihi,
      run_cons_ok (step_leave _ bs hbr.2), ihr, Body.nodes]
    simp [headOf]

end Graft.Tree
