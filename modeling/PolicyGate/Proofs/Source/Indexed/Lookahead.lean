import PolicyGate.Proofs.Source.Indexed.Machine

/-!
# Looks ahead and moves

What each loop over comments does where a list ends with an end of the document: there is a significant token
ahead (`exists_skips`), a look ahead gives it and leaves the state as it is, and a move to it or behind it
stays in range.
-/

namespace PolicyGate.Source.Indexed

section
variable {α β γ : Type} {ts : List Token} {s : State} {i j : Nat} {t : Token} {texts : List String}

def EndsDocument (ts : List Token) : Prop :=
  ∃ front last, ts = front ++ [last] ∧ last.kind = .endOfDocument

theorem lt_length_of_not_end (closed : EndsDocument ts) (at_i : ts[i]? = some t)
    (h : t.kind ≠ .endOfDocument) : i + 1 < ts.length := by
  obtain ⟨front, last, rfl, hl⟩ := closed
  obtain ⟨hi, rfl⟩ := List.getElem?_eq_some_iff.mp at_i
  rw [List.length_append, List.length_singleton] at hi ⊢
  by_contra behind
  have same : i = front.length := by omega
  subst same
  rw [List.getElem_concat_length rfl] at h
  exact h hl

/-! ## Runs -/

theorem bind_run (m : Reading α) (f : α → Reading β) (ts : List Token) (s : State) :
    (m >>= f) ts s = (m ts s).bind (proceed f ts) :=
  rfl

theorem bind_run_ok {m : Reading α} {x : α} {s' : State} (run : m ts s = .some (.ok x, s'))
    (f : α → Reading β) : (m >>= f) ts s = f x ts s' := by
  rw [bind_run, run, Part.bind_some]
  rfl

theorem bind_run_error {m : Reading α} {h : Halt} {s' : State} (run : m ts s = .some (.error h, s'))
    (f : α → Reading β) : (m >>= f) ts s = .some (.error h, s') := by
  rw [bind_run, run, Part.bind_some]
  rfl

theorem state_run (ts : List Token) (s : State) : state ts s = .some (.ok s, s) :=
  rfl

theorem tokenAt_run (at_i : ts[i]? = some t) (s : State) : tokenAt i ts s = .some (.ok t, s) := by
  simp only [tokenAt, at_i]

theorem current_run (at_position : ts[s.position]? = some t) (f : Token → Reading α) :
    (state >>= fun s => tokenAt s.position >>= f) ts s = f t ts s := by
  rw [bind_run_ok (state_run ts s), bind_run_ok (tokenAt_run at_position s)]

section
variable {turn : β → Reading (β ⊕ γ)} {b b' : β} {s' : State}

theorem loop_again (run : turn b ts s = .some (.ok (.inl b'), s')) : loop turn b ts s = loop turn b' ts s' := by
  refine PFun.fix_fwd_eq ?_
  simp [loopStep, run]

theorem loop_return {r : γ} (run : turn b ts s = .some (.ok (.inr r), s')) :
    loop turn b ts s = .some (.ok r, s') := by
  refine Part.eq_some_iff.mpr (PFun.fix_stop ?_)
  simp [loopStep, run]

theorem loop_halt {h : Halt} (run : turn b ts s = .some (.error h, s')) :
    loop turn b ts s = .some (.error h, s') := by
  refine Part.eq_some_iff.mpr (PFun.fix_stop ?_)
  simp [loopStep, run]

end

/-! ## States in range -/

/-- The position is that of a token, and so were all before. -/
structure State.InRange (ts : List Token) (s : State) : Prop where
  position : s.position < ts.length
  trail : ∀ p ∈ s.trail, p < ts.length

def State.cursor (ts : List Token) (s : State) : Cursor :=
  ⟨lexemes [] (ts.drop s.position), s.hoisted⟩

theorem State.InRange.moved (h : s.InRange ts) (more : s.position + 1 < ts.length) :
    s.moved.InRange ts where
  position := more
  trail p hp := by
    rcases List.mem_append.mp hp with old | new
    · exact h.trail p old
    · rw [List.mem_singleton.mp new]
      exact more

theorem State.InRange.hoisting (h : s.InRange ts) (text : String) : (s.hoisting text).InRange ts :=
  ⟨h.position, h.trail⟩

/-! ## Comments ahead -/

/-- From index `i` on come comments with these texts, and behind them, at `j`, the token `t`. -/
inductive Skips (ts : List Token) : Nat → List String → Nat → Token → Prop
  | here {i : Nat} {t : Token} (at_i : ts[i]? = some t) (significant : t.kind.comment? = none) :
      Skips ts i [] i t
  | comment {i : Nat} {u : Token} {text : String} {texts : List String} {j : Nat} {t : Token}
      (at_i : ts[i]? = some u) (kind : u.kind.comment? = some text)
      (behind : Skips ts (i + 1) texts j t) : Skips ts i (text :: texts) j t

theorem comment?_eq_some {k : TokenKind} {text : String} : k.comment? = some text ↔ k = .comment text := by
  cases k <;> simp [TokenKind.comment?]

theorem isComment_of_comment? {k : TokenKind} (h : k.comment? = none) : k.isComment = false := by
  cases k <;> first | rfl | cases h

theorem exists_skips (closed : EndsDocument ts) (h : i < ts.length) :
    ∃ texts j t, Skips ts i texts j t := by
  induction hn : ts.length - i generalizing i with
  | zero => omega
  | succ n ih =>
    have at_i := List.getElem?_eq_getElem h
    cases kind : ts[i].kind.comment? with
    | none => exact ⟨[], i, _, .here at_i kind⟩
    | some text =>
      have more : i + 1 < ts.length := lt_length_of_not_end closed at_i fun ends => by
        rw [ends] at kind
        cases kind
      obtain ⟨texts, j, t, behind⟩ := ih more (by omega)
      exact ⟨text :: texts, j, t, .comment at_i kind behind⟩

theorem drop_of_getElem? (at_i : ts[i]? = some t) : ts.drop i = t :: ts.drop (i + 1) := by
  obtain ⟨hi, rfl⟩ := List.getElem?_eq_some_iff.mp at_i
  exact List.drop_eq_getElem_cons hi

namespace Skips

theorem at_end (h : Skips ts i texts j t) : ts[j]? = some t ∧ t.kind.comment? = none := by
  induction h with
  | here at_i significant => exact ⟨at_i, significant⟩
  | comment _ _ _ ih => exact ih

theorem le (h : Skips ts i texts j t) : i ≤ j := by
  induction h with
  | here => exact Nat.le_refl _
  | comment _ _ _ ih => exact Nat.le_of_succ_le ih

theorem lexemes_drop (h : Skips ts i texts j t) (pending : List String) :
    lexemes pending (ts.drop i) = ⟨pending ++ texts, t⟩ :: lexemes [] (ts.drop (j + 1)) := by
  induction h generalizing pending with
  | here at_i significant =>
    rw [drop_of_getElem? at_i, lexemes_token (isComment_of_comment? significant), List.append_nil]
  | comment at_i kind _ ih =>
    rw [drop_of_getElem? at_i, lexemes_comment (comment?_eq_some.mp kind), ih, List.append_assoc]
    rfl

theorem peekTurn_run (h : Skips ts i texts j t) (s : State) :
    loop peekTurn i ts s = .some (.ok t, s) := by
  induction h with
  | @here i t at_i significant =>
    refine loop_return ?_
    rw [peekTurn, bind_run_ok (tokenAt_run at_i s), significant]
    rfl
  | @comment i u text texts j t at_i kind _ ih =>
    have turn : peekTurn i ts s = .some (.ok (.inl (i + 1)), s) := by
      rw [peekTurn, bind_run_ok (tokenAt_run at_i s), kind]
      rfl
    rw [loop_again turn]
    exact ih

theorem lt_length (h : Skips ts i texts j t) : i < ts.length := by
  obtain ⟨hj, -⟩ := List.getElem?_eq_some_iff.mp h.at_end.1
  exact Nat.lt_of_le_of_lt h.le hj

theorem cursor_eq (h : Skips ts s.position texts j t) :
    s.cursor ts = ⟨⟨texts, t⟩ :: lexemes [] (ts.drop (j + 1)), s.hoisted⟩ := by
  rw [State.cursor, h.lexemes_drop, List.nil_append]

theorem peek_run (h : Skips ts s.position texts j t) : peek ts s = .some (.ok t, s) :=
  (bind_run_ok (state_run ts s) _).trans (h.peekTurn_run s)

theorem hoistTurn_run (h : Skips ts s.position texts j t) (inRange : s.InRange ts) :
    ∃ s', loop hoistTurn () ts s = .some (.ok (), s') ∧ s'.InRange ts ∧ s'.position = j ∧
      s'.hoisted = s.hoisted ++ texts := by
  generalize hi : s.position = i at h
  induction h generalizing s with
  | here at_i significant =>
    subst hi
    refine ⟨s, loop_return ?_, inRange, rfl, (List.append_nil _).symm⟩
    rw [hoistTurn, current_run at_i, significant]
    rfl
  | @comment i u text texts j t at_i kind behind ih =>
    subst hi
    have turn : hoistTurn () ts s = .some (.ok (.inl ()), (s.hoisting text).moved) := by
      rw [hoistTurn, current_run at_i, kind]
      exact (bind_run_ok rfl _).trans (bind_run_ok rfl _)
    obtain ⟨s', run, inRange', position, hoisted⟩ :=
      ih ((inRange.hoisting text).moved behind.lt_length) rfl
    refine ⟨s', (loop_again turn).trans run, inRange', position, ?_⟩
    rw [hoisted, List.append_cons]
    rfl

theorem takeTurn_run (h : Skips ts s.position texts j t) (inRange : s.InRange ts) (comments : List String) :
    ∃ s', loop takeTurn comments ts s = .some (.ok (comments ++ texts), s') ∧ s'.InRange ts ∧
      s'.position = j ∧ s'.hoisted = s.hoisted := by
  generalize hi : s.position = i at h
  induction h generalizing s comments with
  | here at_i significant =>
    subst hi
    rw [List.append_nil]
    refine ⟨s, loop_return ?_, inRange, rfl, rfl⟩
    rw [takeTurn, current_run at_i, significant]
    rfl
  | @comment i u text texts j t at_i kind behind ih =>
    subst hi
    have turn : takeTurn comments ts s = .some (.ok (.inl (comments ++ [text])), s.moved) := by
      rw [takeTurn, current_run at_i, kind]
      exact bind_run_ok rfl _
    obtain ⟨s', run, inRange', position, hoisted⟩ :=
      ih (inRange.moved behind.lt_length) (comments ++ [text]) rfl
    rw [List.append_assoc] at run
    exact ⟨s', (loop_again turn).trans run, inRange', position, hoisted⟩

theorem next_run (closed : EndsDocument ts) (h : Skips ts s.position texts j t) (inRange : s.InRange ts)
    (more : t.kind ≠ .endOfDocument) :
    ∃ s', next ts s = .some (.ok t, s') ∧ s'.InRange ts ∧ s'.position = j + 1 ∧
      s'.hoisted = s.hoisted ++ texts := by
  obtain ⟨s', run, inRange', rfl, hoisted⟩ := h.hoistTurn_run inRange
  obtain ⟨at_j, -⟩ := h.at_end
  refine ⟨s'.moved, ?_, inRange'.moved (lt_length_of_not_end closed at_j more), rfl, hoisted⟩
  rw [next, bind_run_ok run, current_run at_j, if_pos more]
  exact bind_run_ok rfl _

theorem next_run_end (h : Skips ts s.position texts j t) (inRange : s.InRange ts)
    (ends : t.kind = .endOfDocument) :
    ∃ s', next ts s = .some (.ok t, s') ∧ s'.InRange ts ∧ s'.position = j := by
  obtain ⟨s', run, inRange', rfl, -⟩ := h.hoistTurn_run inRange
  refine ⟨s', ?_, inRange', rfl⟩
  rw [next, bind_run_ok run, current_run h.at_end.1, if_neg fun more => more ends]
  rfl

end Skips

theorem exists_next_run (closed : EndsDocument ts) (h : s.InRange ts) :
    ∃ t s', next ts s = .some (.ok t, s') ∧ s'.InRange ts ∧
      (t.kind = .endOfDocument → ts[s'.position]? = some t) := by
  obtain ⟨texts, j, t, skips⟩ := exists_skips closed h.position
  by_cases ends : t.kind = .endOfDocument
  · obtain ⟨s', run, inRange, rfl⟩ := skips.next_run_end h ends
    exact ⟨t, s', run, inRange, fun _ => skips.at_end.1⟩
  · obtain ⟨s', run, inRange, -⟩ := skips.next_run closed h ends
    exact ⟨t, s', run, inRange, fun ends' => absurd ends' ends⟩

end

end PolicyGate.Source.Indexed
