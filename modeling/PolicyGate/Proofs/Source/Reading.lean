import PolicyGate.Proofs.Source.TreeTokens
import PolicyGate.Source.Parser

/-!
# What the readers of rules read

A reader of a rule or of one of its parts reads exactly the tokens in which its result is written
(`Reads`): whenever it succeeds it has passed those tokens, and where they stand ahead, and nothing
behind goes on with them, it succeeds. Main statements: `reads_rule` and `reads_caveatList`.
-/

namespace PolicyGate.Source

/-- From `c` to `d` the reader passes significant tokens of these kinds. -/
def Cursor.Passes : Cursor → List TokenKind → Cursor → Prop
  | c, [], d => c = d
  | c, k :: ks, d => c.peek.kind = k ∧ c.advance.Passes ks d

theorem Cursor.passes_append {c d : Cursor} {ks ls : List TokenKind} :
    c.Passes (ks ++ ls) d ↔ ∃ e, c.Passes ks e ∧ e.Passes ls d := by
  induction ks generalizing c with
  | nil => simp [Cursor.Passes]
  | cons k ks ih => simp only [List.cons_append, Cursor.Passes, ih, and_assoc, exists_and_left]

theorem Cursor.sees_eq_true {c : Cursor} {k : TokenKind} : c.sees k = true ↔ c.peek.kind = k := by
  simp [Cursor.sees]

theorem Cursor.seesWord_eq_true {c : Cursor} {word : String} :
    c.seesWord word = true ↔ c.peek.kind = .identifier word := by
  simp [Cursor.seesWord]

namespace Parser

/-! ## Success of the basic readers -/

section
variable {α β : Type} {c d : Cursor}

theorem bind_ok {p : Parser α} {f : α → Parser β} {y : β} :
    (p >>= f).run c = .ok (y, d) ↔ ∃ x e, p.run c = .ok (x, e) ∧ (f x).run e = .ok (y, d) := by
  rw [run_bind]
  cases p.run c with
  | error e => simp
  | ok r => obtain ⟨x, e⟩ := r; simp

theorem pure_ok {x y : α} : (Pure.pure x : Parser α).run c = .ok (y, d) ↔ x = y ∧ c = d := by
  simp [run_pure]

theorem cursor_ok {e : Cursor} : cursor.run c = .ok (e, d) ↔ c = e ∧ c = d := by
  simp [cursor]

theorem advance_ok {u : Unit} : advance.run c = .ok (u, d) ↔ c.advance = d := by
  simp [advance]

theorem fail_ok {expected : Expectation} {x : α} : (fail expected).run c = .ok (x, d) ↔ False := by
  simp [fail]

theorem takeComments_ok {cs : List String} :
    takeComments.run c = .ok (cs, d) ↔ c.takeComments = (cs, d) := by
  simp [takeComments]

theorem takeHoisted_ok {cs : List String} :
    takeHoisted.run c = .ok (cs, d) ↔ c.takeHoisted = (cs, d) := by
  simp [takeHoisted]

theorem cursor_bind_ok {f : Cursor → Parser α} {x : α} :
    (cursor >>= f).run c = .ok (x, d) ↔ (f c).run c = .ok (x, d) := by
  rw [bind_ok]
  constructor
  · rintro ⟨_, _, he, h⟩
    obtain ⟨rfl, rfl⟩ := cursor_ok.mp he
    exact h
  · intro h
    exact ⟨c, c, cursor_ok.mpr ⟨rfl, rfl⟩, h⟩

theorem advance_pure_ok {x y : α} :
    (do advance; Pure.pure x : Parser α).run c = .ok (y, d) ↔ x = y ∧ c.advance = d := by
  simp only [bind_ok, advance_ok, pure_ok]
  constructor
  · rintro ⟨_, _, rfl, rfl, rfl⟩
    exact ⟨rfl, rfl⟩
  · rintro ⟨rfl, rfl⟩
    exact ⟨(), _, rfl, rfl, rfl⟩

/-- A reader of one token: it takes the token where there is something to read, and fails elsewhere. -/
theorem accept_ok {b : Bool} {expected : Expectation} {p : Parser α} {x : α} :
    (if b = true then p else fail expected : Parser α).run c = .ok (x, d) ↔
      b = true ∧ p.run c = .ok (x, d) := by
  cases b with
  | true => simp
  | false => simpa using fail_ok

theorem expect_ok {kind : TokenKind} {n : Nat} :
    (expect kind).run c = .ok (n, d) ↔ c.peek.kind = kind ∧ c.peek.offset = n ∧ c.advance = d := by
  rw [expect, cursor_bind_ok, accept_ok, Cursor.sees_eq_true, advance_pure_ok]

theorem expectWord_ok {word : String} {n : Nat} :
    (expectWord word).run c = .ok (n, d) ↔
      c.peek.kind = .identifier word ∧ c.peek.offset = n ∧ c.advance = d := by
  rw [expectWord, cursor_bind_ok, accept_ok, Cursor.seesWord_eq_true, advance_pure_ok]

theorem delimiter_ok {kind : TokenKind} {expected : Expectation} {u : Unit} :
    (delimiter kind expected).run c = .ok (u, d) ↔ c.peek.kind = kind ∧ c.advance = d := by
  rw [delimiter, cursor_bind_ok, accept_ok, Cursor.sees_eq_true, advance_ok]

theorem literal?_eq_some {k : TokenKind} {v : Literal} : literal? k = some v ↔ k = v.token := by
  constructor
  · intro h
    cases k <;> cases h <;> rfl
  · rintro rfl
    cases v <;> rfl

theorem literal_ok {expected : Expectation} {v : Literal} :
    (literal expected).run c = .ok (v, d) ↔ c.peek.kind = v.token ∧ c.advance = d := by
  rw [literal, cursor_bind_ok, ← literal?_eq_some]
  cases literal? c.peek.kind with
  | none => simpa using fail_ok
  | some w => simpa using advance_pure_ok

theorem variableName_ok {expected : Expectation} {name : String} :
    (variableName expected).run c = .ok (name, d) ↔ c.peek.kind = .var name ∧ c.advance = d := by
  rw [variableName, cursor_bind_ok]
  split
  · next found hk => simpa [hk] using advance_pure_ok
  · next hne => exact ⟨fun h => (fail_ok.mp h).elim, fun h => (hne _ h.1).elim⟩

theorem stringContent_ok {expected : Expectation} {content : String} :
    (stringContent expected).run c = .ok (content, d) ↔
      c.peek.kind = .string content ∧ c.advance = d := by
  rw [stringContent, cursor_bind_ok]
  split
  · next found hk => simpa [hk] using advance_pure_ok
  · next hne => exact ⟨fun h => (fail_ok.mp h).elim, fun h => (hne _ h.1).elim⟩

theorem term_ok {t : Term} : term.run c = .ok (t, d) ↔ c.peek.kind = t.token ∧ c.advance = d := by
  simp only [term, cursor_bind_ok]
  constructor
  · intro h
    split at h
    · next hk =>
      simp only [bind_ok, advance_ok, pure_ok] at h
      obtain ⟨_, _, rfl, rfl, rfl⟩ := h
      exact ⟨hk, rfl⟩
    · simp only [bind_ok, literal_ok, pure_ok] at h
      obtain ⟨_, _, ⟨hk, rfl⟩, rfl, rfl⟩ := h
      exact ⟨hk, rfl⟩
  · rintro ⟨hk, rfl⟩
    rw [hk]
    cases t with
    | var name => rfl
    | literal v =>
      have : (literal .term).run c = .ok (v, c.advance) := literal_ok.mpr ⟨hk, rfl⟩
      cases v <;> simp only [Term.token, Literal.token, bind_ok, pure_ok] <;>
        exact ⟨_, _, this, rfl, rfl⟩

end

/-! ## Reading exactly some tokens -/

/-- The reader reads the tokens in which its result is written. It gives results that are `ok`, and
wants the token behind to be one that `stops` it. -/
structure Reads {α : Type} (p : Parser α) (tokens : α → List TokenKind) (ok : α → Prop)
    (stops : TokenKind → Prop) : Prop where
  sound : ∀ {c x d}, p.run c = .ok (x, d) → ok x ∧ c.Passes (tokens x) d
  complete : ∀ {c x d}, ok x → c.Passes (tokens x) d → stops d.peek.kind → p.run c = .ok (x, d)

def Anything (_ : TokenKind) : Prop := True

def EndsRule (k : TokenKind) : Prop := k ≠ .comma ∧ k ≠ .atSign

theorem reads_term : Reads term (fun t => [t.token]) (fun _ => True) Anything where
  sound h := ⟨trivial, term_ok.mp h⟩
  complete _ h _ := term_ok.mpr h

theorem reads_literal (expected : Expectation) :
    Reads (literal expected) (fun v => [v.token]) (fun _ => True) Anything where
  sound h := ⟨trivial, literal_ok.mp h⟩
  complete _ h _ := literal_ok.mpr h

section
variable {α : Type} {item : Parser α} {tokens : α → List TokenKind} {ok : α → Prop}
  {stops : TokenKind → Prop} {separator : TokenKind}

theorem peek_of_passes_others {c d : Cursor} {xs : List α}
    (h : c.Passes (xs.flatMap fun x => separator :: tokens x) d) (hs : stops separator)
    (hd : stops d.peek.kind) : stops c.peek.kind := by
  cases xs with
  | nil => cases h; exact hd
  | cons x xs =>
    rw [List.flatMap_cons, List.cons_append] at h
    rw [h.1]
    exact hs

theorem Reads.others (h : Reads item tokens ok stops) (separator : TokenKind)
    (hsep : separator ≠ .endOfDocument) (hs : stops separator) :
    Reads (others separator item) (fun xs => xs.flatMap fun x => separator :: tokens x)
      (fun xs => ∀ x ∈ xs, ok x) (fun k => stops k ∧ k ≠ separator) where
  sound {c xs d} hr := by
    change othersFrom separator item c = .ok (xs, d) at hr
    fun_induction othersFrom separator item c generalizing xs d with
    | case1 => cases hr
    | case2 => cases hr
    | case3 c hc x e hi ys f ho ih =>
      cases hr
      obtain ⟨hys, hf⟩ := ih ho
      obtain ⟨hx, he⟩ := h.sound hi
      refine ⟨List.forall_mem_cons.mpr ⟨hx, hys⟩, ?_⟩
      rw [List.flatMap_cons, List.cons_append]
      exact ⟨Cursor.sees_eq_true.mp hc.1, Cursor.passes_append.mpr ⟨e, he, hf⟩⟩
    | case4 c hc =>
      cases hr
      exact ⟨fun x hx => by (cases hx), rfl⟩
  complete {c xs d} hok hp hd := by
    change othersFrom separator item c = .ok (xs, d)
    induction xs generalizing c with
    | nil =>
      cases hp
      rw [othersFrom, if_neg]
      rintro ⟨hc, _⟩
      exact hd.2 (Cursor.sees_eq_true.mp hc)
    | cons x xs ih =>
      rw [List.flatMap_cons, List.cons_append] at hp
      obtain ⟨hc, hp⟩ := hp
      obtain ⟨e, hx, hxs⟩ := Cursor.passes_append.mp hp
      obtain ⟨okx, okxs⟩ := List.forall_mem_cons.mp hok
      have item_run := h.complete okx hx (peek_of_passes_others hxs hs hd.1)
      have others_run := ih okxs hxs
      rw [othersFrom, if_pos ⟨Cursor.sees_eq_true.mpr hc, hsep⟩]
      split
      · next hi => rw [item_run] at hi; cases hi
      · next hi =>
        rw [item_run] at hi
        cases hi
        rw [others_run]

theorem Reads.separated (h : Reads item tokens ok stops) (separator : TokenKind)
    (hsep : separator ≠ .endOfDocument) (hs : stops separator) :
    Reads (separated separator item) (fun xs => joined separator (xs.map tokens))
      (fun xs => xs ≠ [] ∧ ∀ x ∈ xs, ok x) (fun k => stops k ∧ k ≠ separator) where
  sound {c xs d} hr := by
    simp only [Parser.separated, bind_ok, pure_ok] at hr
    obtain ⟨x, e, hx, ys, _, hys, rfl, rfl⟩ := hr
    obtain ⟨okx, px⟩ := h.sound hx
    obtain ⟨okys, pys⟩ := (h.others separator hsep hs).sound hys
    refine ⟨⟨List.cons_ne_nil _ _, List.forall_mem_cons.mpr ⟨okx, okys⟩⟩, ?_⟩
    rw [List.map_cons, joined, List.flatMap_map]
    exact Cursor.passes_append.mpr ⟨e, px, pys⟩
  complete {c xs d} hok hp hd := by
    obtain ⟨hne, hok⟩ := hok
    obtain ⟨x, ys, rfl⟩ := List.exists_cons_of_ne_nil hne
    obtain ⟨okx, okys⟩ := List.forall_mem_cons.mp hok
    rw [List.map_cons, joined, List.flatMap_map] at hp
    obtain ⟨e, px, pys⟩ := Cursor.passes_append.mp hp
    have first := h.complete okx px (peek_of_passes_others pys hs hd.1)
    have rest := (h.others separator hsep hs).complete okys pys hd
    simp only [Parser.separated, bind_ok, pure_ok]
    exact ⟨x, e, first, ys, d, rest, rfl, rfl⟩

end

/-! ## Predicates -/

theorem reads_terms : Reads terms termTokens (fun _ => True) (fun k => k = .rightParen) where
  sound {c ts d} h := by
    refine ⟨trivial, ?_⟩
    simp only [terms, cursor_bind_ok] at h
    split at h
    · obtain ⟨rfl, rfl⟩ := pure_ok.mp h
      rfl
    · exact ((reads_term.separated .comma (by decide) trivial).sound h).2
  complete {c ts d} _ hp hd := by
    simp only [terms, cursor_bind_ok]
    cases ts with
    | nil =>
      cases hp
      rw [if_pos (Cursor.sees_eq_true.mpr hd)]
      rfl
    | cons t ts =>
      have hk : c.peek.kind = t.token := hp.1
      -- no term begins with the parenthesis that ends an empty list
      have hne : ¬ c.sees .rightParen = true := by
        rw [Cursor.sees_eq_true, hk]
        cases t with
        | var name => exact TokenKind.noConfusion
        | literal v => cases v <;> exact TokenKind.noConfusion
      rw [if_neg hne]
      refine (reads_term.separated .comma (by decide) trivial).complete
        ⟨List.cons_ne_nil _ _, fun _ _ => trivial⟩ hp ⟨trivial, ?_⟩
      rw [hd]
      exact TokenKind.noConfusion

theorem reads_predicate : Reads predicate Predicate.tokens (fun _ => True) Anything where
  sound {c p d} h := by
    refine ⟨trivial, ?_⟩
    simp only [predicate, cursor_bind_ok] at h
    split at h
    · next name hk =>
      simp only [bind_ok, advance_ok, expect_ok, pure_ok] at h
      obtain ⟨_, _, rfl, _, _, ⟨hl, _, rfl⟩, ts, e, hts, _, _, ⟨hr, _, rfl⟩, rfl, rfl⟩ := h
      exact ⟨hk, hl, Cursor.passes_append.mpr ⟨e, (reads_terms.sound hts).2, hr, rfl⟩⟩
    · exact (fail_ok.mp h).elim
  complete {c p d} _ hp _ := by
    obtain ⟨hk, hl, hp⟩ := hp
    obtain ⟨e, hts, hr, rfl⟩ := Cursor.passes_append.mp hp
    have terms_run := reads_terms.complete trivial hts hr
    simp only [predicate, cursor_bind_ok]
    rw [hk]
    simp only [bind_ok, advance_ok, expect_ok, pure_ok]
    exact ⟨(), _, rfl, _, _, ⟨hl, rfl, rfl⟩, p.terms, e, terms_run, _, _, ⟨hr, rfl, rfl⟩, rfl, rfl⟩

/-! ## Constraints -/

theorem ofName?_text (f : StringTest) : StringTest.ofName? f.text = some f := by
  cases f <;> decide

theorem text_of_ofName? {name : String} {f : StringTest} (h : StringTest.ofName? name = some f) :
    name = f.text := by
  unfold StringTest.ofName? at h
  split at h
  · next hn => cases h; exact hn
  split at h
  · next hn => cases h; exact hn
  split at h
  · next hn => cases h; exact hn
  · cases h

theorem comparison?_eq_some {k : TokenKind} {op : Comparison} :
    comparison? k = some op ↔ k = op.token := by
  constructor
  · intro h
    cases k <;> cases h <;> rfl
  · rintro rfl
    cases op <;> rfl

section
variable {c d : Cursor}

theorem stringTest_ok {name : String} {x : Constraint} (hc : c.peek.kind = .identifier name) :
    (stringTest name).run c = .ok (x, d) ↔
      ∃ f subject value, x = .test f subject value ∧ c.Passes x.tokens d := by
  constructor
  · intro h
    unfold stringTest at h
    split at h
    · exact (fail_ok.mp h).elim
    · next f hf =>
      simp only [bind_ok, advance_ok, expect_ok, variableName_ok, stringContent_ok, pure_ok] at h
      obtain ⟨_, _, rfl, _, _, ⟨h1, _, rfl⟩, subject, _, ⟨h2, rfl⟩, _, _, ⟨h3, _, rfl⟩, value, _,
        ⟨h4, rfl⟩, _, _, ⟨h5, _, rfl⟩, rfl, rfl⟩ := h
      exact ⟨f, subject, value, rfl, text_of_ofName? hf ▸ hc, h1, h2, h3, h4, h5, rfl⟩
  · rintro ⟨f, subject, value, rfl, h0, h1, h2, h3, h4, h5, rfl⟩
    rw [hc] at h0
    cases h0
    unfold stringTest
    rw [ofName?_text]
    simp only [bind_ok, advance_ok, expect_ok, variableName_ok, stringContent_ok, pure_ok]
    exact ⟨(), _, rfl, _, _, ⟨h1, rfl, rfl⟩, subject, _, ⟨h2, rfl⟩, _, _, ⟨h3, rfl, rfl⟩, value, _,
      ⟨h4, rfl⟩, _, _, ⟨h5, rfl, rfl⟩, rfl, rfl⟩

theorem membershipWord_ok {negated : Bool} :
    membershipWord.run c = .ok (negated, d) ↔ c.Passes (membershipTokens negated) d := by
  simp only [membershipWord, cursor_bind_ok]
  constructor
  · intro h
    split at h
    · next hn =>
      simp only [bind_ok, advance_ok, expectWord_ok, pure_ok] at h
      obtain ⟨_, _, rfl, _, _, ⟨hi, _, rfl⟩, rfl, rfl⟩ := h
      exact ⟨Cursor.seesWord_eq_true.mp hn, hi, rfl⟩
    split at h
    · next hi =>
      simp only [bind_ok, advance_ok, pure_ok] at h
      obtain ⟨_, _, rfl, rfl, rfl⟩ := h
      exact ⟨Cursor.seesWord_eq_true.mp hi, rfl⟩
    · exact (fail_ok.mp h).elim
  · intro hp
    cases negated with
    | true =>
      obtain ⟨hn, hi, rfl⟩ := hp
      rw [if_pos (Cursor.seesWord_eq_true.mpr hn)]
      simp only [bind_ok, advance_ok, expectWord_ok, pure_ok]
      exact ⟨(), _, rfl, _, _, ⟨hi, rfl, rfl⟩, trivial, rfl⟩
    | false =>
      obtain ⟨hi, rfl⟩ := hp
      have hn : ¬ c.seesWord "not" = true := by
        rw [Cursor.seesWord_eq_true, hi]
        decide
      rw [if_neg hn, if_pos (Cursor.seesWord_eq_true.mpr hi)]
      rfl

theorem set_ok {first : Literal} {others : List Literal} :
    set.run c = .ok ((first, others), d) ↔ c.Passes (setTokens first others) d := by
  have reads := (reads_literal .literal).others .comma (by decide) trivial
  simp only [set, bind_ok, expect_ok, literal_ok, pure_ok]
  constructor
  · rintro ⟨_, _, ⟨h1, _, rfl⟩, x, _, ⟨h2, rfl⟩, xs, e, hxs, _, _, ⟨h3, _, rfl⟩, hx, rfl⟩
    cases hx
    exact ⟨h1, h2, Cursor.passes_append.mpr ⟨e, (reads.sound hxs).2, h3, rfl⟩⟩
  · rintro ⟨h1, h2, hp⟩
    obtain ⟨e, hxs, h3, rfl⟩ := Cursor.passes_append.mp hp
    have rest := reads.complete (fun _ _ => trivial) hxs ⟨trivial, by rw [h3]; decide⟩
    exact ⟨_, _, ⟨h1, rfl, rfl⟩, first, _, ⟨h2, rfl⟩, others, e, rest, _, _, ⟨h3, rfl, rfl⟩, rfl, rfl⟩

theorem relation_ok {subject : String} {x : Constraint} :
    (relation subject).run c = .ok (x, d) ↔
      (∃ op value, x = .compare subject op value ∧ c.Passes [op.token, value.token] d) ∨
        ∃ negated first others, x = .member subject negated first others ∧
          c.Passes (membershipTokens negated ++ setTokens first others) d := by
  simp only [relation, cursor_bind_ok]
  constructor
  · intro h
    split at h
    · next op hop =>
      simp only [bind_ok, advance_ok, literal_ok, pure_ok] at h
      obtain ⟨_, _, rfl, value, _, ⟨hv, rfl⟩, rfl, rfl⟩ := h
      exact .inl ⟨op, value, rfl, comparison?_eq_some.mp hop, hv, rfl⟩
    · simp only [bind_ok, pure_ok] at h
      obtain ⟨negated, e, hw, ⟨first, others⟩, _, hs, rfl, rfl⟩ := h
      exact .inr ⟨negated, first, others, rfl,
        Cursor.passes_append.mpr ⟨e, membershipWord_ok.mp hw, set_ok.mp hs⟩⟩
  · rintro (⟨op, value, rfl, hop, hv, rfl⟩ | ⟨negated, first, others, rfl, hp⟩)
    · rw [comparison?_eq_some.mpr hop]
      simp only [bind_ok, advance_ok, literal_ok, pure_ok]
      exact ⟨(), _, rfl, value, _, ⟨hv, rfl⟩, rfl, rfl⟩
    · obtain ⟨e, hw, hs⟩ := Cursor.passes_append.mp hp
      have hn : comparison? c.peek.kind = none := by
        cases negated
        · rw [hw.1]; rfl
        · rw [hw.1]; rfl
      rw [hn]
      simp only [bind_ok, pure_ok]
      exact ⟨negated, e, membershipWord_ok.mpr hw, (first, others), d, set_ok.mpr hs, rfl, rfl⟩

end

theorem reads_constraint : Reads constraint Constraint.tokens (fun _ => True) Anything where
  sound {c x d} h := by
    refine ⟨trivial, ?_⟩
    simp only [constraint, cursor_bind_ok] at h
    split at h
    · next name hk =>
      obtain ⟨f, subject, value, rfl, hp⟩ := (stringTest_ok hk).mp h
      exact hp
    · simp only [bind_ok, variableName_ok] at h
      obtain ⟨subject, _, ⟨hv, rfl⟩, h⟩ := h
      rcases relation_ok.mp h with ⟨op, value, rfl, hp⟩ | ⟨negated, first, others, rfl, hp⟩
      · exact ⟨hv, hp⟩
      · exact ⟨hv, hp⟩
  complete {c x d} _ hp _ := by
    simp only [constraint, cursor_bind_ok]
    cases x with
    | test f subject value =>
      rw [hp.1]
      exact (stringTest_ok hp.1).mpr ⟨f, subject, value, rfl, hp⟩
    | compare subject op value =>
      rw [hp.1]
      simp only [bind_ok, variableName_ok]
      exact ⟨subject, _, ⟨hp.1, rfl⟩, relation_ok.mpr (.inl ⟨op, value, rfl, hp.2⟩)⟩
    | member subject negated first others =>
      rw [hp.1]
      simp only [bind_ok, variableName_ok]
      exact ⟨subject, _, ⟨hp.1, rfl⟩, relation_ok.mpr (.inr ⟨negated, first, others, rfl, hp.2⟩)⟩

theorem reads_constraints : Reads constraints constraintTokens (fun _ => True) EndsRule where
  sound {c xs d} h := by
    refine ⟨trivial, ?_⟩
    simp only [constraints, cursor_bind_ok] at h
    split at h
    · next hat =>
      simp only [bind_ok, advance_ok] at h
      obtain ⟨_, _, rfl, h⟩ := h
      obtain ⟨⟨hne, _⟩, hp⟩ := (reads_constraint.separated .comma (by decide) trivial).sound h
      unfold constraintTokens
      rw [if_neg hne]
      exact ⟨Cursor.sees_eq_true.mp hat, hp⟩
    · obtain ⟨rfl, rfl⟩ := pure_ok.mp h
      rfl
  complete {c xs d} _ hp hd := by
    simp only [constraints, cursor_bind_ok]
    unfold constraintTokens at hp
    split at hp
    · next hx =>
      cases hp
      rw [if_neg fun hat => hd.2 (Cursor.sees_eq_true.mp hat), hx]
      rfl
    · next hx =>
      obtain ⟨hat, hp⟩ := hp
      rw [if_pos (Cursor.sees_eq_true.mpr hat)]
      simp only [bind_ok, advance_ok]
      exact ⟨(), _, rfl, (reads_constraint.separated .comma (by decide) trivial).complete
        ⟨hx, fun _ _ => trivial⟩ hp ⟨trivial, hd.1⟩⟩

/-! ## Rules and caveats -/

def Bare (r : Rule) : Prop := r.comments = [] ∧ r.WellFormed

theorem ne_comma_of_passes_constraints {c d : Cursor} {xs : List Constraint}
    (h : c.Passes (constraintTokens xs) d) (hd : EndsRule d.peek.kind) : c.peek.kind ≠ .comma := by
  unfold constraintTokens at h
  split at h
  · cases h; exact hd.1
  · rw [h.1]; exact TokenKind.noConfusion

theorem reads_rule : Reads rule Rule.tokens Bare EndsRule where
  sound {c r d} h := by
    have reads := reads_predicate.separated .comma (by decide) trivial
    simp only [rule, ruleBody, bind_ok, expect_ok, pure_ok] at h
    obtain ⟨_, _, ⟨hs, _, rfl⟩, head, _, hh, _, _, ⟨ha, _, rfl⟩, body, _, hb, cs, _, hcs, rfl, rfl⟩ := h
    obtain ⟨⟨hne, _⟩, pb⟩ := reads.sound hb
    refine ⟨⟨rfl, hne⟩, hs, Cursor.passes_append.mpr ⟨_, (reads_predicate.sound hh).2, ha, ?_⟩⟩
    exact Cursor.passes_append.mpr ⟨_, pb, (reads_constraints.sound hcs).2⟩
  complete {c r d} hok hp hd := by
    have reads := reads_predicate.separated .comma (by decide) trivial
    obtain ⟨hs, hp⟩ := hp
    obtain ⟨e, hh, ha, hp⟩ := Cursor.passes_append.mp hp
    obtain ⟨e', hb, hcs⟩ := Cursor.passes_append.mp hp
    have head_run := reads_predicate.complete trivial hh trivial
    have body_run := reads.complete ⟨hok.2, fun _ _ => trivial⟩ hb
      ⟨trivial, ne_comma_of_passes_constraints hcs hd⟩
    have constraints_run := reads_constraints.complete trivial hcs hd
    have hr : { comments := [], head := r.head, body := r.body, constraints := r.constraints } = r := by
      rw [← hok.1]
    simp only [rule, ruleBody, bind_ok, expect_ok, pure_ok]
    exact ⟨_, _, ⟨hs, rfl, rfl⟩, r.head, e, head_run, _, _, ⟨ha, rfl, rfl⟩, r.body, e', body_run,
      r.constraints, d, constraints_run, hr, rfl⟩

theorem reads_caveatList : Reads caveatList queryTokens QueriesWellFormed Anything where
  sound {c qs d} h := by
    have reads := reads_rule.separated .or (by decide) (by constructor <;> decide)
    simp only [caveatList, caveatQueries, bind_ok, delimiter_ok, expect_ok, pure_ok] at h
    obtain ⟨_, _, ⟨hl, rfl⟩, qs, _, hq, _, _, ⟨hr, _, rfl⟩, rfl, rfl⟩ := h
    obtain ⟨ok, pq⟩ := reads.sound hq
    exact ⟨ok, hl, Cursor.passes_append.mpr ⟨_, pq, hr, rfl⟩⟩
  complete {c qs d} hok hp _ := by
    have reads := reads_rule.separated .or (by decide) (by constructor <;> decide)
    obtain ⟨hl, hp⟩ := hp
    obtain ⟨e, hq, hr, rfl⟩ := Cursor.passes_append.mp hp
    have queries_run := reads.complete hok hq (by rw [hr]; exact ⟨by constructor <;> decide, by decide⟩)
    simp only [caveatList, caveatQueries, bind_ok, delimiter_ok, expect_ok, pure_ok]
    exact ⟨(), _, ⟨hl, rfl⟩, qs, e, queries_run, _, _, ⟨hr, rfl, rfl⟩, rfl, rfl⟩

end Parser
end PolicyGate.Source
