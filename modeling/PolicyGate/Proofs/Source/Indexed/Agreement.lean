import PolicyGate.Proofs.Source.Indexed.Lookahead
import PolicyGate.Proofs.Source.Loops

/-!
# Runs that end as the parser does

`Agrees` says of a run and a parser that from each state in range the run ends with what the parser gives at
the place the state stands for. Runs in a row agree with parsers in a row, and a loop agrees where its turns
do and a turn that another follows leaves less to read (`exists_ends_loop`).
-/

namespace PolicyGate.Source.Indexed

section
variable {α β γ : Type} {ts : List Token} {s : State}

/-! ## Ends of runs -/

/-- The run of `m` from the state `s` ends with what the parser gives, and has stayed in range. -/
inductive Ends (ts : List Token) (s : State) (m : Reading α) : Except SyntaxError (α × Cursor) → Prop
  | ok {x s'} (run : m ts s = .some (.ok x, s')) (inRange : s'.InRange ts)
      (onward : s.position ≤ s'.position) : Ends ts s m (.ok (x, s'.cursor ts))
  | refused {e s'} (run : m ts s = .some (.error (.refused e), s')) (inRange : s'.InRange ts)
      (onward : s.position ≤ s'.position) : Ends ts s m (.error e)

namespace Ends

variable {m : Reading α}

theorem of_ok {x : α} {c : Cursor} (h : Ends ts s m (.ok (x, c))) :
    ∃ s', m ts s = .some (.ok x, s') ∧ s'.InRange ts ∧ s.position ≤ s'.position ∧ s'.cursor ts = c := by
  generalize ho : Except.ok (x, c) = o at h
  cases h with
  | ok run inRange onward =>
    cases ho
    exact ⟨_, run, inRange, onward, rfl⟩
  | refused => cases ho

theorem of_error {e : SyntaxError} (h : Ends ts s m (.error e)) :
    ∃ s', m ts s = .some (.error (.refused e), s') ∧ s'.InRange ts ∧ s.position ≤ s'.position := by
  cases h with
  | refused run inRange onward => exact ⟨_, run, inRange, onward⟩

/-- A run that goes on as one from a state further on ends as that one. -/
theorem go_on {m' : Reading α} {s' : State} {o : Except SyntaxError (α × Cursor)}
    (h : Ends ts s' m' o) (same : m ts s = m' ts s') (onward : s.position ≤ s'.position) :
    Ends ts s m o := by
  cases h with
  | ok run inRange further => exact .ok (same.trans run) inRange (Nat.le_trans onward further)
  | refused run inRange further => exact .refused (same.trans run) inRange (Nat.le_trans onward further)

theorem bind {f : α → Reading β} {o : Except SyntaxError (α × Cursor)}
    {k : α × Cursor → Except SyntaxError (β × Cursor)} (first : Ends ts s m o)
    (rest : ∀ x s', s'.InRange ts → Ends ts s' (f x) (k (x, s'.cursor ts))) :
    Ends ts s (m >>= f) (o >>= k) := by
  cases first with
  | @ok x s' run inRange onward => exact (rest x s' inRange).go_on (bind_run_ok run f) onward
  | @refused e s' run inRange onward => exact .refused (bind_run_error run f) inRange onward

end Ends

def AgreesAt (ts : List Token) (s : State) (m : Reading α) (p : Parser α) : Prop :=
  Ends ts s m (p.run (s.cursor ts))

def Agrees (ts : List Token) (m : Reading α) (p : Parser α) : Prop :=
  ∀ s, s.InRange ts → AgreesAt ts s m p

namespace AgreesAt

variable {m m' : Reading α} {p p' : Parser α}

theorem pure (h : s.InRange ts) (x : α) : AgreesAt ts s (Pure.pure x) (Pure.pure x) :=
  .ok rfl h (Nat.le_refl _)

theorem bind {f : α → Reading β} {g : α → Parser β} (first : AgreesAt ts s m p)
    (rest : ∀ x s', s'.InRange ts → AgreesAt ts s' (f x) (g x)) : AgreesAt ts s (m >>= f) (p >>= g) := by
  unfold AgreesAt
  rw [Parser.run_bind_eq]
  exact Ends.bind first rest

theorem look {n : Reading β} {f : β → Reading α} {x : β} (run : n ts s = .some (.ok x, s))
    (rest : AgreesAt ts s (f x) p) : AgreesAt ts s (n >>= f) p :=
  Ends.go_on rest (bind_run_ok run f) (Nat.le_refl _)

theorem cursor {g : Cursor → Parser α} (rest : AgreesAt ts s m (g (s.cursor ts))) :
    AgreesAt ts s m (Parser.cursor >>= g) :=
  rest

theorem ite {c : Prop} [Decidable c] (yes : c → AgreesAt ts s m p) (no : ¬c → AgreesAt ts s m' p') :
    AgreesAt ts s (if c then m else m') (if c then p else p') := by
  split
  · next h => exact yes h
  · next h => exact no h

theorem pass (closed : EndsDocument ts) (h : s.InRange ts)
    (more : (s.cursor ts).peek.kind ≠ .endOfDocument) {f : Token → Reading α} {g : Unit → Parser α}
    (rest : ∀ s', s'.InRange ts → AgreesAt ts s' (f (s.cursor ts).peek) (g ())) :
    AgreesAt ts s (next >>= f) (Parser.advance >>= g) := by
  obtain ⟨texts, j, t, skips⟩ := exists_skips closed h.position
  have ahead := skips.cursor_eq
  rw [ahead] at more rest
  obtain ⟨s', run, inRange, position, hoisted⟩ := skips.next_run closed h more
  have advanced : (s.cursor ts).advance = s'.cursor ts := by
    rw [ahead, State.cursor, position, hoisted]
    rfl
  have onward : s.position ≤ s'.position := by
    rw [position]
    exact Nat.le_succ_of_le skips.le
  unfold AgreesAt
  rw [Parser.run_bind_eq]
  show Ends ts s (next >>= f) ((g ()).run (s.cursor ts).advance)
  rw [advanced]
  exact Ends.go_on (rest s' inRange) (bind_run_ok run f) onward

end AgreesAt

theorem peek_run (closed : EndsDocument ts) (h : s.InRange ts) :
    peek ts s = .some (.ok (s.cursor ts).peek, s) := by
  obtain ⟨texts, j, t, skips⟩ := exists_skips closed h.position
  rw [skips.cursor_eq, skips.peek_run]
  rfl

theorem sees_run (closed : EndsDocument ts) (h : s.InRange ts) (kind : TokenKind) :
    sees kind ts s = .some (.ok ((s.cursor ts).sees kind), s) := by
  rw [sees, bind_run_ok (peek_run closed h)]
  rfl

theorem agrees_unexpected (closed : EndsDocument ts) (expected : Expectation) :
    Agrees ts (unexpected expected : Reading α) (Parser.fail expected) := by
  intro s h
  refine .refused ?_ h (Nat.le_refl _)
  rw [unexpected, bind_run_ok (peek_run closed h)]
  rfl

theorem AgreesAt.passIf (closed : EndsDocument ts) (h : s.InRange ts) {kind : TokenKind}
    (hk : kind ≠ .endOfDocument) {f : Token → Reading α} {g : Cursor → Unit → Parser α} {m : Reading α}
    {p : Cursor → Parser α}
    (yes : ∀ s', s'.InRange ts → AgreesAt ts s' (f (s.cursor ts).peek) (g (s.cursor ts) ()))
    (no : AgreesAt ts s m (p (s.cursor ts))) :
    AgreesAt ts s (sees kind >>= fun seen => if seen = true then next >>= f else m)
      (Parser.cursor >>= fun c => if c.sees kind = true then Parser.advance >>= g c else p c) := by
  refine .look (sees_run closed h kind) (.cursor (.ite (fun seen => .pass closed h ?_ yes) fun _ => no))
  rw [Cursor.sees_eq_true.mp seen]
  exact hk

theorem agrees_expect (closed : EndsDocument ts) {kind : TokenKind} (hk : kind ≠ .endOfDocument) :
    Agrees ts (expect kind) (Parser.expect kind) := by
  intro s h
  exact .passIf closed h hk (fun s' h' => .pure h' _) (agrees_unexpected closed _ s h)

theorem agrees_expectWord (closed : EndsDocument ts) (word : String) :
    Agrees ts (expectWord word) (Parser.expectWord word) := by
  intro s h
  exact .passIf closed h TokenKind.noConfusion (fun s' h' => .pure h' _) (agrees_unexpected closed _ s h)

theorem agrees_delimiter (closed : EndsDocument ts) {kind : TokenKind} (hk : kind ≠ .endOfDocument)
    (expected : Expectation) : Agrees ts (delimiter kind expected) (Parser.delimiter kind expected) := by
  intro s h
  have passes : AgreesAt ts s
      (sees kind >>= fun seen => if seen = true then next >>= fun _ => Pure.pure () else unexpected expected)
      (Parser.cursor >>= fun c =>
        if c.sees kind = true then Parser.advance >>= Pure.pure else Parser.fail expected) :=
    .passIf closed h hk (fun s' h' => .pure h' ()) (agrees_unexpected closed expected s h)
  exact passes

theorem agrees_takeComments (closed : EndsDocument ts) : Agrees ts takeComments Parser.takeComments := by
  intro s h
  obtain ⟨texts, j, t, skips⟩ := exists_skips closed h.position
  obtain ⟨s', run, inRange, rfl, hoisted⟩ := skips.takeTurn_run h []
  obtain ⟨at_j, significant⟩ := skips.at_end
  have here : Skips ts s'.position [] s'.position t := .here at_j significant
  have taken : (s.cursor ts).takeComments = (texts, s'.cursor ts) := by
    rw [skips.cursor_eq, here.cursor_eq, hoisted]
    rfl
  show Ends ts s takeComments (.ok (s.cursor ts).takeComments)
  rw [taken]
  exact .ok run inRange skips.le

theorem agrees_takeHoisted : Agrees ts takeHoisted Parser.takeHoisted := by
  intro s h
  have inRange : State.InRange ts { s with hoisted := [] } := ⟨h.position, h.trail⟩
  have run : takeHoisted ts s = .some (.ok s.hoisted, { s with hoisted := [] }) :=
    (bind_run_ok (state_run ts s) _).trans (bind_run_ok rfl _)
  exact Ends.ok run inRange (Nat.le_refl s.position)

/-! ## Loops -/

/-- A step of a loop that gathers items: where the loop is done the step is the last one, elsewhere it reads one
item more, and behind the item there is less to read. -/
structure Gathers (step : List α → Parser (List α ⊕ γ)) (done : Cursor → Prop)
    (last : List α → Cursor → γ × Cursor) (more : Bool → Cursor → Except SyntaxError (α × Cursor)) : Prop where
  at_last : ∀ items c, done c → (step items).run c = .ok (.inr (last items c).1, (last items c).2)
  at_more : ∀ items c, ¬done c →
    (step items).run c = more items.isEmpty c >>= fun r => .ok (.inl (items ++ [r.1]), r.2)
  shortens : ∀ isFirst c x d, ¬done c → more isFirst c = .ok (x, d) → d.ahead.length < c.ahead.length

/-- A turn of a loop ends without a look behind the list, and passes a token where another turn follows. -/
def Advances (ts : List Token) (turn : β → Reading (β ⊕ γ)) : Prop :=
  ∀ b s, s.InRange ts → ∃ r s', turn b ts s = .some (r, s') ∧ s'.InRange ts ∧
    (∀ i, r ≠ .error (.outOfRange i)) ∧ ∀ b', r = .ok (.inl b') → s.position < s'.position

namespace Gathers

variable {δ ρ : Type} {turn : List α → Reading (List α ⊕ γ)} {step : List α → Parser (List α ⊕ γ)}
  {done : Cursor → Prop} {last : List α → Cursor → γ × Cursor}
  {more : Bool → Cursor → Except SyntaxError (α × Cursor)}

/-- A loop of agreeing turns ends, and gives what the reader gives that puts each item in front of the rest. -/
theorem exists_ends_loop (gathers : Gathers step done last more)
    (agrees : ∀ items, Agrees ts (turn items) (step items)) (rest : Bool → Cursor → Except SyntaxError ρ)
    (whole : List α → ρ → δ) {out : γ × Cursor → δ}
    (rest_last : ∀ items isFirst c, done c → whole items <$> rest isFirst c = .ok (out (last items c)))
    (rest_more : ∀ items isFirst c, ¬done c → whole items <$> rest isFirst c =
      more isFirst c >>= fun r => whole (items ++ [r.1]) <$> rest false r.2)
    (items : List α) (h : s.InRange ts) :
    ∃ o, Ends ts s (loop turn items) o ∧ out <$> o = whole items <$> rest items.isEmpty (s.cursor ts) := by
  induction hn : (s.cursor ts).ahead.length using Nat.strong_induction_on generalizing s items with
  | _ n ih =>
  have first := agrees items s h
  unfold AgreesAt at first
  by_cases at_end : done (s.cursor ts)
  · rw [gathers.at_last _ _ at_end] at first
    obtain ⟨s', run, inRange, onward, same⟩ := first.of_ok
    refine ⟨.ok (_, s'.cursor ts), .ok (loop_return run) inRange onward, ?_⟩
    rw [rest_last _ _ _ at_end, same]
    rfl
  · have shorter := gathers.shortens items.isEmpty (s.cursor ts)
    rw [gathers.at_more _ _ at_end] at first
    rw [rest_more _ _ _ at_end]
    generalize more items.isEmpty (s.cursor ts) = read at first shorter ⊢
    cases read with
    | error e =>
      obtain ⟨s', run, inRange, onward⟩ := first.of_error
      exact ⟨.error e, .refused (loop_halt run) inRange onward, rfl⟩
    | ok r =>
      obtain ⟨x, d⟩ := r
      obtain ⟨s', run, inRange, onward, rfl⟩ := first.of_ok
      obtain ⟨o, ends, same⟩ := ih _ (hn ▸ shorter x _ at_end rfl) (items ++ [x]) inRange rfl
      have behind : (items ++ [x]).isEmpty = false := by simp
      rw [behind] at same
      exact ⟨o, ends.go_on (loop_again run) onward, same⟩

theorem ends_loop (gathers : Gathers step done last more)
    (agrees : ∀ items, Agrees ts (turn items) (step items)) (rest : Bool → Cursor → Except SyntaxError ρ)
    (whole : List α → ρ → γ × Cursor)
    (rest_last : ∀ items isFirst c, done c → whole items <$> rest isFirst c = .ok (last items c))
    (rest_more : ∀ items isFirst c, ¬done c → whole items <$> rest isFirst c =
      more isFirst c >>= fun r => whole (items ++ [r.1]) <$> rest false r.2)
    (items : List α) (h : s.InRange ts) :
    Ends ts s (loop turn items) (whole items <$> rest items.isEmpty (s.cursor ts)) := by
  have read : ∃ o, Ends ts s (loop turn items) o ∧
      id <$> o = whole items <$> rest items.isEmpty (s.cursor ts) :=
    exists_ends_loop gathers agrees rest whole rest_last rest_more items h
  obtain ⟨o, ends, same⟩ := read
  rwa [← same, id_map]

theorem length_lt (gathers : Gathers step done last more) {items items' : List α} {c d : Cursor}
    (h : (step items).run c = .ok (.inl items', d)) : d.ahead.length < c.ahead.length := by
  by_cases at_end : done c
  · rw [gathers.at_last _ _ at_end] at h
    cases h
  · rw [gathers.at_more _ _ at_end] at h
    cases read : more items.isEmpty c with
    | error e =>
      rw [read] at h
      cases h
    | ok r =>
      rw [read] at h
      cases h
      exact gathers.shortens _ _ _ _ at_end read

theorem advances (gathers : Gathers step done last more)
    (agrees : ∀ items, Agrees ts (turn items) (step items)) : Advances ts turn := by
  intro items s h
  have first := agrees items s h
  unfold AgreesAt at first
  cases result : (step items).run (s.cursor ts) with
  | error e =>
    rw [result] at first
    obtain ⟨s', run, inRange, -⟩ := first.of_error
    exact ⟨_, s', run, inRange, nofun, nofun⟩
  | ok r =>
    obtain ⟨x, d⟩ := r
    rw [result] at first
    obtain ⟨s', run, inRange, onward, rfl⟩ := first.of_ok
    refine ⟨_, s', run, inRange, nofun, fun items' hx => ?_⟩
    obtain rfl : x = .inl items' := Except.ok.inj hx
    have less := gathers.length_lt result
    refine Nat.lt_of_le_of_ne onward fun same => ?_
    rw [State.cursor, State.cursor, same] at less
    exact Nat.lt_irrefl _ less

end Gathers

/-! ## Items behind separators -/

section
variable {m : Reading α} {p : Parser α} {separator : TokenKind}

def separatedStep (separator : TokenKind) (item : Parser α) (items : List α) :
    Parser (List α ⊕ List α) := do
  let c ← Parser.cursor
  if c.sees separator then
    Parser.advance
    let x ← item
    return .inl (items ++ [x])
  else return .inr items

theorem agrees_separatedTurn (closed : EndsDocument ts) (hs : separator ≠ .endOfDocument)
    (item : Agrees ts m p) (items : List α) :
    Agrees ts (separatedTurn separator m items) (separatedStep separator p items) := by
  intro s h
  refine .passIf closed h hs (fun s h => ?_) (.pure h _)
  exact (item s h).bind fun _ s h => .pure h _

theorem gathers_separatedStep (hs : separator ≠ .endOfDocument) :
    Gathers (separatedStep separator p) (fun c => ¬c.sees separator) (fun items c => (items, c))
      (fun _ c => p.run c.advance) where
  at_last items c unseen := by
    show (if c.sees separator then _ else _ : Parser (List α ⊕ List α)).run c = _
    rw [if_neg unseen]
    rfl
  at_more items c more := by
    show (if c.sees separator then _ else _ : Parser (List α ⊕ List α)).run c = _
    rw [if_pos (not_not.mp more)]
    exact Parser.run_bind_eq p _ c.advance
  shortens _ c x d more := Parser.length_lt_of_separator ⟨not_not.mp more, hs⟩

def withOthers (items : List α) : List α × Cursor → List α × Cursor :=
  fun others => (items ++ others.1, others.2)

theorem ends_separated (closed : EndsDocument ts) (hs : separator ≠ .endOfDocument) (item : Agrees ts m p)
    (items : List α) (h : s.InRange ts) :
    Ends ts s (loop (separatedTurn separator m) items)
      (withOthers items <$> Parser.othersFrom separator p (s.cursor ts)) := by
  refine (gathers_separatedStep hs).ends_loop (agrees_separatedTurn closed hs item)
    (fun _ => Parser.othersFrom separator p) withOthers ?_ ?_ items h
  · intro items _ c unseen
    rw [Parser.othersFrom_eq, if_neg fun both => unseen both.1]
    simp [withOthers]
  · intro items _ c more
    rw [Parser.othersFrom_eq, if_pos ⟨not_not.mp more, hs⟩]
    unfold withOthers
    simp [map_bind]

theorem agrees_others (closed : EndsDocument ts) (hs : separator ≠ .endOfDocument) (item : Agrees ts m p) :
    Agrees ts (loop (separatedTurn separator m) []) (Parser.others separator p) := by
  intro s h
  have ends := ends_separated closed hs item [] h
  have none : withOthers ([] : List α) = id := rfl
  rwa [none, id_map] at ends

theorem agrees_separated (closed : EndsDocument ts) (hs : separator ≠ .endOfDocument) (item : Agrees ts m p) :
    Agrees ts (separated separator m) (Parser.separated separator p) := by
  intro s h
  refine (item s h).bind fun x s' h' => ?_
  have ends := ends_separated closed hs item [x] h'
  have same : (Parser.others separator p >>= fun rest => Pure.pure (x :: rest)).run (s'.cursor ts) =
      withOthers [x] <$> Parser.othersFrom separator p (s'.cursor ts) := by
    rw [Parser.run_bind_eq]
    exact (map_eq_pure_bind _ _).symm
  unfold AgreesAt
  rwa [same]

end

end

end PolicyGate.Source.Indexed
