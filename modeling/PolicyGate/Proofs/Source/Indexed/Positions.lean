import PolicyGate.Proofs.Source.Indexed.Agreement
import PolicyGate.Proofs.Source.Recognition

/-!
# The parser stays within its tokens

Reader by reader the machine agrees with the parser. So it ends on each list that ends with an end of the
document, however the list goes on, no look is out of range, and no turn of a loop asks for another without
passing a token.
-/

namespace PolicyGate.Source.Indexed

theorem sees_takeComments (c : Cursor) (kind : TokenKind) : c.takeComments.2.sees kind = c.sees kind := by
  obtain ⟨ahead, hoisted⟩ := c
  cases ahead <;> rfl

section
variable {ts : List Token} (closed : EndsDocument ts)
include closed

/-! ## Terms and predicates -/

theorem agrees_literal (expected : Expectation) : Agrees ts (literal expected) (Parser.literal expected) := by
  intro s h
  refine .look (peek_run closed h) (.cursor ?_)
  cases kind : Parser.literal? (s.cursor ts).peek.kind with
  | none => exact agrees_unexpected closed expected s h
  | some value =>
    have more : (s.cursor ts).peek.kind ≠ .endOfDocument := fun ends => by
      rw [ends] at kind
      cases kind
    exact .pass closed h more fun s' h' => .pure h' value

theorem agrees_variableName (expected : Expectation) :
    Agrees ts (variableName expected) (Parser.variableName expected) := by
  intro s h
  refine .look (peek_run closed h) (.cursor ?_)
  cases kind : (s.cursor ts).peek.kind with
  | var name => exact .pass closed h (by simp [kind]) fun s' h' => .pure h' name
  | _ => exact agrees_unexpected closed expected s h

theorem agrees_stringContent (expected : Expectation) :
    Agrees ts (stringContent expected) (Parser.stringContent expected) := by
  intro s h
  refine .look (peek_run closed h) (.cursor ?_)
  cases kind : (s.cursor ts).peek.kind with
  | string content => exact .pass closed h (by simp [kind]) fun s' h' => .pure h' content
  | _ => exact agrees_unexpected closed expected s h

theorem agrees_term : Agrees ts term Parser.term := by
  intro s h
  refine .look (peek_run closed h) (.cursor ?_)
  cases kind : (s.cursor ts).peek.kind with
  | var name => exact .pass closed h (by simp [kind]) fun s' h' => .pure h' _
  | _ => exact (agrees_literal closed .term s h).bind fun _ _ h' => .pure h' _

theorem agrees_terms : Agrees ts terms Parser.terms := by
  intro s h
  refine .look (sees_run closed h _) (.cursor (.ite (fun _ => .pure h _) fun _ => ?_))
  exact agrees_separated closed (by decide) (agrees_term closed) s h

theorem agrees_predicate : Agrees ts predicate Parser.predicate := by
  intro s h
  refine .look (peek_run closed h) (.cursor ?_)
  cases kind : (s.cursor ts).peek.kind with
  | identifier name =>
    refine .pass closed h (by simp [kind]) fun s h => ?_
    refine (agrees_expect closed (by decide) s h).bind fun _ s h => ?_
    refine (agrees_terms closed s h).bind fun _ s h => ?_
    exact (agrees_expect closed (by decide) s h).bind fun _ s h => .pure h _
  | _ => exact agrees_unexpected closed .predicateName s h

/-! ## Constraints -/

theorem agreesAt_stringTest {s : State} (h : s.InRange ts) (more : (s.cursor ts).peek.kind ≠ .endOfDocument)
    (name : String) : AgreesAt ts s (stringTest name) (Parser.stringTest name) := by
  unfold stringTest Parser.stringTest
  cases StringTest.ofName? name with
  | none => exact agrees_unexpected closed .constraint s h
  | some function =>
    refine .pass closed h more fun s h => ?_
    refine (agrees_expect closed (by decide) s h).bind fun _ s h => ?_
    refine (agrees_variableName closed .var s h).bind fun _ s h => ?_
    refine (agrees_expect closed (by decide) s h).bind fun _ s h => ?_
    refine (agrees_stringContent closed .string s h).bind fun _ s h => ?_
    exact (agrees_expect closed (by decide) s h).bind fun _ s h => .pure h _

theorem agrees_membershipWord : Agrees ts membershipWord Parser.membershipWord := by
  intro s h
  refine .passIf closed h (by simp) (fun s h => ?_) ?_
  · exact (agrees_expectWord closed "in" s h).bind fun _ s h => .pure h _
  · -- the second look ahead is at the place of the first
    refine .look (sees_run closed h _) (.ite (fun seen => ?_) fun _ => ?_)
    · exact .pass closed h (by simp [Cursor.sees_eq_true.mp seen]) fun s h => .pure h _
    · exact agrees_unexpected closed .comparison s h

theorem agrees_set : Agrees ts set Parser.set := by
  intro s h
  refine (agrees_expect closed (by decide) s h).bind fun _ s h => ?_
  refine (agrees_literal closed .literal s h).bind fun _ s h => ?_
  refine (agrees_others closed (by decide) (agrees_literal closed .literal) s h).bind fun _ s h => ?_
  exact (agrees_expect closed (by decide) s h).bind fun _ s h => .pure h _

theorem agrees_relation (subject : String) : Agrees ts (relation subject) (Parser.relation subject) := by
  intro s h
  refine .look (peek_run closed h) (.cursor ?_)
  cases kind : Parser.comparison? (s.cursor ts).peek.kind with
  | some op =>
    have more : (s.cursor ts).peek.kind ≠ .endOfDocument := fun ends => by
      rw [ends] at kind
      cases kind
    refine .pass closed h more fun s h => ?_
    exact (agrees_literal closed .literal s h).bind fun _ s h => .pure h _
  | none =>
    refine (agrees_membershipWord closed s h).bind fun _ s h => ?_
    exact (agrees_set closed s h).bind fun _ s h => .pure h _

theorem agrees_constraint : Agrees ts constraint Parser.constraint := by
  intro s h
  refine .look (peek_run closed h) (.cursor ?_)
  cases kind : (s.cursor ts).peek.kind with
  | identifier name => exact agreesAt_stringTest closed h (by simp [kind]) name
  | _ =>
    refine (agrees_variableName closed .constraint s h).bind fun subject s h => ?_
    exact agrees_relation closed subject s h

theorem agrees_constraints : Agrees ts constraints Parser.constraints := by
  intro s h
  refine .passIf closed h (by decide) (fun s h => ?_) (.pure h _)
  exact agrees_separated closed (by decide) (agrees_constraint closed) s h

/-! ## Rules and caveats -/

theorem agrees_rule : Agrees ts rule Parser.rule := by
  intro s h
  refine (agrees_expect closed (by decide) s h).bind fun _ s h => ?_
  refine (agrees_predicate closed s h).bind fun _ s h => ?_
  refine (agrees_expect closed (by decide) s h).bind fun _ s h => ?_
  refine (agrees_separated closed (by decide) (agrees_predicate closed) s h).bind fun _ s h => ?_
  exact (agrees_constraints closed s h).bind fun _ s h => .pure h _

theorem agrees_caveatList : Agrees ts caveatList Parser.caveatList := by
  intro s h
  refine (agrees_delimiter closed (by decide) .caveat s h).bind fun _ s h => ?_
  refine (agrees_separated closed (by decide) (agrees_rule closed) s h).bind fun _ s h => ?_
  exact (agrees_expect closed (by decide) s h).bind fun _ s h => .pure h _

theorem agrees_caveatSeparator (isFirst : Bool) :
    Agrees ts (caveatSeparator isFirst) (Parser.caveatSeparator isFirst) := by
  intro s h
  cases isFirst with
  | true => exact .cursor (.pure h [])
  | false =>
    refine .passIf closed h (by decide) (fun s h => ?_) (.pure h _)
    refine (agrees_takeHoisted s h).bind fun _ s h => ?_
    exact (agrees_takeComments closed s h).bind fun _ s h => .pure h _

end

/-! ## Blocks -/

section
variable {α : Type} {ts : List Token} {body : Bool → List String → Parser α} {item : Bool → Parser α}
  {progresses : ∀ b, (item b).Progresses}

def blockStep (body : Bool → List String → Parser α) (items : List α) : Parser (List α ⊕ Block α) := do
  let comments ← Parser.takeComments
  let c ← Parser.cursor
  if c.sees .rightBrace then
    Parser.advance
    return .inr ⟨items, comments⟩
  else
    let x ← body items.isEmpty comments
    return .inl (items ++ [x])

theorem agrees_blockTurn (closed : EndsDocument ts) {m : Bool → List String → Reading α}
    (agrees : ∀ isFirst comments, Agrees ts (m isFirst comments) (body isFirst comments)) (items : List α) :
    Agrees ts (blockTurn m items) (blockStep body items) := by
  intro s h
  refine (agrees_takeComments closed s h).bind fun comments s h => ?_
  refine .passIf closed h (by decide) (fun s h => .pure h _) ?_
  exact (agrees items.isEmpty comments s h).bind fun _ s h => .pure h _

theorem gathers_blockStep (progresses : ∀ b, (item b).Progresses)
    (behind : ∀ isFirst, item isFirst = Parser.takeComments >>= body isFirst) :
    Gathers (blockStep body) (fun c => c.sees .rightBrace)
      (fun items c => (⟨items, c.takeComments.1⟩, c.takeComments.2.advance))
      (fun isFirst c => (item isFirst).run c) where
  at_last items c close := by
    rw [← sees_takeComments] at close
    show (if c.takeComments.2.sees .rightBrace then _ else _ : Parser (List α ⊕ Block α)).run
      c.takeComments.2 = _
    rw [if_pos close]
    rfl
  at_more items c more := by
    rw [← sees_takeComments] at more
    show (if c.takeComments.2.sees .rightBrace then _ else _ : Parser (List α ⊕ Block α)).run
      c.takeComments.2 = _
    rw [if_neg more, behind, Parser.run_bind_eq]
    rfl
  shortens isFirst c x d _ := progresses isFirst c x d

def withItems (items : List α) : Block α × Cursor → Block α × Cursor :=
  fun rest => (⟨items ++ rest.1.items, rest.1.trailingComments⟩, rest.2)

theorem ends_block (closed : EndsDocument ts) {m : Bool → List String → Reading α}
    (agrees : ∀ isFirst comments, Agrees ts (m isFirst comments) (body isFirst comments))
    (behind : ∀ isFirst, item isFirst = Parser.takeComments >>= body isFirst) (items : List α)
    {s : State} (h : s.InRange ts) :
    Ends ts s (loop (blockTurn m) items)
      (withItems items <$> Parser.blockFrom item progresses items.isEmpty (s.cursor ts)) := by
  refine (gathers_blockStep progresses behind).ends_loop (agrees_blockTurn closed agrees)
    (Parser.blockFrom item progresses) withItems ?_ ?_ items h
  · intro items isFirst c close
    rw [Parser.blockFrom_eq, if_pos close]
    simp [withItems]
  · intro items isFirst c more
    rw [Parser.blockFrom_eq, if_neg more]
    unfold withItems
    simp [map_bind]

theorem agrees_block (closed : EndsDocument ts) {m : Bool → List String → Reading α}
    (agrees : ∀ isFirst comments, Agrees ts (m isFirst comments) (body isFirst comments))
    (behind : ∀ isFirst, item isFirst = Parser.takeComments >>= body isFirst) :
    Agrees ts (loop (blockTurn m) []) (Parser.block item progresses) := by
  intro s h
  have ends : Ends ts s (loop (blockTurn m) []) (withItems [] <$> Parser.blockFrom item progresses true _) :=
    ends_block closed agrees behind [] h
  have none : withItems ([] : List α) = id := rfl
  rwa [none, id_map] at ends

theorem agrees_optionalBlock (closed : EndsDocument ts) {m : Bool → List String → Reading α}
    (agrees : ∀ isFirst comments, Agrees ts (m isFirst comments) (body isFirst comments))
    (behind : ∀ isFirst, item isFirst = Parser.takeComments >>= body isFirst) (word : String) :
    Agrees ts (optionalBlock word m) (Parser.optionalBlock word (Parser.block item progresses)) := by
  intro s h
  refine .passIf closed h (by simp) (fun s h => ?_) (.pure h _)
  refine (agrees_expect closed (by decide) s h).bind fun _ s h => ?_
  exact (agrees_block closed agrees behind s h).bind fun _ s h => .pure h _

end

def ruleBehindComments (comments : List String) : Parser Rule := do
  let rule ← Parser.rule
  let hoisted ← Parser.takeHoisted
  return { rule with comments := comments ++ hoisted }

def caveatBehindComments (isFirst : Bool) (comments : List String) : Parser Caveat := do
  let around ← Parser.caveatSeparator isFirst
  let queries ← Parser.caveatList
  let hoisted ← Parser.takeHoisted
  return { comments := comments ++ around ++ hoisted, queries }

section
variable {ts : List Token} (closed : EndsDocument ts)
include closed

theorem agrees_ruleBehind (isFirst : Bool) (comments : List String) :
    Agrees ts (ruleBehind isFirst comments) (ruleBehindComments comments) := by
  intro s h
  refine (agrees_rule closed s h).bind fun _ s h => ?_
  exact (agrees_takeHoisted s h).bind fun _ s h => .pure h _

theorem agrees_caveatBehind (isFirst : Bool) (comments : List String) :
    Agrees ts (caveatBehind isFirst comments) (caveatBehindComments isFirst comments) := by
  intro s h
  refine (agrees_caveatSeparator closed isFirst s h).bind fun _ s h => ?_
  refine (agrees_caveatList closed s h).bind fun _ s h => ?_
  exact (agrees_takeHoisted s h).bind fun _ s h => .pure h _

/-! ## Policies and documents -/

theorem agrees_policy (comments : List String) :
    Agrees ts (policy comments) (Parser.expectWord "policy" >>= Parser.policyBody comments) := by
  intro s h
  refine (agrees_expectWord closed "policy" s h).bind fun offset s h => ?_
  refine (agrees_stringContent closed .policyName s h).bind fun name s h => ?_
  refine (agrees_expect closed (by decide) s h).bind fun _ s h => ?_
  refine (agrees_optionalBlock closed (agrees_ruleBehind closed) (fun _ => rfl) "rules" s h).bind
    fun rules s h => ?_
  refine (agrees_optionalBlock closed (agrees_caveatBehind closed) (fun _ => rfl) "caveats" s h).bind
    fun caveats s h => ?_
  refine (agrees_delimiter closed (by decide) _ s h).bind fun _ s h => ?_
  exact (agrees_takeHoisted s h).bind fun _ s h => .pure h _

end

def documentStep (policies : List Policy) : Parser (List Policy ⊕ Document) := do
  let comments ← Parser.takeComments
  let c ← Parser.cursor
  if c.sees .endOfDocument then
    return .inr ⟨policies, comments⟩
  else
    let p ← Parser.expectWord "policy" >>= Parser.policyBody comments
    return .inl (policies ++ [p])

theorem gathers_documentStep :
    Gathers documentStep (fun c => c.sees .endOfDocument)
      (fun policies c => (⟨policies, c.takeComments.1⟩, c.takeComments.2))
      (fun _ c => Parser.policy.run c) where
  at_last policies c ends := by
    rw [← sees_takeComments] at ends
    show (if c.takeComments.2.sees .endOfDocument then _ else _ : Parser (List Policy ⊕ Document)).run
      c.takeComments.2 = _
    rw [if_pos ends]
    rfl
  at_more policies c more := by
    rw [← sees_takeComments] at more
    show (if c.takeComments.2.sees .endOfDocument then _ else _ : Parser (List Policy ⊕ Document)).run
      c.takeComments.2 = _
    rw [if_neg more, Parser.run_bind_eq]
    rfl
  shortens _ c p d _ := Parser.progresses_policy c p d

section
variable {ts : List Token} (closed : EndsDocument ts)
include closed

theorem agrees_documentTurn (policies : List Policy) :
    Agrees ts (documentTurn policies) (documentStep policies) := by
  intro s h
  refine (agrees_takeComments closed s h).bind fun comments s h => ?_
  refine .look (sees_run closed h _) (.cursor (.ite (fun _ => .pure h _) fun _ => ?_))
  exact (agrees_policy closed comments s h).bind fun _ s h => .pure h _

theorem inRange_start : State.start.InRange ts := by
  obtain ⟨front, last, rfl, -⟩ := closed
  have some_token : 0 < (front ++ [last]).length := by simp
  refine ⟨some_token, fun p hp => ?_⟩
  rw [List.mem_singleton.mp hp]
  exact some_token

def withPolicies (policies : List Policy) : Document → Document :=
  fun rest => ⟨policies ++ rest.policies, rest.trailingComments⟩

theorem exists_ends_document (policies : List Policy) {s : State} (h : s.InRange ts) :
    ∃ o, Ends ts s (loop documentTurn policies) o ∧
      Prod.fst <$> o = withPolicies policies <$> Parser.documentFrom (s.cursor ts) := by
  refine gathers_documentStep.exists_ends_loop (agrees_documentTurn closed) (fun _ => Parser.documentFrom)
    withPolicies ?_ ?_ policies h
  · intro policies _ c ends
    rw [Parser.documentFrom_eq, if_pos ends]
    simp [withPolicies]
  · intro policies _ c more
    rw [Parser.documentFrom_eq, if_neg more]
    unfold withPolicies
    simp [map_bind]

theorem document_run :
    ∃ s, document ts .start = .some ((Document.ofTokens ts).mapError Halt.refused, s) ∧ s.InRange ts := by
  obtain ⟨o, ends, same⟩ := exists_ends_document closed [] (inRange_start closed)
  have whole : Prod.fst <$> o = Document.ofTokens ts := same.trans (id_map _)
  rw [← whole]
  cases ends with
  | @ok d s run inRange onward => exact ⟨s, run, inRange⟩
  | @refused e s run inRange onward => exact ⟨s, run, inRange⟩

theorem advances_separatedTurn {α : Type} {m : Reading α} {p : Parser α} {separator : TokenKind}
    (hs : separator ≠ .endOfDocument) (item : Agrees ts m p) : Advances ts (separatedTurn separator m) :=
  (gathers_separatedStep hs).advances (agrees_separatedTurn closed hs item)

end

theorem endsDocument_of_tokenize {text : String} {ts : List Token} (h : tokenize text = .ok ts) :
    EndsDocument ts := by
  obtain ⟨ks, kinds, -⟩ := spells_of_tokenize h
  obtain ⟨front, back, rfl, -, hback⟩ := List.map_eq_append_iff.mp kinds
  obtain ⟨last, rfl, hlast⟩ := List.map_eq_singleton_iff.mp hback
  exact ⟨front, last, rfl, hlast⟩

/-- On each list of tokens that ends with an end of the document, those of a text among them, the machine
ends, as the parser does and with all positions those of tokens. The end of the document is never passed, and
each turn of each loop returns or passes a token. -/
theorem document_stays :
    (∀ text ts, tokenize text = .ok ts → EndsDocument ts) ∧
    ∀ ts, EndsDocument ts →
      (∃ s, document ts .start = .some ((Document.ofTokens ts).mapError Halt.refused, s) ∧
        ∀ p ∈ s.trail, p < ts.length) ∧
      (∀ s, s.InRange ts → ∃ t s', next ts s = .some (.ok t, s') ∧ s'.InRange ts ∧
        (t.kind = .endOfDocument → ts[s'.position]? = some t)) ∧
      Advances ts documentTurn ∧ Advances ts (blockTurn ruleBehind) ∧ Advances ts (blockTurn caveatBehind) ∧
      Advances ts (separatedTurn .or rule) ∧ Advances ts (separatedTurn .comma term) ∧
      Advances ts (separatedTurn .comma predicate) ∧ Advances ts (separatedTurn .comma constraint) ∧
      Advances ts (separatedTurn .comma (literal .literal)) := by
  refine ⟨fun _ _ => endsDocument_of_tokenize, fun ts closed => ⟨?_, ?_, ?_, ?_, ?_, ?_, ?_, ?_, ?_, ?_⟩⟩
  · obtain ⟨s, run, inRange⟩ := document_run closed
    exact ⟨s, run, inRange.trail⟩
  · exact fun s inRange => exists_next_run closed inRange
  · exact gathers_documentStep.advances (agrees_documentTurn closed)
  · exact (gathers_blockStep (fun _ => Parser.progresses_commentedRule) fun _ => rfl).advances
      (agrees_blockTurn closed (agrees_ruleBehind closed))
  · exact (gathers_blockStep Parser.progresses_commentedCaveat fun _ => rfl).advances
      (agrees_blockTurn closed (agrees_caveatBehind closed))
  · exact advances_separatedTurn closed (by decide) (agrees_rule closed)
  · exact advances_separatedTurn closed (by decide) (agrees_term closed)
  · exact advances_separatedTurn closed (by decide) (agrees_predicate closed)
  · exact advances_separatedTurn closed (by decide) (agrees_constraint closed)
  · exact advances_separatedTurn closed (by decide) (agrees_literal closed .literal)

theorem document_stays_truncated :
    ∃ ts s, tokenize "policy // x" = .ok ts ∧
      document ts .start = .some (.error (.refused ⟨11, .unexpectedToken .policyName .endOfDocument⟩), s) ∧
      ∀ p ∈ s.trail, p < ts.length := by
  have tokens : tokenize "policy // x" =
      .ok [⟨.identifier "policy", 0⟩, ⟨.comment "// x", 7⟩, ⟨.endOfDocument, 11⟩] := by decide +kernel
  have refused : Document.ofTokens [⟨.identifier "policy", 0⟩, ⟨.comment "// x", 7⟩, ⟨.endOfDocument, 11⟩] =
      .error ⟨11, .unexpectedToken .policyName .endOfDocument⟩ := by decide +kernel
  obtain ⟨s, run, inRange⟩ := (document_stays.2 _ (document_stays.1 _ _ tokens)).1
  rw [refused] at run
  exact ⟨_, s, tokens, run, inRange⟩

end PolicyGate.Source.Indexed
