import PolicyGate.Source.Lexer
import PolicyGate.Source.Tree
/-! # From tokens to the tree

The grammar sees only significant tokens; each carries the comments written in front of it. Comments
that stand at the beginning of a policy, rule or caveat are taken by it. Comments that a reader passes
over are hoisted, and the construct that is finished next takes them. -/

namespace PolicyGate.Source

/-- A significant token and the comments in front of it. -/
structure Lexeme where
  comments : List String
  token : Token
deriving DecidableEq, Repr

/-- Gathers the comments in front of each significant token. Comments behind the last one, of which a
tokenized document has none, are dropped. -/
def lexemes (pending : List String) : List Token → List Lexeme
  | [] => []
  | t :: ts =>
    match t.kind with
    | .comment text => lexemes (pending ++ [text]) ts
    | _ => ⟨pending, t⟩ :: lexemes [] ts

/-- A place between the lexemes, and the comments hoisted so far. -/
structure Cursor where
  ahead : List Lexeme
  hoisted : List String
deriving DecidableEq, Repr

namespace Cursor

/-- The next significant token. Behind the last lexeme it is the end of the document. -/
def peek (c : Cursor) : Token :=
  match c.ahead with
  | l :: _ => l.token
  | [] => ⟨.endOfDocument, 0⟩

def advance (c : Cursor) : Cursor :=
  match c.ahead with
  | l :: ls => ⟨ls, c.hoisted ++ l.comments⟩
  | [] => c

def takeComments (c : Cursor) : List String × Cursor :=
  match c.ahead with
  | l :: ls => (l.comments, ⟨⟨[], l.token⟩ :: ls, c.hoisted⟩)
  | [] => ([], c)

def takeHoisted (c : Cursor) : List String × Cursor :=
  (c.hoisted, ⟨c.ahead, []⟩)

def sees (c : Cursor) (kind : TokenKind) : Bool :=
  c.peek.kind == kind

def seesWord (c : Cursor) (word : String) : Bool :=
  c.peek.kind == .identifier word

def unexpected (c : Cursor) (expected : Expectation) : SyntaxError :=
  ⟨c.peek.offset, .unexpectedToken expected c.peek.kind⟩

theorem length_ahead_advance_le (c : Cursor) : c.advance.ahead.length ≤ c.ahead.length := by
  unfold advance
  split
  · next h => simp [h]
  · exact Nat.le_refl _

theorem length_ahead_takeComments (c : Cursor) :
    c.takeComments.2.ahead.length = c.ahead.length := by
  unfold takeComments
  split
  · next h => simp [h]
  · rfl

theorem length_ahead_advance_lt {c : Cursor} (h : c.peek.kind ≠ .endOfDocument) :
    c.advance.ahead.length < c.ahead.length := by
  unfold advance
  unfold peek at h
  split
  · next hc => simp [hc]
  · next hc => simp [hc] at h

end Cursor

/-- A reader of a part of the grammar: it gives a result and the place behind it, and never goes
back. -/
structure Parser (α : Type) where
  run : Cursor → Except SyntaxError (α × Cursor)
  never_back : ∀ {c x d}, run c = .ok (x, d) → d.ahead.length ≤ c.ahead.length

namespace Parser

def pure {α : Type} (x : α) : Parser α where
  run c := .ok (x, c)
  never_back h := by cases h; exact Nat.le_refl _

def bind {α β : Type} (p : Parser α) (f : α → Parser β) : Parser β where
  run c :=
    match p.run c with
    | .error e => .error e
    | .ok (x, d) => (f x).run d
  never_back {c y d} h := by
    cases hp : p.run c with
    | error e => rw [hp] at h; cases h
    | ok r =>
      rw [hp] at h
      obtain ⟨x, e⟩ := r
      exact Nat.le_trans ((f x).never_back h) (p.never_back hp)

instance : Monad Parser where
  pure := pure
  bind := bind

theorem run_pure {α : Type} (x : α) (c : Cursor) : (Pure.pure x : Parser α).run c = .ok (x, c) :=
  rfl

theorem run_bind {α β : Type} (p : Parser α) (f : α → Parser β) (c : Cursor) :
    (p >>= f).run c =
      match p.run c with
      | .error e => .error e
      | .ok (x, d) => (f x).run d :=
  rfl

def cursor : Parser Cursor where
  run c := .ok (c, c)
  never_back h := by cases h; exact Nat.le_refl _

def advance : Parser Unit where
  run c := .ok ((), c.advance)
  never_back {c _ _} h := by cases h; exact c.length_ahead_advance_le

def fail {α : Type} (expected : Expectation) : Parser α where
  run c := .error (c.unexpected expected)
  never_back h := by cases h

def takeComments : Parser (List String) where
  run c := .ok c.takeComments
  never_back {c _ _} h := by
    have h1 := c.length_ahead_takeComments
    rw [Except.ok.inj h] at h1
    exact Nat.le_of_eq h1

def takeHoisted : Parser (List String) where
  run c := .ok c.takeHoisted
  never_back h := by cases h; exact Nat.le_refl _

def expect (kind : TokenKind) : Parser Nat := do
  let c ← cursor
  if c.sees kind then
    advance
    return c.peek.offset
  else fail (.token kind)

def expectWord (word : String) : Parser Nat := do
  let c ← cursor
  if c.seesWord word then
    advance
    return c.peek.offset
  else fail (.keyword word)

def othersFrom {α : Type} (separator : TokenKind) (item : Parser α) (c : Cursor) :
    Except SyntaxError (List α × Cursor) :=
  if c.sees separator ∧ separator ≠ .endOfDocument then
    match hi : item.run c.advance with
    | .error e => .error e
    | .ok (x, d) =>
      match othersFrom separator item d with
      | .error e => .error e
      | .ok (xs, e) => .ok (x :: xs, e)
  else .ok ([], c)
termination_by c.ahead.length
decreasing_by
  next h =>
    have h1 := item.never_back hi
    have h2 : c.advance.ahead.length < c.ahead.length := by
      refine Cursor.length_ahead_advance_lt ?_
      have h3 : c.peek.kind = separator := by simpa [Cursor.sees] using h.1
      rw [h3]
      exact h.2
    omega

theorem othersFrom_never_back {α : Type} {separator : TokenKind} {item : Parser α} {c d : Cursor}
    {xs : List α} (h : othersFrom separator item c = .ok (xs, d)) :
    d.ahead.length ≤ c.ahead.length := by
  fun_induction othersFrom separator item c generalizing xs d with
  | case1 => cases h
  | case2 => cases h
  | case3 c hs x e hi ys f ho ih =>
    cases h
    exact Nat.le_trans (ih ho) (Nat.le_trans (item.never_back hi) c.length_ahead_advance_le)
  | case4 => cases h; exact Nat.le_refl _

def others {α : Type} (separator : TokenKind) (item : Parser α) : Parser (List α) where
  run := othersFrom separator item
  never_back := othersFrom_never_back

def separated {α : Type} (separator : TokenKind) (item : Parser α) : Parser (List α) := do
  let first ← item
  let rest ← others separator item
  return first :: rest

def literal? : TokenKind → Option Literal
  | .symbol name => some (.symbol name)
  | .string content => some (.string content)
  | .integer value => some (.integer value)
  | .bytes value => some (.bytes value)
  | _ => none

def literal (expected : Expectation) : Parser Literal := do
  let c ← cursor
  match literal? c.peek.kind with
  | some value =>
    advance
    return value
  | none => fail expected

def variableName (expected : Expectation) : Parser String := do
  let c ← cursor
  match c.peek.kind with
  | .var name =>
    advance
    return name
  | _ => fail expected

def stringContent (expected : Expectation) : Parser String := do
  let c ← cursor
  match c.peek.kind with
  | .string content =>
    advance
    return content
  | _ => fail expected

def term : Parser Term := do
  let c ← cursor
  match c.peek.kind with
  | .var name =>
    advance
    return .var name
  | _ => return .literal (← literal .term)

def terms : Parser (List Term) := do
  let c ← cursor
  if c.sees .rightParen then return [] else separated .comma term

def predicate : Parser Predicate := do
  let c ← cursor
  match c.peek.kind with
  | .identifier name =>
    advance
    let _ ← expect .leftParen
    let terms ← terms
    let _ ← expect .rightParen
    return { name, terms }
  | _ => fail .predicateName

def comparison? : TokenKind → Option Comparison
  | .less => some .less
  | .greater => some .greater
  | .lessOrEqual => some .lessOrEqual
  | .greaterOrEqual => some .greaterOrEqual
  | .equal => some .equal
  | _ => none

def stringTest (name : String) : Parser Constraint :=
  match StringTest.ofName? name with
  | none => fail .constraint
  | some function => do
    advance
    let _ ← expect .leftParen
    let subject ← variableName .var
    let _ ← expect .comma
    let value ← stringContent .string
    let _ ← expect .rightParen
    return .test function subject value

def membershipWord : Parser Bool := do
  let c ← cursor
  if c.seesWord "not" then
    advance
    let _ ← expectWord "in"
    return true
  else if c.seesWord "in" then
    advance
    return false
  else fail .comparison

def set : Parser (Literal × List Literal) := do
  let _ ← expect .leftBracket
  let first ← literal .literal
  let rest ← others .comma (literal .literal)
  let _ ← expect .rightBracket
  return (first, rest)

def relation (subject : String) : Parser Constraint := do
  let c ← cursor
  match comparison? c.peek.kind with
  | some op =>
    advance
    return .compare subject op (← literal .literal)
  | none =>
    let negated ← membershipWord
    let (first, rest) ← set
    return .member subject negated first rest

def constraint : Parser Constraint := do
  let c ← cursor
  match c.peek.kind with
  | .identifier name => stringTest name
  | _ => relation (← variableName .constraint)

def constraints : Parser (List Constraint) := do
  let c ← cursor
  if c.sees .atSign then
    advance
    separated .comma constraint
  else return []

def ruleBody : Parser Rule := do
  let head ← predicate
  let _ ← expect .arrow
  let body ← separated .comma predicate
  let constraints ← constraints
  return { comments := [], head, body, constraints }

/-- Reads a rule; its comments stay with the cursor. -/
def rule : Parser Rule := do
  let _ ← expect .star
  ruleBody

def caveatQueries : Parser (List Rule) := do
  let queries ← separated .or rule
  let _ ← expect .rightBracket
  return queries

def delimiter (kind : TokenKind) (expected : Expectation) : Parser Unit := do
  let c ← cursor
  if c.sees kind then advance else fail expected

def caveatList : Parser (List Rule) := do
  delimiter .leftBracket .caveat
  caveatQueries

/-- Reads a rule of a block; it takes the comments in front and those hoisted from inside. -/
def commentedRule : Parser Rule := do
  let comments ← takeComments
  let rule ← rule
  let hoisted ← takeHoisted
  return { rule with comments := comments ++ hoisted }

/-- Passes the comma that may stand in front of a caveat other than the first, and gives the comments
around it. -/
def caveatSeparator (isFirst : Bool) : Parser (List String) := do
  let c ← cursor
  if !isFirst && c.sees .comma then
    advance
    let hoisted ← takeHoisted
    let comments ← takeComments
    return hoisted ++ comments
  else return []

def commentedCaveat (isFirst : Bool) : Parser Caveat := do
  let comments ← takeComments
  let around ← caveatSeparator isFirst
  let queries ← caveatList
  let hoisted ← takeHoisted
  return { comments := comments ++ around ++ hoisted, queries }

def Progresses {α : Type} (p : Parser α) : Prop :=
  ∀ c x d, p.run c = .ok (x, d) → d.ahead.length < c.ahead.length

theorem Progresses.of_first {α β : Type} {p : Parser α} {f : α → Parser β} (h : p.Progresses) :
    (p >>= f).Progresses := by
  intro c y d hb
  rw [run_bind] at hb
  split at hb
  · cases hb
  · next x e hp => exact Nat.lt_of_le_of_lt ((f x).never_back hb) (h _ _ _ hp)

theorem Progresses.of_second {α β : Type} {p : Parser α} {f : α → Parser β}
    (h : ∀ x, (f x).Progresses) : (p >>= f).Progresses := by
  intro c y d hb
  rw [run_bind] at hb
  split at hb
  · cases hb
  · next x e hp => exact Nat.lt_of_lt_of_le (h x _ _ _ hb) (p.never_back hp)

theorem progresses_expect {kind : TokenKind} (h : kind ≠ .endOfDocument) :
    (expect kind).Progresses := by
  intro c x d hr
  simp only [expect, run_bind, cursor] at hr
  split at hr
  · next hs =>
    have hk : c.peek.kind = kind := by simpa [Cursor.sees] using hs
    cases hr
    exact Cursor.length_ahead_advance_lt (by rw [hk]; exact h)
  · cases hr

theorem progresses_delimiter {kind : TokenKind} {expected : Expectation} (h : kind ≠ .endOfDocument) :
    (delimiter kind expected).Progresses := by
  intro c x d hr
  simp only [delimiter, run_bind, cursor] at hr
  split at hr
  · next hs =>
    have hk : c.peek.kind = kind := by simpa [Cursor.sees] using hs
    cases hr
    exact Cursor.length_ahead_advance_lt (by rw [hk]; exact h)
  · cases hr

theorem progresses_rule : rule.Progresses := by
  unfold rule
  exact .of_first (progresses_expect (by decide))

theorem progresses_commentedRule : commentedRule.Progresses := by
  unfold commentedRule
  exact .of_second fun _ => .of_first progresses_rule

theorem progresses_caveatList : caveatList.Progresses := by
  unfold caveatList
  exact .of_first (progresses_delimiter (by decide))

theorem progresses_commentedCaveat (isFirst : Bool) : (commentedCaveat isFirst).Progresses := by
  unfold commentedCaveat
  exact .of_second fun _ => .of_second fun _ => .of_first progresses_caveatList

/-- Reads items up to a closing brace, which it passes. The comments in front of the brace belong to
the block. -/
def blockFrom {α : Type} (item : Bool → Parser α) (progresses : ∀ b, (item b).Progresses)
    (isFirst : Bool) (c : Cursor) : Except SyntaxError (Block α × Cursor) :=
  if c.sees .rightBrace then
    let (comments, d) := c.takeComments
    .ok (⟨[], comments⟩, d.advance)
  else
    match hi : (item isFirst).run c with
    | .error e => .error e
    | .ok (x, d) =>
      match blockFrom item progresses false d with
      | .error e => .error e
      | .ok (b, e) => .ok (⟨x :: b.items, b.trailingComments⟩, e)
termination_by c.ahead.length
decreasing_by exact progresses isFirst _ _ _ hi

theorem blockFrom_never_back {α : Type} {item : Bool → Parser α}
    {progresses : ∀ b, (item b).Progresses} {isFirst : Bool} {c d : Cursor} {b : Block α}
    (h : blockFrom item progresses isFirst c = .ok (b, d)) : d.ahead.length ≤ c.ahead.length := by
  fun_induction blockFrom item progresses isFirst c generalizing b d with
  | case1 isFirst c hs comments e hc =>
    cases h
    have h1 := c.length_ahead_takeComments
    rw [hc] at h1
    rw [← h1]
    exact Cursor.length_ahead_advance_le _
  | case2 => cases h
  | case3 => cases h
  | case4 isFirst c hs x e hi b' f hb ih =>
    cases h
    exact Nat.le_trans (ih hb) ((item isFirst).never_back hi)

def block {α : Type} (item : Bool → Parser α) (progresses : ∀ b, (item b).Progresses) :
    Parser (Block α) where
  run := blockFrom item progresses true
  never_back := blockFrom_never_back

def optionalBlock {α : Type} (word : String) (contents : Parser (Block α)) :
    Parser (Option (Block α)) := do
  let c ← cursor
  if c.seesWord word then
    advance
    let _ ← expect .leftBrace
    return some (← contents)
  else return none

def afterBlocks (hasRules hasCaveats : Bool) : Expectation :=
  if hasCaveats then .close else if hasRules then .caveatsOrEnd else .rulesCaveatsOrEnd

def policyBody (comments : List String) (offset : Nat) : Parser Policy := do
  let name ← stringContent .policyName
  let _ ← expect .leftBrace
  let rules ← optionalBlock "rules" (block (fun _ => commentedRule) fun _ => progresses_commentedRule)
  let caveats ← optionalBlock "caveats" (block commentedCaveat progresses_commentedCaveat)
  delimiter .rightBrace (afterBlocks rules.isSome caveats.isSome)
  let hoisted ← takeHoisted
  return { comments := comments ++ hoisted, name, offset, rules, caveats }

/-- Reads a policy; it takes the comments in front and those hoisted outside its rules and caveats. -/
def policy : Parser Policy := do
  let comments ← takeComments
  let offset ← expectWord "policy"
  policyBody comments offset

theorem progresses_expectWord {word : String} : (expectWord word).Progresses := by
  intro c x d hr
  simp only [expectWord, run_bind, cursor] at hr
  split at hr
  · next hs =>
    have hk : c.peek.kind = .identifier word := by simpa [Cursor.seesWord] using hs
    cases hr
    exact Cursor.length_ahead_advance_lt (by rw [hk]; exact TokenKind.noConfusion)
  · cases hr

theorem progresses_policy : policy.Progresses := by
  unfold policy
  exact .of_second fun _ => .of_first progresses_expectWord

def documentFrom (c : Cursor) : Except SyntaxError Document :=
  if c.sees .endOfDocument then .ok ⟨[], c.takeComments.1⟩
  else
    match hp : policy.run c with
    | .error e => .error e
    | .ok (p, d) =>
      match documentFrom d with
      | .error e => .error e
      | .ok doc => .ok ⟨p :: doc.policies, doc.trailingComments⟩
termination_by c.ahead.length
decreasing_by exact progresses_policy _ _ _ hp

end Parser

def Document.ofTokens (ts : List Token) : Except SyntaxError Document :=
  Parser.documentFrom ⟨lexemes [] ts, []⟩

def Document.ofText (document : String) : Except SyntaxError Document :=
  match tokenize document with
  | .error e => .error e
  | .ok ts => Document.ofTokens ts

end PolicyGate.Source
