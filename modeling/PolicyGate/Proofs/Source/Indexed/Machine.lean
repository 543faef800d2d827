import Mathlib.Data.PFun
import PolicyGate.Proofs.Source.Blocks

/-!
# The parser over positions

The parser as a machine: the tokens stay in one list, and a position in it moves. A look behind the list
ends the run with a halt of its own, loops go on for as long as they are asked to, so a run need not end,
and each position that is ever taken is kept. `Positions` has it that no such look happens, that every run
ends, and that it ends as the parser does.
-/

namespace PolicyGate.Source.Indexed

inductive Halt
  | refused (e : SyntaxError)
  | outOfRange (index : Nat)
deriving DecidableEq, Repr

structure State where
  position : Nat
  hoisted : List String
  /-- All positions so far. -/
  trail : List Nat
deriving DecidableEq, Repr

def State.start : State :=
  ⟨0, [], [0]⟩

def State.moved (s : State) : State :=
  { s with position := s.position + 1, trail := s.trail ++ [s.position + 1] }

def State.hoisting (s : State) (text : String) : State :=
  { s with hoisted := s.hoisted ++ [text] }

/-- What a run gives: a result or a halt, and the state at the end. A run without end gives nothing. -/
def Reading (α : Type) : Type :=
  List Token → State → Part (Except Halt α × State)

def proceed {α β : Type} (f : α → Reading β) (ts : List Token) :
    Except Halt α × State → Part (Except Halt β × State)
  | (.ok x, s) => f x ts s
  | (.error h, s) => .some (.error h, s)

instance : Monad Reading where
  pure x _ s := .some (.ok x, s)
  bind m f ts s := (m ts s).bind (proceed f ts)

section
variable {α β γ : Type}

/-- Where a loop stands behind a turn: at its end, or in front of another turn. -/
def loopStep (turn : β → Reading (β ⊕ γ)) (ts : List Token) (at_turn : β × State) :
    Part ((Except Halt γ × State) ⊕ (β × State)) :=
  (turn at_turn.1 ts at_turn.2).map fun
    | (.ok (.inl b), s) => .inr (b, s)
    | (.ok (.inr r), s) => .inl (.ok r, s)
    | (.error h, s) => .inl (.error h, s)

def loop (turn : β → Reading (β ⊕ γ)) (b : β) : Reading γ :=
  fun ts s => PFun.fix (loopStep turn ts) (b, s)

/-! ## Looking and moving -/

def state : Reading State :=
  fun _ s => .some (.ok s, s)

def change (f : State → State) : Reading Unit :=
  fun _ s => .some (.ok (), f s)

def halt (h : Halt) : Reading α :=
  fun _ s => .some (.error h, s)

def tokenAt (i : Nat) : Reading Token :=
  fun ts s =>
    match ts[i]? with
    | some t => .some (.ok t, s)
    | none => .some (.error (.outOfRange i), s)

def move : Reading Unit :=
  change State.moved

def peekTurn (i : Nat) : Reading (Nat ⊕ Token) := do
  let t ← tokenAt i
  match t.kind.comment? with
  | some _ => return .inl (i + 1)
  | none => return .inr t

def peek : Reading Token := do
  loop peekTurn (← state).position

def hoistTurn (_ : Unit) : Reading (Unit ⊕ Unit) := do
  let t ← tokenAt (← state).position
  match t.kind.comment? with
  | some text =>
    change (State.hoisting · text)
    move
    return .inl ()
  | none => return .inr ()

/-- Passes the next significant token, unless it is the end of the document, and hoists the comments in
front of it. -/
def next : Reading Token := do
  loop hoistTurn ()
  let t ← tokenAt (← state).position
  if t.kind ≠ .endOfDocument then
    move
  return t

def takeTurn (comments : List String) : Reading (List String ⊕ List String) := do
  let t ← tokenAt (← state).position
  match t.kind.comment? with
  | some text =>
    move
    return .inl (comments ++ [text])
  | none => return .inr comments

def takeComments : Reading (List String) :=
  loop takeTurn []

def takeHoisted : Reading (List String) := do
  let s ← state
  change fun s => { s with hoisted := [] }
  return s.hoisted

def sees (kind : TokenKind) : Reading Bool := do
  return (← peek).kind == kind

def unexpected (expected : Expectation) : Reading α := do
  let t ← peek
  halt (.refused ⟨t.offset, .unexpectedToken expected t.kind⟩)

def expect (kind : TokenKind) : Reading Nat := do
  if ← sees kind then
    let t ← next
    return t.offset
  else unexpected (.token kind)

def expectWord (word : String) : Reading Nat := do
  if ← sees (.identifier word) then
    let t ← next
    return t.offset
  else unexpected (.keyword word)

def delimiter (kind : TokenKind) (expected : Expectation) : Reading Unit := do
  if ← sees kind then
    let _ ← next
  else unexpected expected

/-! ## Terms and predicates -/

def separatedTurn (separator : TokenKind) (item : Reading α) (items : List α) :
    Reading (List α ⊕ List α) := do
  if ← sees separator then
    let _ ← next
    let x ← item
    return .inl (items ++ [x])
  else return .inr items

def separated (separator : TokenKind) (item : Reading α) : Reading (List α) := do
  let first ← item
  loop (separatedTurn separator item) [first]

def literal (expected : Expectation) : Reading Literal := do
  let t ← peek
  match Parser.literal? t.kind with
  | some value =>
    let _ ← next
    return value
  | none => unexpected expected

def variableName (expected : Expectation) : Reading String := do
  let t ← peek
  match t.kind with
  | .var name =>
    let _ ← next
    return name
  | _ => unexpected expected

def stringContent (expected : Expectation) : Reading String := do
  let t ← peek
  match t.kind with
  | .string content =>
    let _ ← next
    return content
  | _ => unexpected expected

def term : Reading Term := do
  let t ← peek
  match t.kind with
  | .var name =>
    let _ ← next
    return .var name
  | _ =>
    let value ← literal .term
    return .literal value

def terms : Reading (List Term) := do
  if ← sees .rightParen then return [] else separated .comma term

def predicate : Reading Predicate := do
  let t ← peek
  match t.kind with
  | .identifier name =>
    let _ ← next
    let _ ← expect .leftParen
    let terms ← terms
    let _ ← expect .rightParen
    return { name, terms }
  | _ => unexpected .predicateName

/-! ## Constraints -/

def stringTest (name : String) : Reading Constraint :=
  match StringTest.ofName? name with
  | none => unexpected .constraint
  | some function => do
    let _ ← next
    let _ ← expect .leftParen
    let subject ← variableName .var
    let _ ← expect .comma
    let value ← stringContent .string
    let _ ← expect .rightParen
    return .test function subject value

def membershipWord : Reading Bool := do
  if ← sees (.identifier "not") then
    let _ ← next
    let _ ← expectWord "in"
    return true
  else if ← sees (.identifier "in") then
    let _ ← next
    return false
  else unexpected .comparison

def set : Reading (Literal × List Literal) := do
  let _ ← expect .leftBracket
  let first ← literal .literal
  let rest ← loop (separatedTurn .comma (literal .literal)) []
  let _ ← expect .rightBracket
  return (first, rest)

def relation (subject : String) : Reading Constraint := do
  let t ← peek
  match Parser.comparison? t.kind with
  | some op =>
    let _ ← next
    let value ← literal .literal
    return .compare subject op value
  | none =>
    let negated ← membershipWord
    let (first, rest) ← set
    return .member subject negated first rest

def constraint : Reading Constraint := do
  let t ← peek
  match t.kind with
  | .identifier name => stringTest name
  | _ =>
    let subject ← variableName .constraint
    relation subject

def constraints : Reading (List Constraint) := do
  if ← sees .atSign then
    let _ ← next
    separated .comma constraint
  else return []

/-! ## Rules, caveats and policies -/

def rule : Reading Rule := do
  let _ ← expect .star
  let head ← predicate
  let _ ← expect .arrow
  let body ← separated .comma predicate
  let constraints ← constraints
  return { comments := [], head, body, constraints }

def caveatList : Reading (List Rule) := do
  delimiter .leftBracket .caveat
  let queries ← separated .or rule
  let _ ← expect .rightBracket
  return queries

def ruleBehind (_ : Bool) (comments : List String) : Reading Rule := do
  let rule ← rule
  let hoisted ← takeHoisted
  return { rule with comments := comments ++ hoisted }

def caveatSeparator (isFirst : Bool) : Reading (List String) := do
  if isFirst then return []
  else if ← sees .comma then
    let _ ← next
    let hoisted ← takeHoisted
    let comments ← takeComments
    return hoisted ++ comments
  else return []

def caveatBehind (isFirst : Bool) (comments : List String) : Reading Caveat := do
  let around ← caveatSeparator isFirst
  let queries ← caveatList
  let hoisted ← takeHoisted
  return { comments := comments ++ around ++ hoisted, queries }

/-- Reads a closing brace or one item more, behind the comments in front of it. -/
def blockTurn (item : Bool → List String → Reading α) (items : List α) : Reading (List α ⊕ Block α) := do
  let comments ← takeComments
  if ← sees .rightBrace then
    let _ ← next
    return .inr ⟨items, comments⟩
  else
    let x ← item items.isEmpty comments
    return .inl (items ++ [x])

def optionalBlock (word : String) (item : Bool → List String → Reading α) :
    Reading (Option (Block α)) := do
  if ← sees (.identifier word) then
    let _ ← next
    let _ ← expect .leftBrace
    let contents ← loop (blockTurn item) []
    return some contents
  else return none

def policy (comments : List String) : Reading Policy := do
  let offset ← expectWord "policy"
  let name ← stringContent .policyName
  let _ ← expect .leftBrace
  let rules ← optionalBlock "rules" ruleBehind
  let caveats ← optionalBlock "caveats" caveatBehind
  delimiter .rightBrace (Parser.afterBlocks rules.isSome caveats.isSome)
  let hoisted ← takeHoisted
  return { comments := comments ++ hoisted, name, offset, rules, caveats }

def documentTurn (policies : List Policy) : Reading (List Policy ⊕ Document) := do
  let comments ← takeComments
  if ← sees .endOfDocument then
    return .inr ⟨policies, comments⟩
  else
    let p ← policy comments
    return .inl (policies ++ [p])

def document : Reading Document :=
  loop documentTurn []

end

end PolicyGate.Source.Indexed
