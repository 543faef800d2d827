import PolicyGate.Proofs.Source.Spelling
import PolicyGate.Source.Tree

/-!
# The tokens of a tree

The tokens in which the canonical layout writes a tree (`Document.tokens`), and the tokens in which an
author may write it, with commas between caveats (`Document.WrittenAs`). Between them there is no
difference but those commas: `Document.WrittenAs.firm`.
-/

namespace PolicyGate.Source

def joined (separator : TokenKind) : List (List TokenKind) → List TokenKind
  | [] => []
  | ks :: kss => ks ++ kss.flatMap (separator :: ·)

def Literal.token : Literal → TokenKind
  | symbol name => .symbol name
  | string content => .string content
  | integer value => .integer value
  | bytes value => .bytes value

def Term.token : Term → TokenKind
  | var name => .var name
  | literal value => value.token

def Comparison.token : Comparison → TokenKind
  | less => .less
  | greater => .greater
  | lessOrEqual => .lessOrEqual
  | greaterOrEqual => .greaterOrEqual
  | equal => .equal

def termTokens (ts : List Term) : List TokenKind :=
  joined .comma (ts.map fun t => [t.token])

def Predicate.tokens (p : Predicate) : List TokenKind :=
  .identifier p.name :: .leftParen :: (termTokens p.terms ++ [.rightParen])

def membershipTokens (negated : Bool) : List TokenKind :=
  if negated then [.identifier "not", .identifier "in"] else [.identifier "in"]

def setTokens (first : Literal) (others : List Literal) : List TokenKind :=
  .leftBracket :: first.token :: (others.flatMap (fun l => [.comma, l.token]) ++ [.rightBracket])

def Constraint.tokens : Constraint → List TokenKind
  | compare subject op value => [.var subject, op.token, value.token]
  | member subject negated first others =>
    .var subject :: (membershipTokens negated ++ setTokens first others)
  | test function subject value =>
    [.identifier function.text, .leftParen, .var subject, .comma, .string value, .rightParen]

def constraintTokens (cs : List Constraint) : List TokenKind :=
  if cs = [] then [] else .atSign :: joined .comma (cs.map Constraint.tokens)

def Rule.tokens (r : Rule) : List TokenKind :=
  .star :: (r.head.tokens ++ .arrow :: (joined .comma (r.body.map Predicate.tokens) ++
    constraintTokens r.constraints))

def queryTokens (qs : List Rule) : List TokenKind :=
  .leftBracket :: (joined .or (qs.map Rule.tokens) ++ [.rightBracket])

def commentTokens (comments : List String) : List TokenKind :=
  comments.map .comment

def Rule.commentedTokens (r : Rule) : List TokenKind :=
  commentTokens r.comments ++ r.tokens

def Caveat.commentedTokens (c : Caveat) : List TokenKind :=
  commentTokens c.comments ++ queryTokens c.queries

def Block.tokens {α : Type} (item : α → List TokenKind) (b : Block α) : List TokenKind :=
  b.items.flatMap item ++ (commentTokens b.trailingComments ++ [.rightBrace])

def optionalTokens {α : Type} (word : String) (item : α → List TokenKind) :
    Option (Block α) → List TokenKind
  | some b => .identifier word :: .leftBrace :: b.tokens item
  | none => []

def Policy.tokens (p : Policy) : List TokenKind :=
  commentTokens p.comments ++ .identifier "policy" :: .string p.name :: .leftBrace ::
    (optionalTokens "rules" Rule.commentedTokens p.rules ++
      (optionalTokens "caveats" Caveat.commentedTokens p.caveats ++ [.rightBrace]))

def Document.tokens (d : Document) : List TokenKind :=
  d.policies.flatMap Policy.tokens ++ commentTokens d.trailingComments

/-! ## Trees that can be written -/

def Rule.WellFormed (r : Rule) : Prop :=
  r.body ≠ []

/-- The queries of a caveat have no comments of their own, and there is at least one. -/
def QueriesWellFormed (qs : List Rule) : Prop :=
  qs ≠ [] ∧ ∀ q ∈ qs, q.comments = [] ∧ q.WellFormed

def Caveat.WellFormed (c : Caveat) : Prop :=
  QueriesWellFormed c.queries

structure Policy.WellFormed (p : Policy) : Prop where
  rules : ∀ b ∈ p.rules, ∀ r ∈ b.items, r.WellFormed
  caveats : ∀ b ∈ p.caveats, ∀ c ∈ b.items, c.WellFormed

def Document.WellFormed (d : Document) : Prop :=
  ∀ p ∈ d.policies, p.WellFormed

instance (r : Rule) : Decidable r.WellFormed :=
  inferInstanceAs (Decidable (r.body ≠ []))

instance (c : Caveat) : Decidable c.WellFormed :=
  inferInstanceAs (Decidable (c.queries ≠ [] ∧ ∀ q ∈ c.queries, q.comments = [] ∧ q.WellFormed))

instance (p : Policy) : Decidable p.WellFormed :=
  decidable_of_iff ((∀ b ∈ p.rules, ∀ r ∈ b.items, r.WellFormed) ∧
    ∀ b ∈ p.caveats, ∀ c ∈ b.items, c.WellFormed) ⟨fun h => ⟨h.1, h.2⟩, fun h => ⟨h.rules, h.caveats⟩⟩

instance (d : Document) : Decidable d.WellFormed :=
  inferInstanceAs (Decidable (∀ p ∈ d.policies, p.WellFormed))

/-! ## Trees as authors write them

Comments are written as `write` says: `commentTokens` keeps them, `noComments` leaves the significant
tokens. -/

def noComments (_ : List String) : List TokenKind :=
  []

section
variable (write : List String → List TokenKind)

def Rule.WrittenAs (_isFirst : Bool) (r : Rule) (ks : List TokenKind) : Prop :=
  ks = write r.comments ++ r.tokens

/-- A comma may stand in front of a caveat that is not the first. -/
def Caveat.WrittenAs (isFirst : Bool) (c : Caveat) (ks : List TokenKind) : Prop :=
  ks = write c.comments ++ queryTokens c.queries ∨
    isFirst = false ∧ ks = write c.comments ++ .comma :: queryTokens c.queries

section
variable {α : Type} (item : Bool → α → List TokenKind → Prop)

def ItemsWrittenAs : Bool → List α → List TokenKind → Prop
  | _, [], ks => ks = []
  | isFirst, x :: xs, ks => ∃ l m, ks = l ++ m ∧ item isFirst x l ∧ ItemsWrittenAs false xs m

def Block.WrittenAs (b : Block α) (ks : List TokenKind) : Prop :=
  ∃ l, ks = l ++ (write b.trailingComments ++ [.rightBrace]) ∧ ItemsWrittenAs item true b.items l

def OptionalWrittenAs (word : String) : Option (Block α) → List TokenKind → Prop
  | some b, ks => ∃ l, ks = .identifier word :: .leftBrace :: l ∧ b.WrittenAs write item l
  | none, ks => ks = []

end

def Policy.WrittenAs (p : Policy) (ks : List TokenKind) : Prop :=
  ∃ l m, ks = write p.comments ++ .identifier "policy" :: .string p.name :: .leftBrace ::
      (l ++ (m ++ [.rightBrace])) ∧
    OptionalWrittenAs write (Rule.WrittenAs write) "rules" p.rules l ∧
    OptionalWrittenAs write (Caveat.WrittenAs write) "caveats" p.caveats m

def PoliciesWrittenAs : List Policy → List TokenKind → Prop
  | [], ks => ks = []
  | p :: ps, ks => ∃ l m, ks = l ++ m ∧ p.WrittenAs write l ∧ PoliciesWrittenAs ps m

def Document.WrittenAs (d : Document) (ks : List TokenKind) : Prop :=
  ∃ l, ks = l ++ write d.trailingComments ∧ PoliciesWrittenAs write d.policies l

end

/-! ## All comments of a tree -/

section
variable {α : Type} (comments : α → List String)

def Block.allComments (b : Block α) : List String :=
  b.items.flatMap comments ++ b.trailingComments

def optionalComments : Option (Block α) → List String
  | some b => b.allComments comments
  | none => []

end

def Policy.allComments (p : Policy) : List String :=
  p.comments ++ (optionalComments Rule.comments p.rules ++ optionalComments Caveat.comments p.caveats)

def Document.allComments (d : Document) : List String :=
  d.policies.flatMap Policy.allComments ++ d.trailingComments

end PolicyGate.Source
