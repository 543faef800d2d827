import Mathlib.Computability.Language
import PolicyGate.Proofs.Source.TreeTokens
import PolicyGate.Source.Parser

/-!
# The grammar of documents

The grammar as languages of kinds of tokens, one for each rule:

```
document   = { policy }
policy     = "policy" STRING "{" [ "rules" "{" { rule } "}" ]
             [ "caveats" "{" [ caveat { [","] caveat } ] "}" ] "}"
rule       = "*" predicate "<-" predicate { "," predicate } [ "@" constraint { "," constraint } ]
caveat     = "[" rule { "||" rule } "]"
predicate  = IDENT "(" [ term { "," term } ] ")"
term       = VARIABLE | SYMBOL | STRING | INTEGER | BYTES
constraint = VARIABLE ( ("<"|">"|"<="|">="|"==") literal | ["not"] "in" set )
           | ("prefix"|"suffix"|"match") "(" VARIABLE "," STRING ")"
set        = "[" literal { "," literal } "]"
```

Comments, which may stand anywhere, are left out. `Starts` tells with which tokens the words of a
language begin.
-/

namespace PolicyGate.Source

open Computability

def oneOf (P : TokenKind → Prop) : Language TokenKind :=
  {ks | ∃ k, P k ∧ ks = [k]}

namespace Grammar

def tok (k : TokenKind) : Language TokenKind :=
  oneOf (· = k)

def word (w : String) : Language TokenKind :=
  tok (.identifier w)

def identifier : Language TokenKind :=
  oneOf fun k => ∃ name, k = .identifier name

def var : Language TokenKind :=
  oneOf fun k => ∃ name, k = .var name

def string : Language TokenKind :=
  oneOf fun k => ∃ content, k = .string content

def literal : Language TokenKind :=
  oneOf fun k => ∃ v : Literal, k = v.token

def comparison : Language TokenKind :=
  oneOf fun k => ∃ op : Comparison, k = op.token

def opt (l : Language TokenKind) : Language TokenKind :=
  1 + l

def list (separator : TokenKind) (item : Language TokenKind) : Language TokenKind :=
  item * (tok separator * item)∗

def term : Language TokenKind :=
  oneOf fun k => ∃ t : Term, k = t.token

def predicate : Language TokenKind :=
  identifier * tok .leftParen * opt (list .comma term) * tok .rightParen

def set : Language TokenKind :=
  tok .leftBracket * list .comma literal * tok .rightBracket

def relation : Language TokenKind :=
  comparison * literal + opt (word "not") * word "in" * set

def stringTest : Language TokenKind :=
  (word "prefix" + word "suffix" + word "match") * tok .leftParen * var * tok .comma * string *
    tok .rightParen

def constraint : Language TokenKind :=
  var * relation + stringTest

def rule : Language TokenKind :=
  tok .star * predicate * tok .arrow * list .comma predicate *
    opt (tok .atSign * list .comma constraint)

def caveat : Language TokenKind :=
  tok .leftBracket * list .or rule * tok .rightBracket

def rules : Language TokenKind :=
  rule∗ * tok .rightBrace

def caveats : Language TokenKind :=
  opt (caveat * (opt (tok .comma) * caveat)∗) * tok .rightBrace

def policy : Language TokenKind :=
  word "policy" * string * tok .leftBrace * opt (word "rules" * tok .leftBrace * rules) *
    opt (word "caveats" * tok .leftBrace * caveats) * tok .rightBrace

def document : Language TokenKind :=
  policy∗

def sentence : Language TokenKind :=
  document * tok .endOfDocument

end Grammar

/-- Some sentence begins with these tokens. -/
def Viable (ks : List TokenKind) : Prop :=
  ∃ ls, ks ++ ls ∈ Grammar.sentence

/-! ## Words and their first tokens -/

section
variable {P : TokenKind → Prop} {k : TokenKind} {ks : List TokenKind} {l m : Language TokenKind}

theorem cons_mem_oneOf_mul : k :: ks ∈ oneOf P * m ↔ P k ∧ ks ∈ m := by
  rw [Language.mem_mul]
  constructor
  · rintro ⟨_, ⟨k', hk, rfl⟩, rest, hr, e⟩
    cases e
    exact ⟨hk, hr⟩
  · rintro ⟨hk, hr⟩
    exact ⟨[k], ⟨k, hk, rfl⟩, ks, hr, rfl⟩

def HasWord (l : Language TokenKind) : Prop :=
  ∃ ks, ks ∈ l

@[simp] theorem hasWord_mul : HasWord (l * m) ↔ HasWord l ∧ HasWord m := by
  constructor
  · rintro ⟨_, ks, hk, ks', hk', rfl⟩
    exact ⟨⟨ks, hk⟩, ks', hk'⟩
  · rintro ⟨⟨ks, hk⟩, ks', hk'⟩
    exact ⟨ks ++ ks', Language.append_mem_mul hk hk'⟩

-- simp writes the sum of two languages as their supremum
@[simp] theorem hasWord_sup : HasWord (l ⊔ m) ↔ HasWord l ∨ HasWord m := by
  rw [← add_eq_sup]
  exact exists_or

@[simp] theorem hasWord_one : HasWord (1 : Language TokenKind) :=
  ⟨[], rfl⟩

@[simp] theorem hasWord_kstar : HasWord l∗ :=
  ⟨[], Language.nil_mem_kstar l⟩

theorem hasWord_oneOf (h : P k) : HasWord (oneOf P) :=
  ⟨[k], k, h, rfl⟩

/-- Words of the language that are not empty begin with one of these tokens. -/
def Starts (l : Language TokenKind) (first : TokenKind → Prop) : Prop :=
  ∀ k ks, k :: ks ∈ l → first k

variable {first : TokenKind → Prop}

theorem starts_oneOf (h : ∀ k, P k → first k) (m : Language TokenKind) : Starts (oneOf P * m) first := by
  intro k ks hk
  exact h k (cons_mem_oneOf_mul.mp hk).1

theorem starts_tok (h : first k) (m : Language TokenKind) : Starts (Grammar.tok k * m) first :=
  starts_oneOf (fun _ e => e ▸ h) m

theorem Starts.add (hl : Starts l first) (hm : Starts m first) : Starts (l + m) first := by
  intro k ks hk
  rcases hk with hk | hk
  · exact hl k ks hk
  · exact hm k ks hk

theorem opt_mul : Grammar.opt l * m = m + l * m := by
  rw [Grammar.opt, add_mul, one_mul]

theorem Starts.opt (hm : Starts m first) (hl : Starts (l * m) first) :
    Starts (Grammar.opt l * m) first := by
  rw [opt_mul]
  exact hm.add hl

theorem kstar_mul : l∗ * m = m + l * (l∗ * m) := by
  rw [← mul_assoc]
  nth_rewrite 1 [← Language.one_add_self_mul_kstar_eq_kstar]
  rw [add_mul, one_mul]

theorem Starts.kstar (hm : Starts m first) (hl : ∀ n, Starts (l * n) first) : Starts (l∗ * m) first := by
  rw [kstar_mul]
  exact hm.add (hl _)

/-- No word of the language can stand where the next token is `k`. -/
def Refuses (l : Language TokenKind) (k : TokenKind) : Prop :=
  ∀ m ks, k :: ks ∉ l * m

theorem refuses_oneOf (h : ¬P k) : Refuses (oneOf P) k := by
  intro m ks hk
  exact h (cons_mem_oneOf_mul.mp hk).1

theorem refuses_tok {k' : TokenKind} (h : k ≠ k') : Refuses (Grammar.tok k') k :=
  refuses_oneOf h

theorem Refuses.mul (h : Refuses l k) (m : Language TokenKind) : Refuses (l * m) k := by
  intro n ks hk
  rw [mul_assoc] at hk
  exact h (m * n) ks hk

theorem Refuses.add (hl : Refuses l k) (hm : Refuses m k) : Refuses (l + m) k := by
  intro n ks hk
  rw [add_mul] at hk
  rcases hk with hk | hk
  · exact hl n ks hk
  · exact hm n ks hk

theorem Refuses.opt (hl : Refuses l k) (hm : Refuses m k) : Refuses (Grammar.opt l * m) k := by
  rw [opt_mul]
  exact hm.add (hl.mul m)

end

namespace Grammar

/-! ## Every rule of the grammar can be written -/

section
variable {l : Language TokenKind}

@[simp] theorem hasWord_tok {k : TokenKind} : HasWord (tok k) :=
  hasWord_oneOf rfl

@[simp] theorem hasWord_word {w : String} : HasWord (word w) :=
  hasWord_tok

@[simp] theorem hasWord_identifier : HasWord identifier :=
  hasWord_oneOf ⟨"", rfl⟩

@[simp] theorem hasWord_var : HasWord var :=
  hasWord_oneOf ⟨"", rfl⟩

@[simp] theorem hasWord_string : HasWord string :=
  hasWord_oneOf ⟨"", rfl⟩

@[simp] theorem hasWord_literal : HasWord literal :=
  hasWord_oneOf ⟨.integer 0, rfl⟩

@[simp] theorem hasWord_comparison : HasWord comparison :=
  hasWord_oneOf ⟨.less, rfl⟩

@[simp] theorem hasWord_term : HasWord term :=
  hasWord_oneOf ⟨.var "", rfl⟩

@[simp] theorem hasWord_opt : HasWord (opt l) := by
  simp [opt]

@[simp] theorem hasWord_list {separator : TokenKind} : HasWord (list separator l) ↔ HasWord l := by
  simp [list]

@[simp] theorem hasWord_predicate : HasWord predicate := by
  simp [predicate]

@[simp] theorem hasWord_set : HasWord set := by
  simp [set]

@[simp] theorem hasWord_relation : HasWord relation := by
  simp [relation]

@[simp] theorem hasWord_constraint : HasWord constraint := by
  simp [constraint]

@[simp] theorem hasWord_rule : HasWord rule := by
  simp [rule]

@[simp] theorem hasWord_caveat : HasWord caveat := by
  simp [caveat]

end
end Grammar
end PolicyGate.Source
