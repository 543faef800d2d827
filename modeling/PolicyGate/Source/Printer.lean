import PolicyGate.Source.Tree
import PolicyGate.Text.Hex
import PolicyGate.Text.Quoted
/-! # From the tree to text

The canonical layout of a document: tabs indent, one blank line stands between policies, each predicate
and constraint of a rule has its own line, and a caveat has one line. -/

namespace PolicyGate.Source

def indent (depth : Nat) : String :=
  String.ofList (List.replicate depth '\t')

def commentLines (depth : Nat) (comments : List String) : String :=
  String.join (comments.map fun c => indent depth ++ c ++ "\n")

def Literal.text : Literal → String
  | symbol name => "#" ++ name
  | string content => Text.Quoted.text content
  | integer value => toString value.toInt
  | bytes value => "hex:" ++ Text.Hex.text value

def Term.text : Term → String
  | var name => "$" ++ name
  | literal value => value.text

def Predicate.text (p : Predicate) : String :=
  p.name ++ "(" ++ String.intercalate ", " (p.terms.map Term.text) ++ ")"

def Constraint.text : Constraint → String
  | compare subject op value => "$" ++ subject ++ " " ++ op.text ++ " " ++ value.text
  | member subject negated first others =>
    "$" ++ subject ++ (if negated then " not in [" else " in [") ++
      String.intercalate ", " ((first :: others).map Literal.text) ++ "]"
  | test function subject value =>
    function.text ++ "($" ++ subject ++ ", " ++ Text.Quoted.text value ++ ")"

/-- Items on lines of their own: the first behind `lead`, the others behind as many blanks, and a comma
after each but the last. -/
def itemLines (lead blank : String) : List String → String
  | [] => ""
  | [item] => indent 3 ++ lead ++ item ++ "\n"
  | item :: items => indent 3 ++ lead ++ item ++ ",\n" ++ itemLines blank blank items

def Rule.lines (r : Rule) : String :=
  indent 2 ++ "*" ++ r.head.text ++ "\n" ++
    itemLines "<- " "   " (r.body.map Predicate.text) ++
    itemLines "@ " "  " (r.constraints.map Constraint.text)

def Rule.inlineText (r : Rule) : String :=
  "*" ++ r.head.text ++ " <- " ++ String.intercalate ", " (r.body.map Predicate.text) ++
    if r.constraints = [] then ""
    else " @ " ++ String.intercalate ", " (r.constraints.map Constraint.text)

def Caveat.lines (c : Caveat) : String :=
  commentLines 2 c.comments ++ indent 2 ++ "[" ++
    String.intercalate " || " (c.queries.map Rule.inlineText) ++ "]\n"

def Block.lines {α : Type} (word : String) (item : α → String) (b : Block α) : String :=
  indent 1 ++ word ++ " \x7b\n" ++ String.join (b.items.map item) ++
    commentLines 2 b.trailingComments ++ indent 1 ++ "\x7d\n"

def optionalLines {α : Type} (word : String) (item : α → String) : Option (Block α) → String
  | some b => b.lines word item
  | none => ""

def Policy.lines (p : Policy) : String :=
  commentLines 0 p.comments ++ "policy " ++ Text.Quoted.text p.name ++ " \x7b\n" ++
    optionalLines "rules" (fun r => commentLines 2 r.comments ++ r.lines) p.rules ++
    optionalLines "caveats" Caveat.lines p.caveats ++ "\x7d\n"

def Document.text (d : Document) : String :=
  String.intercalate "\n" (d.policies.map Policy.lines) ++
    if d.trailingComments = [] then ""
    else (if d.policies = [] then "" else "\n") ++ commentLines 0 d.trailingComments

end PolicyGate.Source
