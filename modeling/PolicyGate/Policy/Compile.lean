import PolicyGate.Policy.Lowering
import PolicyGate.Source.Parser
import PolicyGate.Source.Printer
import PolicyGate.Source.Variables
import PolicyGate.Text.Position
/-! # Compiling and formatting documents

Compiling numbers the variables of a document, reads its tree, and lowers the policies one by one.
Formatting reads the tree and writes it in canonical layout. Both tell syntax errors at their place in
the author's text. -/

namespace PolicyGate

inductive DocumentError
  | syntaxFault (place : Text.Position) (fault : Source.SyntaxFault)
  | duplicatePolicy (name : String)
  | policyFault (policy : String) (fault : PolicyFault)
deriving DecidableEq, Repr

def DocumentError.message (e : DocumentError) (reasons : Reasons := {}) : String :=
  match e with
  | syntaxFault place fault =>
    "syntax error at line " ++ toString place.line ++ ", column " ++ toString place.column ++ ": " ++
      fault.message
  | duplicatePolicy name => "duplicate policy \"" ++ name ++ "\""
  | policyFault policy fault => "policy \"" ++ policy ++ "\": " ++ fault.message reasons

def DocumentError.ofOffset (document : String) (offset : Nat) (fault : Source.SyntaxFault) :
    DocumentError :=
  .syntaxFault (Text.position document.toList offset) fault

def Policy.lowerAll (seen : List String) :
    List Source.Policy → Except DocumentError (List Policy)
  | [] => .ok []
  | p :: ps =>
    if p.name ∈ seen then .error (.duplicatePolicy p.name)
    else
      match p.lower with
      | .error fault => .error (.policyFault p.name fault)
      | .ok policy => (Policy.lowerAll (p.name :: seen) ps).map (policy :: ·)

/-- Compiles a document to its policies, in the order of the document. Their names are distinct. -/
def compileDocument (document : String) : Except DocumentError (List Policy) :=
  let numbered := Source.numberVariables document
  match Source.Document.ofText numbered.text with
  | .error e => .error (.ofOffset document (numbered.originalOffset e.offset) e.fault)
  | .ok tree => Policy.lowerAll [] tree.policies

def formatDocument (document : String) : Except DocumentError String :=
  match Source.Document.ofText document with
  | .error e => .error (.ofOffset document e.offset e.fault)
  | .ok tree => .ok tree.text

end PolicyGate
