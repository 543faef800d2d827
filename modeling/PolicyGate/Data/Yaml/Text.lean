import PolicyGate.Data.Value
import PolicyGate.Data.Yaml.Scalar
/-! # YAML text

Values are written in block style with an indentation of two blanks; lists stand at the indentation of
their key. -/

namespace PolicyGate.Data.Yaml

/-- A text that ends its line; a block may bring a line end of its own. -/
def endLine (t : String) : String :=
  if t.toList.getLast?.any isBreak then t else t ++ "\n"

/-- Texts one below the other, the first where the writer stands. -/
def below (indent : Nat) : List String → String
  | [] => ""
  | [t] => t
  | t :: ts => endLine t ++ String.ofList (margin indent) ++ below indent ts

def onLines (indent : Nat) (texts : List String) : String :=
  "\n" ++ String.ofList (margin indent) ++ below indent texts

def inlineText (indent : Nat) : Value → String
  | .null => "null"
  | .bool b => if b then "true" else "false"
  | .integer n => toString n
  | .fraction => "null"
  | .text s => scalarText indent false s
  | _ => ""

mutual

def afterColon (indent : Nat) : Value → String
  | .list [] => " []"
  | .record [] => " \x7b\x7d"
  | .list (v :: vs) => onLines indent (itemTexts indent (v :: vs))
  | .record (m :: ms) => onLines (indent + 2) (memberTexts (indent + 2) (m :: ms))
  | .variant tag v => " !" ++ tag ++ afterColon indent v
  | v => " " ++ inlineText (indent + 2) v

/-- What stands behind a dash, or the colon of a key that is not simple, at an indentation. -/
def afterDash (indent : Nat) : Value → String
  | .list [] => " []"
  | .record [] => " \x7b\x7d"
  | .list (v :: vs) => " " ++ below (indent + 2) (itemTexts (indent + 2) (v :: vs))
  | .record (m :: ms) => " " ++ below (indent + 2) (memberTexts (indent + 2) (m :: ms))
  | .variant tag v => " !" ++ tag ++ afterTag indent v
  | v => " " ++ inlineText (indent + 2) v

def afterTag (indent : Nat) : Value → String
  | .list [] => " []"
  | .record [] => " \x7b\x7d"
  | .list (v :: vs) => onLines (indent + 2) (itemTexts (indent + 2) (v :: vs))
  | .record (m :: ms) => onLines (indent + 2) (memberTexts (indent + 2) (m :: ms))
  | .variant tag v => " !" ++ tag ++ afterTag indent v
  | v => " " ++ inlineText (indent + 2) v

def itemTexts (indent : Nat) : List Value → List String
  | [] => []
  | v :: vs => ("-" ++ afterDash indent v) :: itemTexts indent vs

def memberTexts (indent : Nat) : List (String × Value) → List String
  | [] => []
  | (name, v) :: ms =>
    (if isSimpleKey name then scalarText indent true name ++ ":" ++ afterColon indent v
     else
      below indent ["? " ++ scalarText (indent + 2) false name, ":" ++ afterDash indent v]) ::
      memberTexts indent ms

end

def text (v : Value) : String :=
  endLine <| match v with
    | .record (m :: ms) => below 0 (memberTexts 0 (m :: ms))
    | .list (v :: vs) => below 0 (itemTexts 0 (v :: vs))
    | .record [] => "\x7b\x7d"
    | .list [] => "[]"
    | v => inlineText 2 v

end PolicyGate.Data.Yaml
