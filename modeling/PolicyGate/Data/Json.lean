import PolicyGate.Data.Value
import PolicyGate.Text.Decimal
import PolicyGate.Text.Hex
/-! # JSON text

Values are written over several lines, each level indented by two blanks. -/

namespace PolicyGate.Data.Json

def escapedChar (c : Char) : String :=
  match c with
  | '"' => "\\\""
  | '\\' => "\\\\"
  | '\n' => "\\n"
  | '\r' => "\\r"
  | '\t' => "\\t"
  | '\x08' => "\\b"
  | '\x0c' => "\\f"
  | c =>
    if c.toNat < 32 then
      "\\u00" ++ String.ofList [Text.Hex.digit (c.toNat / 16), Text.Hex.digit (c.toNat % 16)]
    else c.toString

def quoted (s : String) : String :=
  "\"" ++ String.join (s.toList.map escapedChar) ++ "\""

def enclosed (opening closing : String) (depth : Nat) (items : List String) : String :=
  if items = [] then opening ++ closing
  else
    let line (d : Nat) := "\n" ++ String.ofList (List.replicate (2 * d) ' ')
    opening ++ line (depth + 1) ++ String.intercalate ("," ++ line (depth + 1)) items ++
      line depth ++ closing

mutual

def textAt (depth : Nat) : Value → String
  | .null => "null"
  | .bool b => if b then "true" else "false"
  | .integer n => toString n
  | .fraction => "null"
  | .text s => quoted s
  | .list vs => enclosed "[" "]" depth (itemTexts (depth + 1) vs)
  | .record ms => enclosed "\x7b" "\x7d" depth (memberTexts (depth + 1) ms)
  | .variant tag payload =>
    enclosed "\x7b" "\x7d" depth [quoted tag ++ ": " ++ textAt (depth + 1) payload]

def itemTexts (depth : Nat) : List Value → List String
  | [] => []
  | v :: vs => textAt depth v :: itemTexts depth vs

def memberTexts (depth : Nat) : List (String × Value) → List String
  | [] => []
  | (name, v) :: ms => (quoted name ++ ": " ++ textAt depth v) :: memberTexts depth ms

end

def text (v : Value) : String :=
  textAt 0 v

end PolicyGate.Data.Json
