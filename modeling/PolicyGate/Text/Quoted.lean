/-! # Quoted strings

The written form of a string in policies and facts: double quotes around the content, with a
backslash escape for the double quote, the backslash, the line feed and the tab. -/

namespace PolicyGate.Text.Quoted

def escape : List Char → List Char
  | [] => []
  | c :: cs =>
    match c with
    | '"' => '\\' :: '"' :: escape cs
    | '\\' => '\\' :: '\\' :: escape cs
    | '\n' => '\\' :: 'n' :: escape cs
    | '\t' => '\\' :: 't' :: escape cs
    | c => c :: escape cs

def unescape? : Char → Option Char
  | '"' => some '"'
  | '\\' => some '\\'
  | 'n' => some '\n'
  | 't' => some '\t'
  | _ => none

def quote (cs : List Char) : List Char :=
  '"' :: escape cs ++ ['"']

def text (s : String) : String :=
  String.ofList (quote s.toList)

end PolicyGate.Text.Quoted
