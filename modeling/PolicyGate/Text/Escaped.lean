import PolicyGate.Text.Hex
import PolicyGate.Text.Letters
/-! # Escaped strings

The form in which paths and other names stand in messages: double quotes around the content, with
escapes for quotes, backslashes, control characters and everything else that has no visible form of its
own. -/

namespace PolicyGate.Text.Escaped

def hexDigits : Nat → Nat → List Char
  | 0, _ => []
  | count + 1, n => if n < 16 then [Hex.digit n] else hexDigits count (n / 16) ++ [Hex.digit (n % 16)]

def isVisible (c : Char) : Bool :=
  if c.toNat < 128 then 32 ≤ c.toNat && c.toNat < 127 else !inRanges hiddenRanges c

def escape (c : Char) : List Char :=
  match c with
  | '\x00' => ['\\', '0']
  | '\t' => ['\\', 't']
  | '\r' => ['\\', 'r']
  | '\n' => ['\\', 'n']
  | '"' => ['\\', '"']
  | '\\' => ['\\', '\\']
  | c => if isVisible c then [c] else ['\\', 'u', '{'] ++ hexDigits 6 c.toNat ++ ['}']

def text (s : String) : String :=
  String.ofList ('"' :: s.toList.flatMap escape ++ ['"'])

/-- One character of a path: as in a string, and the single quote is escaped too. -/
def escapeInPath (c : Char) : List Char :=
  if c = '\x27' then ['\\', c] else escape c

def pathText (path : String) : String :=
  String.ofList ('"' :: path.toList.flatMap escapeInPath ++ ['"'])

end PolicyGate.Text.Escaped
