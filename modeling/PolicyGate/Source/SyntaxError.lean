import PolicyGate.Source.Token
/-! # Syntax errors

What a document can have wrong, and the place, in bytes, where it shows. -/

namespace PolicyGate.Source

inductive Expectation
  | token (kind : TokenKind)
  | keyword (word : String)
  | policyName
  | rulesCaveatsOrEnd
  | caveatsOrEnd
  | close
  | caveat
  | predicateName
  | term
  | literal
  | var
  | constraint
  | string
  | comparison
deriving DecidableEq, Repr

def Expectation.describe : Expectation → String
  | token kind => kind.describe
  | keyword word => "'" ++ word ++ "'"
  | policyName => "policy name string"
  | rulesCaveatsOrEnd => "'rules', 'caveats' or '\x7d'"
  | caveatsOrEnd => "'caveats' or '\x7d'"
  | close => "'\x7d'"
  | caveat => "'[' starting a caveat"
  | predicateName => "predicate name"
  | term => "term"
  | literal => "literal"
  | var => "variable"
  | constraint => "constraint"
  | string => "string"
  | comparison => "comparison operator or 'in'"

inductive SyntaxFault
  | unterminatedString
  | invalidEscape
  | expectedName (sigil : Char)
  | expectedDigits
  | integerOutOfRange (numeral : String)
  | oddDigits
  | unexpectedCharacter (c : Char)
  | unexpectedToken (expected : Expectation) (found : TokenKind)
deriving DecidableEq, Repr

def SyntaxFault.message : SyntaxFault → String
  | unterminatedString => "unterminated string"
  | invalidEscape => "invalid escape sequence"
  | expectedName sigil => "expected a name after '" ++ sigil.toString ++ "'"
  | expectedDigits => "expected digits after '-'"
  | integerOutOfRange numeral => "integer " ++ numeral ++ " out of range"
  | oddDigits => "invalid hex literal: Odd number of digits"
  | unexpectedCharacter c => "unexpected character '" ++ c.toString ++ "'"
  | unexpectedToken expected found =>
    "expected " ++ expected.describe ++ ", found " ++ found.describe

/-- A fault and the byte offset it is reported at. -/
structure SyntaxError where
  offset : Nat
  fault : SyntaxFault
deriving DecidableEq, Repr

end PolicyGate.Source
