import PolicyGate.Text.Bytes
/-! # Tokens of the policy language

A policy document is a sequence of tokens, the last of which marks the end of the text. Comments are
tokens too; the tree keeps them. -/

namespace PolicyGate.Source

inductive TokenKind
  | identifier (name : String)
  | var (name : String)
  | symbol (name : String)
  /-- A string, with its escapes resolved. -/
  | string (content : String)
  | integer (value : Int64)
  | bytes (value : Bytes)
  /-- A comment from its slashes on, without the blanks at its end. -/
  | comment (text : String)
  | leftBrace
  | rightBrace
  | leftParen
  | rightParen
  | leftBracket
  | rightBracket
  | comma
  | star
  | arrow
  | atSign
  | or
  | less
  | greater
  | lessOrEqual
  | greaterOrEqual
  | equal
  | endOfDocument
deriving DecidableEq, Repr

namespace TokenKind

def describe : TokenKind → String
  | identifier name => "identifier '" ++ name ++ "'"
  | var name => "variable '$" ++ name ++ "'"
  | symbol name => "symbol '#" ++ name ++ "'"
  | string _ => "string"
  | integer value => "integer " ++ toString value.toInt
  | bytes _ => "bytes"
  | comment _ => "comment"
  | leftBrace => "'\x7b'"
  | rightBrace => "'\x7d'"
  | leftParen => "'('"
  | rightParen => "')'"
  | leftBracket => "'['"
  | rightBracket => "']'"
  | comma => "','"
  | star => "'*'"
  | arrow => "'<-'"
  | atSign => "'@'"
  | or => "'||'"
  | less => "'<'"
  | greater => "'>'"
  | lessOrEqual => "'<='"
  | greaterOrEqual => "'>='"
  | equal => "'=='"
  | endOfDocument => "end of document"

def isComment : TokenKind → Bool
  | comment _ => true
  | _ => false

end TokenKind

/-- A token and the place where it starts, in bytes. -/
structure Token where
  kind : TokenKind
  offset : Nat
deriving DecidableEq, Repr

end PolicyGate.Source
