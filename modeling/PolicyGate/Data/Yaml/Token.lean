import PolicyGate.Text.Bytes
/-! # YAML tokens

The tokens of which a YAML text consists. Where blocks begin and end is told by the indentation of their
lines, and where a key begins by the colon behind it; among the tokens both have signs of their own. -/

namespace PolicyGate.Data.Yaml

inductive Token
  | version (major minor : Nat)
  | handle (name : String) (meaning : Bytes)
  | documentStart
  | documentEnd
  | listStart
  | recordStart
  | blockEnd
  | bracketOpen
  | bracketClose
  | braceOpen
  | braceClose
  | dash
  | comma
  | key
  | value
  | alias (name : String)
  | anchor (name : String)
  /-- A tag: a handle, which is empty where the tag is written in full, and what follows it. -/
  | tag (handle : String) (suffix : Bytes)
  | scalar (text : String) (isPlain : Bool)
deriving DecidableEq, Repr

end PolicyGate.Data.Yaml
