import PolicyGate.Data.Yaml.Scalar
/-! # Places in a YAML text

A cursor holds what is left of a text, and where in the text that begins. A line ends at a line feed, or
at the separators of lines and paragraphs. -/

namespace PolicyGate.Data.Yaml

structure Cursor where
  rest : List Char
  index : Nat := 0
  line : Nat := 0
  column : Nat := 0
  /-- A block, or a key with its value, may begin here. -/
  mayOpen : Bool := true

def byteOrderMark : Char := '\ufeff'

namespace Cursor

def head? (c : Cursor) : Option Char :=
  c.rest.head?

def skip (c : Cursor) (count : Nat) : Cursor :=
  { c with rest := c.rest.drop count, index := c.index + count, column := c.column + count }

def skipLine (c : Cursor) : Cursor :=
  { c with rest := c.rest.drop 1, index := c.index + 1, line := c.line + 1, column := 0 }

def opening (c : Cursor) (mayOpen : Bool) : Cursor :=
  { c with mayOpen }

/-- The next character is a mark with a blank or nothing behind it. -/
def isMark (c : Cursor) (mark : Char) : Bool :=
  c.head? == some mark && isBlankOrEnd (c.rest.drop 1).head?

/-- A line begins here with three dashes or dots: a document begins or ends. -/
def isBoundary (c : Cursor) : Bool :=
  c.column == 0 &&
    (['-', '-', '-'].isPrefixOf c.rest || ['.', '.', '.'].isPrefixOf c.rest) &&
    isBlankOrEnd (c.rest.drop 3).head?

/-- Steps over blanks, comments and line ends, given the rest of the text. In a block, a tab may not
indent a line, and a key may begin in a new line. -/
def skipGaps (inFlow inComment : Bool) (c : Cursor) : List Char → Cursor
  | [] => { c with rest := [] }
  | x :: rest =>
    let step := { c with index := c.index + 1, column := c.column + 1 }
    if inComment && !isBreak x then skipGaps inFlow true step rest
    else if isBreak x then
      let next := { c with index := c.index + 1, line := c.line + 1, column := 0 }
      skipGaps inFlow false (if inFlow then next else next.opening true) rest
    else if x == '#' then skipGaps inFlow true step rest
    else if x == ' ' || (x == '\t' && (inFlow || !c.mayOpen)) ||
        (x == byteOrderMark && c.column == 0) then
      skipGaps inFlow false step rest
    else { c with rest := x :: rest }

def toToken (inFlow : Bool) (c : Cursor) : Cursor :=
  skipGaps inFlow false c c.rest

def skipBlanks (c : Cursor) : Cursor :=
  c.skip (c.rest.takeWhile fun x => x == ' ' || x == '\t').length

def skipGap : Nat → Cursor → Cursor
  | 0, c => c
  | fuel + 1, c =>
    match c.rest with
    | [] => c
    | x :: _ =>
      if x == ' ' || x == '\t' then skipGap fuel (c.skip 1)
      else if isBreak x then skipGap fuel c.skipLine
      else c

def upTo (first last : Cursor) : List Char :=
  first.rest.take (last.index - first.index)

end Cursor
end PolicyGate.Data.Yaml
