import PolicyGate.Text.Bytes
/-! # Lines and columns

A place in a text is told to its author as a line and a column, both counted from one. -/

namespace PolicyGate.Text

/-- A place in a text; the column counts characters. -/
structure Position where
  line : Nat
  column : Nat
deriving DecidableEq, Repr

/-- The characters that stand before a byte offset. An offset past the end is the end; `none` when the
offset lies inside a character. -/
def before? : Nat → List Char → Option (List Char)
  | 0, _ => some []
  | _, [] => some []
  | offset, c :: cs =>
    if offset < c.utf8Size then none
    else (before? (offset - c.utf8Size) cs).map (c :: ·)

def Position.after (cs : List Char) : Position where
  line := cs.count '\n' + 1
  column := (cs.reverse.takeWhile (· ≠ '\n')).length + 1

/-- The position of a byte offset. An offset inside a character gives the position of the end of the
text. -/
def position (cs : List Char) (offset : Nat) : Position :=
  Position.after ((before? offset cs).getD cs)

end PolicyGate.Text
