import PolicyGate.Data.Yaml.Cursor
/-! # Reading YAML scalars

Plain and quoted scalars may go on in further lines, whose line ends are folded. The lines of a block
scalar stand behind a margin. -/

namespace PolicyGate.Data.Yaml

/-- A gap between the words of a scalar: its blanks if it lies in one line; else one blank for a single
line feed, and its other line ends if the first of more is a line feed. -/
def foldGap (gap : List Char) : List Char :=
  match gap.filter isBreak with
  | [] => gap
  | ['\n'] => [' ']
  | '\n' :: breaks => breaks
  | breaks => breaks

/-! ## Plain scalars -/

def isFlowMark (c : Char) : Bool :=
  c == ',' || c == '[' || c == ']' || c == '\x7b' || c == '\x7d'

def mayBePlain (inFlow : Bool) (c : Cursor) : Bool :=
  match c.rest with
  | [] => false
  | x :: rest =>
    if x == '-' || (!inFlow && (x == '?' || x == ':')) then !isBlankOrEnd rest.head?
    else !(isBlankOrEnd (some x) || x == '?' || x == ':' || isIndicator x)

/-- Takes one word of a plain scalar: up to a blank, a colon before a blank, and inside brackets up to
their marks. A colon right before such a mark is refused there. -/
def plainWord? (inFlow : Bool) : List Char → Option (List Char)
  | [] => some []
  | x :: rest =>
    if isBlankOrEnd (some x) then some []
    else if x == ':' && isBlankOrEnd rest.head? then some []
    else if inFlow && x == ':' && rest.head?.any (fun y => isFlowMark y || y == '?') then none
    else if inFlow && isFlowMark x then some []
    else (plainWord? inFlow rest).map (x :: ·)

/-- Behind a line end of a gap, a tab stands where only blanks may indent. -/
def tabIndents (block : Int) : Option Nat → List Char → Bool
  | _, [] => false
  | some k, '\t' :: cs => (k : Int) ≤ block || tabIndents block (some (k + 1)) cs
  | k, c :: cs => tabIndents block (if isBreak c then some 0 else k.map (· + 1)) cs

/-- Takes the words of a plain scalar. Outside brackets, further lines stand further right than the
block that holds the scalar. -/
def plainWords? (inFlow : Bool) (block : Int) : Nat → Cursor → Option (List Char × Cursor)
  | 0, _ => none
  | fuel + 1, c => do
    let word ← plainWord? inFlow c.rest
    let last := c.skip word.length
    let next := last.skipGap last.rest.length
    let gap := last.upTo next
    let crossed := gap.any isBreak
    let next := next.opening crossed
    if tabIndents block none gap then none
    else if gap.isEmpty || next.rest.isEmpty || next.isBoundary || next.head? == some '#' ||
        (!inFlow && (next.column : Int) ≤ block) then
      return (word, next)
    else
      let (more, last) ← plainWords? inFlow block fuel next
      return if more.isEmpty then (word, next) else (word ++ foldGap gap ++ more, last)

/-! ## Quoted scalars -/

def escapeLetter? : Char → Option Char
  | '0' => some '\x00'
  | 'a' => some '\x07'
  | 'b' => some '\x08'
  | 't' => some '\t'
  | '\t' => some '\t'
  | 'n' => some '\n'
  | 'v' => some '\x0b'
  | 'f' => some '\x0c'
  | 'r' => some '\r'
  | 'e' => some '\x1b'
  | ' ' => some ' '
  | '"' => some '"'
  | '/' => some '/'
  | '\\' => some '\\'
  | 'N' => some '\u0085'
  | '_' => some '\u00a0'
  | 'L' => some '\u2028'
  | 'P' => some '\u2029'
  | _ => none

def escapeLength? : Char → Option Nat
  | 'x' => some 2
  | 'u' => some 4
  | 'U' => some 8
  | _ => none

def character? (n : Nat) : Option Char :=
  if n < 0xD800 ∨ (0xE000 ≤ n ∧ n < 0x110000) then some (Char.ofNat n) else none

def escape? : List Char → Option (Char × Nat)
  | [] => none
  | x :: rest =>
    match escapeLetter? x, escapeLength? x with
    | some y, _ => some (y, 1)
    | none, some count => do
      if rest.length < count then none
      else return (← character? (← digitsIn? 16 (rest.take count)), 1 + count)
    | none, none => none

def quotedRest? (quote : Char) : Nat → Cursor → Option (List Char × Cursor)
  | 0, _ => none
  | fuel + 1, c => do
    if c.isBoundary then none
    else if c.head? == some quote then
      if quote == '\'' && (c.rest.drop 1).head? == some '\'' then
        let (more, last) ← quotedRest? quote fuel (c.skip 2)
        return ('\'' :: more, last)
      else return ([], (c.skip 1).opening false)
    else if quote == '"' && c.head? == some '\\' && (c.rest.drop 1).head?.any isBreak then
      let line := (c.skip 1).skipLine
      let next := line.skipGap line.rest.length
      let (more, last) ← quotedRest? quote fuel next
      return ((line.upTo next).filter isBreak ++ more, last)
    else if quote == '"' && c.head? == some '\\' then
      let (x, count) ← escape? (c.rest.drop 1)
      let (more, last) ← quotedRest? quote fuel (c.skip (1 + count))
      return (x :: more, last)
    else
      let next := c.skipGap c.rest.length
      let gap := c.upTo next
      if gap.isEmpty then
        let x ← c.head?
        let (more, last) ← quotedRest? quote fuel (c.skip 1)
        return (x :: more, last)
      else
        let (more, last) ← quotedRest? quote fuel next
        return (foldGap gap ++ more, last)

/-! ## Block scalars -/

inductive Chomping
  | strip
  | clip
  | keep
deriving DecidableEq

def indentDigit? (d : Char) : Option Nat :=
  if d.isDigit ∧ d ≠ '0' then some (d.toNat - '0'.toNat) else none

/-- Reads the signs behind the mark of a block scalar: one for chomping and a digit for the
indentation, in any order. -/
def blockSigns? : List Char → Option (Chomping × Option Nat)
  | [] => some (.clip, none)
  | ['-'] => some (.strip, none)
  | ['+'] => some (.keep, none)
  | [d] => do return (.clip, some (← indentDigit? d))
  | ['-', d] => do return (.strip, some (← indentDigit? d))
  | ['+', d] => do return (.keep, some (← indentDigit? d))
  | [d, '-'] => do return (.strip, some (← indentDigit? d))
  | [d, '+'] => do return (.keep, some (← indentDigit? d))
  | _ => none

/-- A line of a text, with the line end behind it; the last line has none. -/
structure Line where
  text : List Char
  ending : List Char
deriving DecidableEq

namespace Line

/-- Cuts a text behind its line ends; there is one line more than line ends. -/
def ofText : List Char → List Line
  | [] => [⟨[], []⟩]
  | c :: cs =>
    if isBreak c then ⟨[], [c]⟩ :: ofText cs
    else
      match ofText cs with
      | [] => [⟨[c], []⟩]
      | line :: lines => { line with text := c :: line.text } :: lines

def margin (line : Line) : Nat :=
  (line.text.takeWhile (· == ' ')).length

def isBlank (line : Line) : Bool :=
  line.text.all (· == ' ')

def hasTabAtMargin (line : Line) : Bool :=
  (line.text.drop line.margin).head? == some '\t'

def isEmpty (line : Line) : Bool :=
  line.text.isEmpty

def isIndented (line : Line) : Bool :=
  line.text.head?.any fun x => x == ' ' || x == '\t'

end Line

def endings (lines : List Line) : List Char :=
  lines.flatMap (·.ending)

/-- Joins lines, of which the first is not empty, without the last line end. In a folded block a line
feed becomes a blank, or goes if empty lines follow it, unless a line beside it begins with a blank. -/
def joinLines (isFolded : Bool) (line : Line) : List Line → List Char
  | lines =>
    let empties := lines.takeWhile (·.isEmpty)
    match h : lines.drop empties.length with
    | [] => line.text
    | next :: rest =>
      have : rest.length < lines.length := by
        have := congrArg List.length h
        simp at this; omega
      let gap :=
        if !isFolded || line.ending ≠ ['\n'] || line.isIndented || next.isIndented then
          line.ending ++ endings empties
        else if empties.isEmpty then [' ']
        else endings empties
      line.text ++ gap ++ joinLines isFolded next rest
  termination_by lines => lines.length

def blockText (isFolded : Bool) (chomping : Chomping) (lines : List Line) : List Char :=
  let leading := lines.takeWhile (·.isEmpty)
  let trailing := lines.reverse.takeWhile (·.isEmpty)
  match lines.drop leading.length with
  | [] => if chomping = .keep then endings lines else []
  | line :: rest =>
    let shown := rest.take (rest.length - trailing.length)
    let last := (shown.getLast?.getD line).ending
    let kept := match chomping with
      | .strip => []
      | .clip => last
      | .keep => last ++ endings trailing.reverse
    endings leading ++ joinLines isFolded line shown ++ kept

def Cursor.overLines (c : Cursor) (lines : List Line) : Cursor :=
  lines.foldl (fun c line =>
    let c := c.skip line.text.length
    if line.ending.isEmpty then c else c.skipLine) c

/-- Takes a block scalar at its mark. Its margin is given by a digit, or by the longest of its first
lines up to one that is not empty, which no tab may indent; it lies further right than the block around
it. -/
def blockScalar? (block : Int) (c : Cursor) : Option (List Char × Cursor) := do
  let header := c.rest.takeWhile (!isBreak ·)
  let signs := (header.drop 1).takeWhile fun x => !isBlankOrEnd (some x) && x != '#'
  let (chomping, digit) ← blockSigns? signs
  let trailer := (header.drop (1 + signs.length)).dropWhile fun x => x == ' ' || x == '\t'
  let last := c.skip header.length
  let start := if last.rest.isEmpty then last else last.skipLine
  let lines := Line.ofText start.rest
  let leading := lines.takeWhile (·.isBlank)
  let first := leading ++ (lines.drop leading.length).take 1
  if !trailer.isEmpty && trailer.head? != some '#' then none
  else if digit.isNone && first.any (·.hasTabAtMargin) then none
  else
    let widest := (first.map (·.margin)).foldl max 0
    let indent := match digit with
      | some d => (max block 0).toNat + d
      | none => max (max widest (block + 1).toNat) 1
    let taken := lines.takeWhile fun line => indent ≤ line.margin || line.isBlank
    let text := blockText (c.head? == some '>') chomping
      (taken.map fun line => { line with text := line.text.drop indent })
    return (text, (start.overLines taken).opening true)

end PolicyGate.Data.Yaml
