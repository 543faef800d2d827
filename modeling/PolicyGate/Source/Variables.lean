import PolicyGate.Source.Lexer
/-! # Numbering of variables

Authors may name variables, as in `$env`. Before a document is compiled every such name is replaced, in
the whole document, by a number: the names take, in the order of their first occurrence, the smallest
numbers that the document does not use itself. Strings and comments are left alone. The replacement
changes lengths, so places are mapped back to the author's text. -/

namespace PolicyGate.Source

inductive Piece
  /-- Text in which nothing is replaced: one character, a string or a comment. -/
  | plain (text : List Char)
  | var (name : List Char)
deriving DecidableEq, Repr

def Piece.spelling : Piece → List Char
  | plain text => text
  | var name => '$' :: name

/-- Reads a string from behind its opening quote, up to the quote that closes it. A string may run over
several lines, but no backslash stands at the end of a line. -/
def closedString? : List Char → Option (List Char × List Char)
  | [] => none
  | '\\' :: [] => none
  | '\\' :: e :: cs =>
    if e = '\n' then none
    else (closedString? cs).map fun (inside, rest) => ('\\' :: e :: inside, rest)
  | c :: cs =>
    if c = '"' then some (['"'], cs)
    else (closedString? cs).map fun (inside, rest) => (c :: inside, rest)

/-- The piece that begins with `c`, and the rest of the text. A quote that no quote closes, and a `$`
without a name, are single characters. -/
def firstPiece (c : Char) (cs : List Char) : Piece × List Char :=
  if c = '"' then
    match closedString? cs with
    | some (inside, rest) => (.plain (c :: inside), rest)
    | none => (.plain [c], cs)
  else if c = '/' ∧ cs.head? = some '/' then
    (.plain (c :: cs.takeWhile (· ≠ '\n')), cs.dropWhile (· ≠ '\n'))
  else if c = '$' ∧ cs.takeWhile isWordChar ≠ [] then
    (.var (cs.takeWhile isWordChar), cs.dropWhile isWordChar)
  else (.plain [c], cs)

theorem closedString?_tiles {cs inside rest : List Char}
    (h : closedString? cs = some (inside, rest)) : cs = inside ++ rest := by
  fun_induction closedString? cs generalizing inside rest with
  | case1 => cases h
  | case2 => cases h
  | case3 => cases h
  | case4 e cs he ih =>
    obtain ⟨⟨inside', rest'⟩, hr, h⟩ := Option.map_eq_some_iff.1 h
    cases h
    simp [ih hr]
  | case5 => cases h; rfl
  | case6 c cs h1 h2 hc ih =>
    obtain ⟨⟨inside', rest'⟩, hr, h⟩ := Option.map_eq_some_iff.1 h
    cases h
    simp [ih hr]

theorem firstPiece_tiles (c : Char) (cs : List Char) :
    c :: cs = (firstPiece c cs).1.spelling ++ (firstPiece c cs).2 := by
  unfold firstPiece
  split
  · split
    · next hs => simp [Piece.spelling, closedString?_tiles hs]
    · simp [Piece.spelling]
  split
  · simp [Piece.spelling, List.takeWhile_append_dropWhile]
  split
  · next hc => simp [Piece.spelling, hc.1, List.takeWhile_append_dropWhile]
  · simp [Piece.spelling]

theorem firstPiece_spelling_ne_nil (c : Char) (cs : List Char) :
    (firstPiece c cs).1.spelling ≠ [] := by
  unfold firstPiece
  split
  · split <;> simp [Piece.spelling]
  split
  · simp [Piece.spelling]
  split <;> simp [Piece.spelling]

def pieces (cs : List Char) : List Piece :=
  match cs with
  | [] => []
  | c :: rest => (firstPiece c rest).1 :: pieces (firstPiece c rest).2
termination_by cs.length
decreasing_by
  have h1 := congrArg List.length (firstPiece_tiles c rest)
  have h2 := List.length_pos_iff.2 (firstPiece_spelling_ne_nil c rest)
  rw [List.length_append] at h1
  omega

def variableNames (ps : List Piece) : List (List Char) :=
  ps.filterMap fun
    | .var name => some name
    | .plain _ => none

def isNumeric (name : List Char) : Bool :=
  name.all Char.isDigit

/-- The numbers given to names, in the order of first occurrence: the smallest ones that no numeric
name stands for. -/
def assignments (names : List (List Char)) : List (List Char × Nat) :=
  let symbolic := (names.filter fun n => !isNumeric n).eraseDups
  let taken := (names.filter isNumeric).map Text.digitsValue
  symbolic.zip ((List.range (symbolic.length + taken.length)).filter fun n => !taken.contains n)

/-- A replaced variable: where it stands in the new text and in the author's text, in bytes. -/
structure Edit where
  newStart : Nat
  newEnd : Nat
  oldStart : Nat
  oldEnd : Nat
deriving DecidableEq, Repr

def Piece.replaced (table : List (List Char × Nat)) (p : Piece) : List Char :=
  match p with
  | plain text => text
  | var name =>
    match table.lookup name with
    | some id => '$' :: (toString id).toList
    | none => '$' :: name

def editsFrom (table : List (List Char × Nat)) (new old : Nat) : List Piece → List Edit
  | [] => []
  | p :: ps =>
    let new' := new + Text.width (p.replaced table)
    let old' := old + Text.width p.spelling
    let rest := editsFrom table new' old' ps
    match p with
    | .plain _ => rest
    | .var name => if (table.lookup name).isSome then ⟨new, new', old, old'⟩ :: rest else rest

structure Numbered where
  text : String
  assignments : List (String × Nat)
  edits : List Edit
deriving DecidableEq, Repr

def numberVariables (document : String) : Numbered :=
  let ps := pieces document.toList
  let table := assignments (variableNames ps)
  { text := String.ofList (ps.flatMap (Piece.replaced table))
    assignments := table.map fun (name, id) => (String.ofList name, id)
    edits := editsFrom table 0 0 ps }

/-- The place in the author's text of a place in the new text. All places inside a replaced variable
come from its start. -/
def Numbered.originalOffset (n : Numbered) (offset : Nat) : Nat :=
  match (n.edits.takeWhile fun e => e.newStart ≤ offset).getLast? with
  | none => offset
  | some e => if offset < e.newEnd then e.oldStart else e.oldEnd + (offset - e.newEnd)

end PolicyGate.Source
