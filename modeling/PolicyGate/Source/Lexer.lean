import PolicyGate.Source.SyntaxError
import PolicyGate.Text.Blank
import PolicyGate.Text.Decimal
import PolicyGate.Text.Hex
import PolicyGate.Text.Quoted
/-! # From text to tokens

`scan` reads the one token that a text begins with and splits the text into the spelling of that token
and the rest; `tokenize` repeats it between blanks. The spelling is never empty, which bounds the
repetition. -/

namespace PolicyGate.Source

def isWordChar (c : Char) : Bool :=
  c.isAlphanum || c == '_'

structure Scanned where
  kind : TokenKind
  spelling : List Char
  rest : List Char

/-- A fault, reported a number of bytes behind the start of the token. -/
structure ScanFault where
  distance : Nat
  fault : SyntaxFault
deriving DecidableEq, Repr

abbrev Scan := Except ScanFault Scanned

def Scan.refuse (fault : SyntaxFault) : Scan :=
  .error ⟨0, fault⟩

def scanComment (cs : List Char) : Scanned :=
  let line := cs.takeWhile (· ≠ '\n')
  { kind := .comment (String.ofList (Text.trimEnd line)), spelling := line
    rest := cs.dropWhile (· ≠ '\n') }

/-- Reads a string from behind its opening quote, `distance` bytes behind the start of the token. Gives
the content, the spelling and the rest. -/
def scanContent (distance : Nat) :
    List Char → Except ScanFault (List Char × List Char × List Char)
  | [] => .error ⟨0, .unterminatedString⟩
  | '\\' :: [] => .error ⟨distance, .invalidEscape⟩
  | '\\' :: e :: cs =>
    match Text.Quoted.unescape? e with
    | some c =>
      (scanContent (distance + 2) cs).map fun (content, spelling, rest) =>
        (c :: content, '\\' :: e :: spelling, rest)
    | none => .error ⟨distance + e.utf8Size, .invalidEscape⟩
  | c :: cs =>
    if c = '\n' then .error ⟨0, .unterminatedString⟩
    else if c = '"' then .ok ([], ['"'], cs)
    else
      (scanContent (distance + c.utf8Size) cs).map fun (content, spelling, rest) =>
        (c :: content, c :: spelling, rest)

def scanString (cs : List Char) : Scan :=
  (scanContent 1 cs).map fun (content, spelling, rest) =>
    { kind := .string (String.ofList content), spelling := '"' :: spelling, rest }

def scanName (sigil : Char) (cs : List Char) : Scan :=
  let word := cs.takeWhile isWordChar
  if word = [] then Scan.refuse (.expectedName sigil)
  else
    let name := String.ofList word
    .ok { kind := if sigil = '$' then .var name else .symbol name
          spelling := sigil :: word, rest := cs.dropWhile isWordChar }

def integer? (negative : Bool) (digits : List Char) : Option Int64 :=
  let value : Int := if negative then -(Text.digitsValue digits : Int) else Text.digitsValue digits
  if Int64.minValue.toInt ≤ value ∧ value ≤ Int64.maxValue.toInt then some (Int64.ofInt value) else none

def scanInteger (c : Char) (cs : List Char) : Scan :=
  let digits := cs.takeWhile Char.isDigit
  if c = '-' ∧ digits = [] then Scan.refuse .expectedDigits
  else
    match integer? (c == '-') (if c = '-' then digits else c :: digits) with
    | some value =>
      .ok { kind := .integer value, spelling := c :: digits, rest := cs.dropWhile Char.isDigit }
    | none => Scan.refuse (.integerOutOfRange (String.ofList (c :: digits)))

/-- Reads an identifier, or a byte literal when the word is `hex` and a colon follows. -/
def scanWord (c : Char) (cs : List Char) : Scan :=
  let word := c :: cs.takeWhile isWordChar
  let identifier : Scanned :=
    { kind := .identifier (String.ofList word), spelling := word, rest := cs.dropWhile isWordChar }
  if word = ['h', 'e', 'x'] then
    match cs.dropWhile isWordChar with
    | ':' :: rest =>
      let digits := rest.takeWhile Text.Hex.isDigit
      match Text.Hex.decode? digits with
      | some value =>
        .ok { kind := .bytes value, spelling := word ++ ':' :: digits
              rest := rest.dropWhile Text.Hex.isDigit }
      | none => Scan.refuse .oddDigits
    | _ => .ok identifier
  else .ok identifier

def pairKind? : Char → Char → Option TokenKind
  | '<', '-' => some .arrow
  | '<', '=' => some .lessOrEqual
  | '>', '=' => some .greaterOrEqual
  | '=', '=' => some .equal
  | '|', '|' => some .or
  | _, _ => none

def signKind? : Char → Option TokenKind
  | '<' => some .less
  | '>' => some .greater
  | '{' => some .leftBrace
  | '}' => some .rightBrace
  | '(' => some .leftParen
  | ')' => some .rightParen
  | '[' => some .leftBracket
  | ']' => some .rightBracket
  | ',' => some .comma
  | '*' => some .star
  | '@' => some .atSign
  | _ => none

def scanSingle (c : Char) (cs : List Char) : Scan :=
  match signKind? c with
  | some kind => .ok { kind, spelling := [c], rest := cs }
  | none => Scan.refuse (.unexpectedCharacter c)

/-- Reads a token of one or two signs, two where they fit. -/
def scanSign (c : Char) : List Char → Scan
  | [] => scanSingle c []
  | d :: cs =>
    match pairKind? c d with
    | some kind => .ok { kind, spelling := [c, d], rest := cs }
    | none => scanSingle c (d :: cs)

def scan (c : Char) (cs : List Char) : Scan :=
  if c = '/' ∧ cs.head? = some '/' then .ok (scanComment (c :: cs))
  else if c = '"' then scanString cs
  else if c = '$' ∨ c = '#' then scanName c cs
  else if c = '-' ∨ c.isDigit then scanInteger c cs
  else if c.isAlpha ∨ c = '_' then scanWord c cs
  else scanSign c cs

theorem scanContent_rest {distance : Nat} {cs content spelling rest : List Char}
    (h : scanContent distance cs = .ok (content, spelling, rest)) : cs = spelling ++ rest := by
  fun_induction scanContent distance cs generalizing content spelling rest with
  | case1 => cases h
  | case2 => cases h
  | case3 d e cs c hc ih =>
    cases hs : scanContent (d + 2) cs with
    | error f => rw [hs] at h; cases h
    | ok r =>
      rw [hs] at h
      obtain ⟨content', spelling', rest'⟩ := r
      cases h
      simp [ih hs]
  | case4 => cases h
  | case5 => cases h
  | case6 d cs => cases h; rfl
  | case7 d c cs h1 h2 hn hq ih =>
    cases hs : scanContent (d + c.utf8Size) cs with
    | error f => rw [hs] at h; cases h
    | ok r =>
      rw [hs] at h
      obtain ⟨content', spelling', rest'⟩ := r
      cases h
      simp [ih hs]

theorem scanSingle_tiles {c : Char} {cs : List Char} {s : Scanned} (h : scanSingle c cs = .ok s) :
    c :: cs = s.spelling ++ s.rest ∧ s.spelling ≠ [] := by
  unfold scanSingle at h
  split at h
  · cases h; simp
  · cases h

theorem scanString_tiles {cs : List Char} {s : Scanned} (h : scanString cs = .ok s) :
    '"' :: cs = s.spelling ++ s.rest ∧ s.spelling ≠ [] := by
  unfold scanString at h
  cases hs : scanContent 1 cs with
  | error f => rw [hs] at h; cases h
  | ok r =>
    rw [hs] at h
    cases h
    simp [scanContent_rest hs]

theorem scanName_tiles {c : Char} {cs : List Char} {s : Scanned} (h : scanName c cs = .ok s) :
    c :: cs = s.spelling ++ s.rest ∧ s.spelling ≠ [] := by
  unfold scanName at h
  dsimp only at h
  split at h
  · cases h
  · cases h; simp [List.takeWhile_append_dropWhile]

theorem scanInteger_tiles {c : Char} {cs : List Char} {s : Scanned} (h : scanInteger c cs = .ok s) :
    c :: cs = s.spelling ++ s.rest ∧ s.spelling ≠ [] := by
  unfold scanInteger at h
  dsimp only at h
  split at h
  · cases h
  · split at h
    · cases h; simp [List.takeWhile_append_dropWhile]
    · cases h

theorem scanWord_tiles {c : Char} {cs : List Char} {s : Scanned} (h : scanWord c cs = .ok s) :
    c :: cs = s.spelling ++ s.rest ∧ s.spelling ≠ [] := by
  have tiles := List.takeWhile_append_dropWhile (p := isWordChar) (l := cs)
  unfold scanWord at h
  dsimp only at h
  split at h
  · split at h
    · next rest hr =>
      split at h
      · cases h
        rw [hr] at tiles
        simp [List.takeWhile_append_dropWhile, tiles]
      · cases h
    · cases h; simp [tiles]
  · cases h; simp [tiles]

theorem scanSign_tiles {c : Char} {cs : List Char} {s : Scanned} (h : scanSign c cs = .ok s) :
    c :: cs = s.spelling ++ s.rest ∧ s.spelling ≠ [] := by
  unfold scanSign at h
  split at h
  · exact scanSingle_tiles h
  · split at h
    · cases h; simp
    · exact scanSingle_tiles h

theorem scan_tiles {c : Char} {cs : List Char} {s : Scanned} (h : scan c cs = .ok s) :
    c :: cs = s.spelling ++ s.rest ∧ s.spelling ≠ [] := by
  unfold scan at h
  split at h
  · next hc =>
    cases h
    simp [scanComment, hc.1, List.takeWhile_append_dropWhile]
  split at h
  · next hc => exact hc ▸ scanString_tiles h
  split at h
  · exact scanName_tiles h
  split at h
  · exact scanInteger_tiles h
  split at h
  · exact scanWord_tiles h
  · exact scanSign_tiles h

theorem length_dropWhile_le (p : Char → Bool) (cs : List Char) :
    (cs.dropWhile p).length ≤ cs.length := by
  have h := congrArg List.length (List.takeWhile_append_dropWhile (p := p) (l := cs))
  rw [List.length_append] at h
  omega

/-- The tokens of a text that starts at byte `pos` of its document. -/
def tokensFrom (pos : Nat) (cs : List Char) : Except SyntaxError (List Token) :=
  let start := pos + Text.width (cs.takeWhile Text.isBlank)
  match hc : cs.dropWhile Text.isBlank with
  | [] => .ok [⟨.endOfDocument, start⟩]
  | c :: rest =>
    match hs : scan c rest with
    | .error f => .error ⟨start + f.distance, f.fault⟩
    | .ok s =>
      match tokensFrom (start + Text.width s.spelling) s.rest with
      | .error e => .error e
      | .ok ts => .ok (⟨s.kind, start⟩ :: ts)
termination_by cs.length
decreasing_by
  have h1 := congrArg List.length (scan_tiles hs).1
  have h2 := List.length_pos_iff.2 (scan_tiles hs).2
  have h3 := length_dropWhile_le Text.isBlank cs
  rw [hc] at h3
  rw [List.length_append] at h1
  omega

/-- The tokens of a document; the last one, and only it, is the end of the document. -/
def tokenize (document : String) : Except SyntaxError (List Token) :=
  tokensFrom 0 document.toList

end PolicyGate.Source
