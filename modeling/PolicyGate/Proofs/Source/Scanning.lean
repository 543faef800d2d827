import PolicyGate.Proofs.Text.Numerals
import PolicyGate.Proofs.Text.Runs
import PolicyGate.Source.Lexer

/-!
# Tokens and their spellings

A token is read off any spelling of it, as long as the text behind does not go on with it. `Scans` says
this of one spelling. It holds of every spelling that is found in a text (`scan_scans`) and of the
canonical one (`scans_spelling`).
-/

namespace PolicyGate.Source

open Text (takeWhile_run dropWhile_run of_mem_takeWhile head?_dropWhile_stop mem_of_mem_trimEnd trimEnd_cons
  trimEnd_trimEnd)

/-! ## Kinds of tokens that texts can hold -/

def IsWord (cs : List Char) : Prop :=
  cs ≠ [] ∧ ∀ c ∈ cs, isWordChar c = true

def IsIdentifier (cs : List Char) : Prop :=
  IsWord cs ∧ ∀ c ∈ cs.head?, c.isAlpha = true ∨ c = '_'

/-- A comment begins with two slashes, keeps to its line and has no blanks at its end. -/
def IsCommentText (cs : List Char) : Prop :=
  ['/', '/'] <+: cs ∧ '\n' ∉ cs ∧ Text.trimEnd cs = cs

def TokenKind.IsWritten : TokenKind → Prop
  | identifier name => IsIdentifier name.toList
  | var name | symbol name => IsWord name.toList
  | comment text => IsCommentText text.toList
  | endOfDocument => False
  | _ => True

def TokenKind.spelling : TokenKind → List Char
  | identifier name => name.toList
  | var name => '$' :: name.toList
  | symbol name => '#' :: name.toList
  | string content => Text.Quoted.quote content.toList
  | integer value => (toString value.toInt).toList
  | bytes value => 'h' :: 'e' :: 'x' :: ':' :: Text.Hex.encode value
  | comment text => text.toList
  | leftBrace => ['{']
  | rightBrace => ['}']
  | leftParen => ['(']
  | rightParen => [')']
  | leftBracket => ['[']
  | rightBracket => [']']
  | comma => [',']
  | star => ['*']
  | arrow => ['<', '-']
  | atSign => ['@']
  | or => ['|', '|']
  | less => ['<']
  | greater => ['>']
  | lessOrEqual => ['<', '=']
  | greaterOrEqual => ['>', '=']
  | equal => ['=', '=']
  | endOfDocument => []

/-- A character that goes on with a token when it stands right behind it. -/
def TokenKind.extendedBy : TokenKind → Char → Bool
  | identifier name, c => isWordChar c || (name == "hex" && c == ':')
  | var _, c | symbol _, c => isWordChar c
  | integer _, c => c.isDigit
  | bytes _, c => Text.Hex.isDigit c
  | comment _, c => c != '\n'
  | less, c => c == '-' || c == '='
  | greater, c => c == '='
  | string _, _ | leftBrace, _ | rightBrace, _ | leftParen, _ | rightParen, _ | leftBracket, _
  | rightBracket, _ | comma, _ | star, _ | arrow, _ | atSign, _ | or, _ | lessOrEqual, _
  | greaterOrEqual, _ | equal, _ | endOfDocument, _ => false

/-- The text `rest` does not go on with a token of kind `k`. -/
def Apart (k : TokenKind) (rest : List Char) : Prop :=
  ∀ c ∈ rest.head?, k.extendedBy c = false

theorem apart_nil (k : TokenKind) : Apart k [] := by
  intro c hc; cases hc

theorem Apart.of_head? {k : TokenKind} {rest rest' : List Char} (h : Apart k rest)
    (hh : rest'.head? = rest.head?) : Apart k rest' := by
  intro c hc
  exact h c (hh ▸ hc)

/-- A token of kind `k` is read off its spelling wherever the text behind stays apart. -/
structure Scans (spelling : List Char) (k : TokenKind) : Prop where
  written : k.IsWritten
  reads : ∃ c cs, spelling = c :: cs ∧ ∀ rest, Apart k rest →
    scan c (cs ++ rest) = .ok { kind := k, spelling, rest }

/-! ## Names, comments and signs -/

theorem scans_comment {line : List Char} (h : ['/', '/'] <+: line) (hn : '\n' ∉ line) :
    Scans line (.comment (String.ofList (Text.trimEnd line))) := by
  obtain ⟨cs, rfl⟩ := h
  have hb : Text.isBlank '/' = false := by decide
  constructor
  · simp only [TokenKind.IsWritten, IsCommentText, String.toList_ofList]
    refine ⟨⟨Text.trimEnd cs, ?_⟩, fun hc => hn (mem_of_mem_trimEnd hc), trimEnd_trimEnd _⟩
    show _ = Text.trimEnd ('/' :: '/' :: cs)
    rw [trimEnd_cons hb, trimEnd_cons hb]
    rfl
  · refine ⟨'/', '/' :: cs, rfl, fun rest hr => ?_⟩
    have hall : ∀ c ∈ '/' :: '/' :: cs, decide (c ≠ '\n') = true := by
      intro c hc
      exact decide_eq_true fun e => hn (e ▸ hc)
    have hstop : ∀ c ∈ rest.head?, decide (c ≠ '\n') = false := by
      intro c hc
      simpa [TokenKind.extendedBy] using hr c hc
    have take := takeWhile_run hall hstop
    have drop := dropWhile_run hall hstop
    simp only [List.cons_append] at take drop
    unfold scan scanComment
    rw [if_pos ⟨rfl, rfl⟩]
    simp only [List.cons_append, List.nil_append, take, drop]

theorem scan_sigil {c : Char} (hc : c = '$' ∨ c = '#') (cs : List Char) :
    scan c cs = scanName c cs := by
  rcases hc with rfl | rfl <;> simp [scan]

theorem scanName_run {c : Char} {word rest : List Char} (hw : IsWord word)
    (hr : ∀ d ∈ rest.head?, isWordChar d = false) :
    scanName c (word ++ rest) =
      .ok { kind := if c = '$' then .var (String.ofList word) else .symbol (String.ofList word)
            spelling := c :: word, rest } := by
  unfold scanName
  simp only [takeWhile_run hw.2 hr, dropWhile_run hw.2 hr, if_neg hw.1]

theorem scans_var {word : List Char} (hw : IsWord word) :
    Scans ('$' :: word) (.var (String.ofList word)) := by
  refine ⟨by simpa [TokenKind.IsWritten] using hw, '$', word, rfl, fun rest hr => ?_⟩
  rw [scan_sigil (.inl rfl), scanName_run hw hr]
  rfl

theorem scans_symbol {word : List Char} (hw : IsWord word) :
    Scans ('#' :: word) (.symbol (String.ofList word)) := by
  refine ⟨by simpa [TokenKind.IsWritten] using hw, '#', word, rfl, fun rest hr => ?_⟩
  rw [scan_sigil (.inr rfl), scanName_run hw hr]
  rfl

theorem isAlpha_iff {c : Char} :
    c.isAlpha = true ↔ (65 ≤ c.toNat ∧ c.toNat ≤ 90) ∨ (97 ≤ c.toNat ∧ c.toNat ≤ 122) := by
  have parts : c.isAlpha =
      (decide (65 ≤ c.val ∧ c.val ≤ 90) || (decide (97 ≤ c.val) && decide (c.val ≤ 122))) := rfl
  rw [parts]
  simp [UInt32.le_iff_toNat_le]

theorem isDigit_iff {c : Char} : c.isDigit = true ↔ 48 ≤ c.toNat ∧ c.toNat ≤ 57 :=
  Char.isDigit_iff_toNat

theorem scan_word {c : Char} (hc : c.isAlpha = true ∨ c = '_') (cs : List Char) :
    scan c cs = scanWord c cs := by
  have hd : c.isDigit = false := by
    rcases hc with hc | rfl
    · refine Bool.eq_false_iff.mpr fun digit => ?_
      rw [isAlpha_iff] at hc
      rw [isDigit_iff] at digit
      omega
    · decide
  -- no other test of the scanner looks for a letter or an underscore
  have hne : ∀ d : Char, d.isAlpha = false → d ≠ '_' → c ≠ d := by
    rintro d h1 h2 rfl
    rcases hc with hc | hc
    · rw [hc] at h1; cases h1
    · exact h2 hc
  have hslash := hne '/' (by decide) (by decide)
  have hquote := hne '"' (by decide) (by decide)
  have hdollar := hne '$' (by decide) (by decide)
  have hhash := hne '#' (by decide) (by decide)
  have hminus := hne '-' (by decide) (by decide)
  simp only [scan, hslash, hquote, hdollar, hhash, hminus, hd, hc, false_and, or_self, if_false,
    if_true, Bool.false_eq_true]

theorem isWordChar_of_first {c : Char} (hc : c.isAlpha = true ∨ c = '_') :
    isWordChar c = true := by
  rcases hc with hc | rfl
  · simp [isWordChar, Char.isAlphanum, hc]
  · decide

theorem scans_identifier {word : List Char} (hw : IsIdentifier word) :
    Scans word (.identifier (String.ofList word)) := by
  refine ⟨by simpa [TokenKind.IsWritten] using hw, ?_⟩
  obtain ⟨⟨hne, hall⟩, hfirst⟩ := hw
  obtain ⟨c, cs, rfl⟩ := List.exists_cons_of_ne_nil hne
  refine ⟨c, cs, rfl, fun rest hr => ?_⟩
  have hcs : ∀ d ∈ cs, isWordChar d = true := fun d hd => hall d (List.mem_cons_of_mem _ hd)
  have hstop : ∀ d ∈ rest.head?, isWordChar d = false := by
    intro d hd
    have := hr d hd
    simp only [TokenKind.extendedBy, Bool.or_eq_false_iff] at this
    exact this.1
  rw [scan_word (hfirst c rfl)]
  unfold scanWord
  simp only [takeWhile_run hcs hstop, dropWhile_run hcs hstop]
  split
  · next hx =>
    -- a colon behind `hex` would go on with it
    split
    · have := hr ':' rfl
      simp only [TokenKind.extendedBy, hx, Bool.or_eq_false_iff] at this
      exact absurd this.2 (by decide)
    · rfl
  · rfl

theorem scans_bytes {digits : List Char} {value : Bytes} (hd : ∀ c ∈ digits, Text.Hex.isDigit c = true)
    (hv : Text.Hex.decode? digits = some value) :
    Scans ('h' :: 'e' :: 'x' :: ':' :: digits) (.bytes value) := by
  refine ⟨trivial, 'h', 'e' :: 'x' :: ':' :: digits, rfl, fun rest hr => ?_⟩
  rw [scan_word (.inl (by decide))]
  have hcs : ∀ c ∈ ['e', 'x'], isWordChar c = true := List.all_eq_true.mp rfl
  have hstop : ∀ c ∈ (':' :: (digits ++ rest)).head?, isWordChar c = false := by
    rintro c hc; cases hc; decide
  have take := takeWhile_run hcs hstop
  have drop := dropWhile_run hcs hstop
  simp only [List.cons_append, List.nil_append] at take drop
  unfold scanWord
  simp only [List.cons_append, take, drop, if_true, takeWhile_run hd hr, dropWhile_run hd hr, hv,
    List.nil_append]

/-! ## Integers -/

theorem scan_integer {c : Char} (hc : c = '-' ∨ c.isDigit = true) (cs : List Char) :
    scan c cs = scanInteger c cs := by
  have hne : ∀ d : Char, d.isDigit = false → d ≠ '-' → c ≠ d := by
    rintro d h1 h2 rfl
    rcases hc with hc | hc
    · exact h2 hc
    · rw [hc] at h1; cases h1
  have hslash := hne '/' (by decide) (by decide)
  have hquote := hne '"' (by decide) (by decide)
  have hdollar := hne '$' (by decide) (by decide)
  have hhash := hne '#' (by decide) (by decide)
  simp only [scan, hslash, hquote, hdollar, hhash, hc, false_and, or_self, if_false, if_true]

theorem scans_integer {c : Char} {digits : List Char} {value : Int64}
    (hc : c = '-' ∧ digits ≠ [] ∨ c.isDigit = true) (hd : ∀ d ∈ digits, d.isDigit = true)
    (hv : integer? (c == '-') (if c = '-' then digits else c :: digits) = some value) :
    Scans (c :: digits) (.integer value) := by
  refine ⟨trivial, c, digits, rfl, fun rest hr => ?_⟩
  have hn : ¬ (c = '-' ∧ digits = []) := by
    rintro ⟨rfl, rfl⟩
    rcases hc with ⟨_, hc⟩ | hc
    · exact hc rfl
    · revert hc; decide
  rw [scan_integer (hc.imp_left And.left)]
  unfold scanInteger
  simp only [takeWhile_run hd hr, dropWhile_run hd hr, if_neg hn, hv]

theorem integer?_some {negative : Bool} {digits : List Char} {value : Int64}
    (h : (if negative then -(Text.digitsValue digits : Int) else Text.digitsValue digits) = value.toInt) :
    integer? negative digits = some value := by
  unfold integer?
  simp only [h]
  rw [if_pos ⟨Int64.le_toInt value, Int64.toInt_le value⟩, Int64.ofInt_toInt]

theorem scans_integer_spelling (value : Int64) :
    Scans (TokenKind.integer value).spelling (.integer value) := by
  show Scans (toString value.toInt).toList _
  rw [Int.toString_eq_repr, Int.repr_eq_if]
  split
  · next hp =>
    obtain ⟨c, digits, hcs⟩ := List.exists_cons_of_ne_nil (Text.repr_ne_nil value.toInt.toNat)
    have hall : ∀ d ∈ c :: digits, d.isDigit = true := by
      rw [← hcs]; exact fun d hd => Text.isDigit_of_mem_repr hd
    have hc : c ≠ '-' := by
      rintro rfl
      exact absurd (hall '-' List.mem_cons_self) (by decide)
    rw [hcs]
    refine scans_integer (.inr (hall c List.mem_cons_self))
      (fun d hd => hall d (List.mem_cons_of_mem _ hd)) (integer?_some ?_)
    rw [if_neg hc, ← hcs, Text.digitsValue_repr]
    simp only [beq_eq_false_iff_ne.mpr hc, Bool.false_eq_true, if_false]
    exact Int.toNat_of_nonneg hp
  · next hp =>
    rw [String.toList_append]
    show Scans ('-' :: (-value.toInt).toNat.repr.toList) _
    refine scans_integer (.inl ⟨rfl, Text.repr_ne_nil _⟩) (fun d hd => Text.isDigit_of_mem_repr hd)
      (integer?_some ?_)
    rw [if_pos rfl, Text.digitsValue_repr]
    simp only [beq_self_eq_true, if_true]
    omega

/-! ## Strings -/

/-- The content and the spelling of a string do not depend on what stands around it. -/
theorem scanContent_append {d d' : Nat} {cs content spelling rest : List Char} (rest' : List Char)
    (h : scanContent d cs = .ok (content, spelling, rest)) :
    scanContent d' (spelling ++ rest') = .ok (content, spelling, rest') := by
  fun_induction scanContent d cs generalizing d' content spelling rest with
  | case1 => cases h
  | case2 => cases h
  | case3 d e cs c hc ih =>
    cases hs : scanContent (d + 2) cs with
    | error f => rw [hs] at h; cases h
    | ok r =>
      rw [hs] at h
      obtain ⟨content, spelling, rest⟩ := r
      cases h
      simp only [List.cons_append]
      rw [scanContent, hc]
      simp only [ih hs]
      rfl
  | case4 => cases h
  | case5 => cases h
  | case6 d cs =>
    cases h
    simp [scanContent]
  | case7 d c cs h1 h2 hn hq ih =>
    cases hs : scanContent (d + c.utf8Size) cs with
    | error f => rw [hs] at h; cases h
    | ok r =>
      rw [hs] at h
      obtain ⟨content, spelling, rest⟩ := r
      cases h
      have hb : c ≠ '\\' := by
        rintro rfl
        cases cs with
        | nil => exact h1 rfl rfl
        | cons e cs => exact h2 e cs rfl rfl
      simp only [List.cons_append]
      rw [scanContent, if_neg hn, if_neg hq, ih hs]
      · rfl
      · exact fun e => absurd e hb
      · exact fun _ _ e => absurd e hb

theorem scanContent_escape (d : Nat) (cs rest : List Char) :
    scanContent d (Text.Quoted.escape cs ++ '"' :: rest) =
      .ok (cs, Text.Quoted.escape cs ++ ['"'], rest) := by
  induction cs generalizing d with
  | nil => simp [Text.Quoted.escape, scanContent]
  | cons c cs ih =>
    unfold Text.Quoted.escape
    split
    case h_5 hq hb hn _ =>
      simp only [List.cons_append]
      rw [scanContent, if_neg hn, if_neg hq, ih]
      · rfl
      · exact fun e => absurd e hb
      · exact fun _ _ e => absurd e hb
    all_goals
      simp only [List.cons_append]
      rw [scanContent]
      simp only [Text.Quoted.unescape?, ih]
      rfl

theorem scan_quote (cs : List Char) : scan '"' cs = scanString cs := by
  simp [scan]

theorem scans_string {content spelling : List Char}
    (h : ∀ rest, scanContent 1 (spelling ++ rest) = .ok (content, spelling, rest)) :
    Scans ('"' :: spelling) (.string (String.ofList content)) := by
  refine ⟨trivial, '"', spelling, rfl, fun rest _ => ?_⟩
  rw [scan_quote, scanString, h]
  rfl

/-! ## Signs -/

theorem scans_pair {c d : Char} {k : TokenKind} (h : pairKind? c d = some k) : Scans [c, d] k := by
  unfold pairKind? at h
  split at h <;> cases h <;> exact ⟨trivial, _, _, rfl, fun rest _ => rfl⟩

theorem pairKind?_eq_none {c d : Char} {k : TokenKind} (h : signKind? c = some k)
    (hd : k.extendedBy d = false) : pairKind? c d = none := by
  unfold signKind? at h
  split at h <;> cases h <;> simp_all [pairKind?, TokenKind.extendedBy]

theorem scan_sign {c : Char} {k : TokenKind} (h : signKind? c = some k) (cs : List Char) :
    scan c cs = scanSign c cs := by
  unfold signKind? at h
  split at h <;> cases h <;> rfl

theorem isWritten_sign {c : Char} {k : TokenKind} (h : signKind? c = some k) : k.IsWritten := by
  unfold signKind? at h
  split at h <;> cases h <;> trivial

theorem scans_single {c : Char} {k : TokenKind} (h : signKind? c = some k) : Scans [c] k := by
  refine ⟨isWritten_sign h, c, [], rfl, fun rest hr => ?_⟩
  rw [scan_sign h, List.nil_append]
  have single : scanSingle c rest = .ok { kind := k, spelling := [c], rest } := by
    unfold scanSingle; rw [h]
  cases rest with
  | nil => exact single
  | cons d rest =>
    simp only [scanSign, pairKind?_eq_none h (hr d rfl)]
    exact single

/-! ## Every spelling that is found, and the canonical one -/

theorem scanSingle_scans {c : Char} {cs : List Char} {s : Scanned} (h : scanSingle c cs = .ok s)
    (hd : ∀ d ∈ cs.head?, pairKind? c d = none) : Scans s.spelling s.kind ∧ Apart s.kind s.rest := by
  unfold scanSingle at h
  split at h
  · next k hk =>
    cases h
    refine ⟨scans_single hk, fun d hc => ?_⟩
    have hn := hd d hc
    -- only two signs begin a longer one, and `hn` says that there is none
    unfold signKind? at hk
    split at hk <;> cases hk <;> first | rfl | skip
    · simp only [TokenKind.extendedBy, Bool.or_eq_false_iff, beq_eq_false_iff_ne]
      constructor <;> (rintro rfl; cases hn)
    · simp only [TokenKind.extendedBy, beq_eq_false_iff_ne]
      rintro rfl; cases hn
  · cases h

theorem scanSign_scans {c : Char} {cs : List Char} {s : Scanned} (h : scanSign c cs = .ok s) :
    Scans s.spelling s.kind ∧ Apart s.kind s.rest := by
  unfold scanSign at h
  split at h
  · exact scanSingle_scans h (by intro d hd; cases hd)
  split at h
  · next d cs k hk =>
    cases h
    refine ⟨scans_pair hk, fun e _ => ?_⟩
    unfold pairKind? at hk
    split at hk <;> cases hk <;> rfl
  · next hn => exact scanSingle_scans h (by intro e he; cases he; exact hn)

theorem scanName_scans {c : Char} {cs : List Char} {s : Scanned} (hc : c = '$' ∨ c = '#')
    (h : scanName c cs = .ok s) : Scans s.spelling s.kind ∧ Apart s.kind s.rest := by
  unfold scanName at h
  dsimp only at h
  split at h
  · cases h
  · next hw =>
    cases h
    have word : IsWord (cs.takeWhile isWordChar) := ⟨hw, fun _ => of_mem_takeWhile⟩
    rcases hc with rfl | rfl
    · exact ⟨scans_var word, head?_dropWhile_stop⟩
    · exact ⟨scans_symbol word, head?_dropWhile_stop⟩

theorem scanInteger_scans {c : Char} {cs : List Char} {s : Scanned} (hc : c = '-' ∨ c.isDigit = true)
    (h : scanInteger c cs = .ok s) : Scans s.spelling s.kind ∧ Apart s.kind s.rest := by
  unfold scanInteger at h
  dsimp only at h
  split at h
  · cases h
  · next hn =>
    split at h
    · next value hv =>
      cases h
      refine ⟨scans_integer (hc.imp_left fun e => ⟨e, fun e' => hn ⟨e, e'⟩⟩)
        (fun _ => of_mem_takeWhile) hv, head?_dropWhile_stop⟩
    · cases h

theorem scanWord_scans {c : Char} {cs : List Char} {s : Scanned} (hc : c.isAlpha = true ∨ c = '_')
    (h : scanWord c cs = .ok s) : Scans s.spelling s.kind ∧ Apart s.kind s.rest := by
  have word : IsIdentifier (c :: cs.takeWhile isWordChar) := by
    refine ⟨⟨List.cons_ne_nil _ _, fun d hd => ?_⟩, fun d hd => ?_⟩
    · rcases List.mem_cons.mp hd with rfl | hd
      · exact isWordChar_of_first hc
      · exact of_mem_takeWhile hd
    · cases hd; exact hc
  have stop : ∀ d ∈ (cs.dropWhile isWordChar).head?, isWordChar d = false := head?_dropWhile_stop
  unfold scanWord at h
  dsimp only at h
  split at h
  · next hx =>
    split at h
    · next rest hr =>
      split at h
      · next value hv =>
        cases h
        rw [hx]
        exact ⟨scans_bytes (fun _ => of_mem_takeWhile) hv, head?_dropWhile_stop⟩
      · cases h
    · next hr =>
      cases h
      refine ⟨scans_identifier word, fun d hd => ?_⟩
      have hcolon : d ≠ ':' := by
        rintro rfl
        obtain ⟨rest, hrest⟩ : ∃ rest, cs.dropWhile isWordChar = ':' :: rest := by
          cases hl : cs.dropWhile isWordChar with
          | nil => rw [hl] at hd; cases hd
          | cons e rest => rw [hl] at hd; cases hd; exact ⟨rest, rfl⟩
        exact hr rest hrest
      simp [TokenKind.extendedBy, stop d hd, hcolon]
  · next hx =>
    cases h
    refine ⟨scans_identifier word, fun d hd => ?_⟩
    have hname : String.ofList (c :: cs.takeWhile isWordChar) ≠ "hex" := by
      intro e
      exact hx (by rw [← String.toList_ofList (l := c :: cs.takeWhile isWordChar), e]; rfl)
    simp only [TokenKind.extendedBy, stop d hd, beq_eq_false_iff_ne.mpr hname, Bool.false_and,
      Bool.or_false]

/-- Scanning is the longest match: the text behind a token does not go on with it. -/
theorem scan_scans {c : Char} {cs : List Char} {s : Scanned} (h : scan c cs = .ok s) :
    Scans s.spelling s.kind ∧ Apart s.kind s.rest := by
  unfold scan at h
  split at h
  · next hc =>
    cases h
    obtain ⟨rfl, hc⟩ := hc
    obtain ⟨cs, rfl⟩ : ∃ cs', cs = '/' :: cs' := by
      cases cs with
      | nil => cases hc
      | cons d cs => cases hc; exact ⟨cs, rfl⟩
    have stop : ∀ d ∈ (('/' :: '/' :: cs).dropWhile fun c => decide (c ≠ '\n')).head?,
        decide (d ≠ '\n') = false := head?_dropWhile_stop
    refine ⟨scans_comment ⟨cs.takeWhile (· ≠ '\n'), ?_⟩ fun hn => ?_, fun d hd => ?_⟩
    · show _ = ('/' :: '/' :: cs).takeWhile (· ≠ '\n')
      rw [List.takeWhile_cons_of_pos (by decide), List.takeWhile_cons_of_pos (by decide)]
      rfl
    · exact absurd (of_mem_takeWhile hn) (by decide)
    · show (d != '\n') = false
      simpa using stop d hd
  split at h
  · unfold scanString at h
    cases hs : scanContent 1 cs with
    | error f => rw [hs] at h; cases h
    | ok r =>
      rw [hs] at h
      cases h
      exact ⟨scans_string fun rest => scanContent_append rest hs, fun _ _ => rfl⟩
  split at h
  · next hc => exact scanName_scans hc h
  split at h
  · next hc => exact scanInteger_scans hc h
  split at h
  · next hc => exact scanWord_scans hc h
  · exact scanSign_scans h

theorem scans_spelling {k : TokenKind} (h : k.IsWritten) : Scans k.spelling k := by
  cases k with
  | identifier name => simpa [TokenKind.spelling] using scans_identifier h
  | var name => simpa [TokenKind.spelling] using scans_var h
  | symbol name => simpa [TokenKind.spelling] using scans_symbol h
  | string content =>
    have reads : ∀ rest, scanContent 1 (Text.Quoted.escape content.toList ++ ['"'] ++ rest) =
        .ok (content.toList, Text.Quoted.escape content.toList ++ ['"'], rest) := by
      intro rest
      simpa using scanContent_escape 1 content.toList rest
    simpa [TokenKind.spelling, Text.Quoted.quote] using scans_string reads
  | integer value => exact scans_integer_spelling value
  | bytes value =>
    exact scans_bytes (fun _ => Text.Hex.isDigit_of_mem_encode) (Text.Hex.decode?_encode value)
  | comment text =>
    obtain ⟨hs, hn, ht⟩ := h
    simpa [TokenKind.spelling, ht] using scans_comment hs hn
  | arrow | or | lessOrEqual | greaterOrEqual | equal => exact scans_pair rfl
  | endOfDocument => exact h.elim
  | _ => exact scans_single rfl

end PolicyGate.Source
