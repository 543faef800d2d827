import PolicyGate.Proofs.Source.Spelling
import PolicyGate.Source.Variables

/-!
# Replacing variables in a text

In a text that spells tokens the variables found without the scanner are the variable tokens
(`Spells.variableNames`), and the text in which they are replaced spells the tokens with their variables
renamed (`Spells.replaced`).
-/

namespace PolicyGate.Source

open Text (of_mem_takeWhile)

def TokenKind.var? : TokenKind → Option String
  | var name => some name
  | _ => none

def TokenKind.rename (f : String → String) : TokenKind → TokenKind
  | var name => .var (f name)
  | k => k

/-! ## Pieces of plain text -/

def isOrdinary (c : Char) : Bool :=
  c != '"' && c != '/' && c != '$'

theorem pieces_cons (c : Char) (cs : List Char) :
    pieces (c :: cs) = (firstPiece c cs).1 :: pieces (firstPiece c cs).2 := by
  rw [pieces]

theorem pieces_ordinary {s : List Char} (h : ∀ c ∈ s, isOrdinary c = true) (rest : List Char) :
    pieces (s ++ rest) = (s.map fun c => Piece.plain [c]) ++ pieces rest := by
  induction s with
  | nil => rfl
  | cons c s ih =>
    obtain ⟨hc, hs⟩ := List.forall_mem_cons.mp h
    simp only [isOrdinary, Bool.and_eq_true, bne_iff_ne, ne_eq] at hc
    obtain ⟨⟨hquote, hslash⟩, hdollar⟩ := hc
    rw [List.cons_append, pieces_cons, firstPiece, if_neg hquote, if_neg fun e => hslash e.1,
      if_neg fun e => hdollar e.1, ih hs]
    rfl

theorem isOrdinary_of {p : Char → Bool} (hp : p '"' = false ∧ p '/' = false ∧ p '$' = false) {c : Char}
    (h : p c = true) : isOrdinary c = true := by
  have hne {d : Char} (hd : p d = false) : c ≠ d := by
    rintro rfl
    rw [h] at hd
    cases hd
  simp [isOrdinary, hne hp.1, hne hp.2.1, hne hp.2.2]

theorem isOrdinary_of_isWordChar {c : Char} (h : isWordChar c = true) : isOrdinary c = true :=
  isOrdinary_of (by decide) h

theorem closedString?_of_scanContent {distance : Nat} {cs content spelling rest : List Char}
    (h : scanContent distance cs = .ok (content, spelling, rest)) :
    closedString? cs = some (spelling, rest) := by
  fun_induction scanContent distance cs generalizing content spelling rest with
  | case1 => cases h
  | case2 => cases h
  | case3 d e cs c hc ih =>
    cases hs : scanContent (d + 2) cs with
    | error f => rw [hs] at h; cases h
    | ok r =>
      rw [hs] at h
      obtain ⟨content', spelling', rest'⟩ := r
      cases h
      have he : e ≠ '\n' := by
        rintro rfl
        cases hc
      simp [closedString?, he, ih hs]
  | case4 => cases h
  | case5 => cases h
  | case6 d cs => cases h; simp [closedString?]
  | case7 d c cs h1 h2 hn hq ih =>
    cases hs : scanContent (d + c.utf8Size) cs with
    | error f => rw [hs] at h; cases h
    | ok r =>
      rw [hs] at h
      obtain ⟨content', spelling', rest'⟩ := r
      cases h
      rw [closedString?, if_neg hq, ih hs]
      · rfl
      · exact h1
      · exact h2

/-! ## The pieces of one token -/

/-- A variable is one piece; any other token is cut into plain ones. -/
def IsPieces (spelling : List Char) (k : TokenKind) (ps : List Piece) : Prop :=
  match k.var? with
  | some name => spelling = '$' :: name.toList ∧ ps = [.var name.toList]
  | none => ∃ texts : List (List Char), texts.flatten = spelling ∧ ps = texts.map .plain

theorem isPieces_plain {spelling : List Char} {k : TokenKind} (hk : k.var? = none) :
    IsPieces spelling k [.plain spelling] := by
  unfold IsPieces
  rw [hk]
  exact ⟨[spelling], by simp, rfl⟩

theorem isPieces_ordinary {spelling : List Char} {k : TokenKind} (hk : k.var? = none)
    (h : ∀ c ∈ spelling, isOrdinary c = true) (rest : List Char) :
    ∃ ps, pieces (spelling ++ rest) = ps ++ pieces rest ∧ IsPieces spelling k ps := by
  refine ⟨spelling.map fun c => .plain [c], pieces_ordinary h rest, ?_⟩
  unfold IsPieces
  rw [hk]
  have flat : (spelling.map fun c => [c]).flatten = spelling := by
    rw [← List.flatMap_def, List.flatMap_singleton']
  exact ⟨spelling.map fun c => [c], flat, List.map_map.symm⟩

theorem scanInteger_ordinary {c : Char} {cs : List Char} {s : Scanned} (hc : c = '-' ∨ c.isDigit = true)
    (h : scanInteger c cs = .ok s) : s.kind.var? = none ∧ ∀ d ∈ s.spelling, isOrdinary d = true := by
  unfold scanInteger at h
  dsimp only at h
  split at h
  · cases h
  split at h
  · cases h
    refine ⟨rfl, List.forall_mem_cons.mpr ⟨?_, fun d hd => ?_⟩⟩
    · rcases hc with rfl | hc
      · rfl
      · exact isOrdinary_of (by decide) hc
    · exact isOrdinary_of (by decide) (of_mem_takeWhile hd)
  · cases h

theorem scanWord_ordinary {c : Char} {cs : List Char} {s : Scanned} (hc : c.isAlpha = true ∨ c = '_')
    (h : scanWord c cs = .ok s) : s.kind.var? = none ∧ ∀ d ∈ s.spelling, isOrdinary d = true := by
  have word : ∀ d ∈ c :: cs.takeWhile isWordChar, isOrdinary d = true := by
    refine List.forall_mem_cons.mpr ⟨isOrdinary_of_isWordChar (isWordChar_of_first hc), fun d hd => ?_⟩
    exact isOrdinary_of_isWordChar (of_mem_takeWhile hd)
  unfold scanWord at h
  dsimp only at h
  split at h
  · split at h
    · split at h
      · cases h
        refine ⟨rfl, List.forall_mem_append.mpr ⟨word, List.forall_mem_cons.mpr ⟨rfl, fun d hd => ?_⟩⟩⟩
        exact isOrdinary_of (by decide) (of_mem_takeWhile hd)
      · cases h
    · cases h
      exact ⟨rfl, word⟩
  · cases h
    exact ⟨rfl, word⟩

theorem scanSingle_ordinary {c : Char} {cs : List Char} {s : Scanned} (h : scanSingle c cs = .ok s) :
    s.kind.var? = none ∧ ∀ d ∈ s.spelling, isOrdinary d = true := by
  unfold scanSingle at h
  split at h
  · next k hk =>
    cases h
    unfold signKind? at hk
    split at hk <;> cases hk <;> simp [TokenKind.var?, isOrdinary]
  · cases h

theorem scanSign_ordinary {c : Char} {cs : List Char} {s : Scanned} (h : scanSign c cs = .ok s) :
    s.kind.var? = none ∧ ∀ d ∈ s.spelling, isOrdinary d = true := by
  unfold scanSign at h
  split at h
  · exact scanSingle_ordinary h
  split at h
  · next d cs k hk =>
    cases h
    unfold pairKind? at hk
    split at hk <;> cases hk <;> simp [TokenKind.var?, isOrdinary]
  · exact scanSingle_ordinary h

theorem pieces_scan {c : Char} {cs : List Char} {s : Scanned} (h : scan c cs = .ok s) :
    ∃ ps, pieces (c :: cs) = ps ++ pieces s.rest ∧ IsPieces s.spelling s.kind ps := by
  -- comments, strings and variables are one piece each; all else is cut into characters
  have ordinary (hs : s.kind.var? = none ∧ ∀ d ∈ s.spelling, isOrdinary d = true) :
      ∃ ps, pieces (c :: cs) = ps ++ pieces s.rest ∧ IsPieces s.spelling s.kind ps := by
    rw [(scan_tiles h).1]
    exact isPieces_ordinary hs.1 hs.2 s.rest
  unfold scan at h
  split at h
  · next hc =>
    cases h
    obtain ⟨rfl, hc⟩ := hc
    have line : (scanComment ('/' :: cs)).spelling = '/' :: cs.takeWhile (· ≠ '\n') := by
      simp [scanComment]
    have rest : (scanComment ('/' :: cs)).rest = cs.dropWhile (· ≠ '\n') := by
      simp [scanComment]
    rw [line, rest]
    refine ⟨[.plain ('/' :: cs.takeWhile (· ≠ '\n'))], ?_, isPieces_plain rfl⟩
    rw [pieces_cons, firstPiece, if_neg (by decide), if_pos ⟨rfl, hc⟩]
    rfl
  split at h
  · next hc =>
    subst hc
    unfold scanString at h
    cases hs : scanContent 1 cs with
    | error f => rw [hs] at h; cases h
    | ok r =>
      rw [hs] at h
      obtain ⟨content, spelling, rest⟩ := r
      cases h
      refine ⟨[.plain ('"' :: spelling)], ?_, isPieces_plain rfl⟩
      rw [pieces_cons, firstPiece, if_pos rfl, closedString?_of_scanContent hs]
      rfl
  split at h
  · next hc =>
    unfold scanName at h
    dsimp only at h
    split at h
    · cases h
    next hw =>
    cases h
    rcases hc with rfl | rfl
    · refine ⟨[.var (cs.takeWhile isWordChar)], ?_, by simp [IsPieces, TokenKind.var?]⟩
      rw [pieces_cons, firstPiece, if_neg (by decide), if_neg (by simp), if_pos ⟨rfl, hw⟩]
      rfl
    · refine ordinary ⟨rfl, List.forall_mem_cons.mpr ⟨rfl, fun d hd => ?_⟩⟩
      exact isOrdinary_of_isWordChar (of_mem_takeWhile hd)
  split at h
  · next hc => exact ordinary (scanInteger_ordinary hc h)
  split at h
  · next hc => exact ordinary (scanWord_ordinary hc h)
  · exact ordinary (scanSign_ordinary h)

/-! ## Whole texts -/

theorem pieces_nil : pieces [] = [] := by
  rw [pieces]

theorem pieces_blank {c : Char} (hc : Text.isBlank c = true) (cs : List Char) :
    pieces (c :: cs) = .plain [c] :: pieces cs := by
  have ordinary : ∀ d ∈ [c], isOrdinary d = true := by
    intro d hd
    rw [List.mem_singleton.mp hd]
    exact isOrdinary_of (by decide) hc
  exact pieces_ordinary ordinary cs

theorem variableNames_append (ps qs : List Piece) :
    variableNames (ps ++ qs) = variableNames ps ++ variableNames qs := by
  simp [variableNames]

theorem IsPieces.variableNames {spelling : List Char} {k : TokenKind} {ps : List Piece}
    (h : IsPieces spelling k ps) : variableNames ps = (k.var?.map String.toList).toList := by
  unfold IsPieces at h
  split at h
  · next name hk => rw [hk, h.2]; rfl
  · next hk =>
    obtain ⟨texts, -, rfl⟩ := h
    rw [hk]
    simp [PolicyGate.Source.variableNames, List.filterMap_map]

theorem Spells.variableNames {cs : List Char} {ks : List TokenKind} (h : Spells cs ks) :
    variableNames (pieces cs) = (ks.filterMap TokenKind.var?).map String.toList := by
  induction h with
  | nil => rw [pieces_nil]; rfl
  | blank hc _ ih =>
    rw [pieces_blank hc]
    exact ih
  | @token spelling cs k ks hs ha _ ih =>
    obtain ⟨c, cs', rfl, hr⟩ := hs.reads
    obtain ⟨ps, hps, isPieces⟩ := pieces_scan (hr cs ha)
    rw [List.cons_append, hps, variableNames_append, isPieces.variableNames, ih, List.filterMap_cons]
    cases k.var? <;> rfl

/-! ## Replacing -/

def numberedName (table : List (List Char × Nat)) (name : String) : String :=
  match table.lookup name.toList with
  | some id => toString id
  | none => name

theorem replaced_var (table : List (List Char × Nat)) (name : String) :
    Piece.replaced table (.var name.toList) = '$' :: (numberedName table name).toList := by
  simp only [Piece.replaced, numberedName]
  cases table.lookup name.toList <;> rfl

theorem isNumeric_toString (n : Nat) : isNumeric (toString n).toList = true :=
  List.all_eq_true.mpr fun _ => Text.isDigit_of_mem_repr

theorem isWord_toString (n : Nat) : IsWord (toString n).toList := by
  refine ⟨Text.repr_ne_nil n, fun c hc => ?_⟩
  have digit : c.isDigit = true := Text.isDigit_of_mem_repr hc
  simp [isWordChar, Char.isAlphanum, digit]

theorem isWord_numberedName (table : List (List Char × Nat)) {name : String} (h : IsWord name.toList) :
    IsWord (numberedName table name).toList := by
  unfold numberedName
  cases table.lookup name.toList with
  | none => exact h
  | some id => exact isWord_toString id

theorem IsPieces.replaced {spelling : List Char} {k : TokenKind} {ps : List Piece}
    (h : IsPieces spelling k ps) (hs : Scans spelling k) (table : List (List Char × Nat)) :
    Scans (ps.flatMap (Piece.replaced table)) (k.rename (numberedName table)) := by
  unfold IsPieces at h
  split at h
  · next name hk =>
    obtain ⟨rfl, rfl⟩ := h
    cases k <;> cases hk
    have word : IsWord (numberedName table name).toList := isWord_numberedName table hs.written
    simpa [replaced_var, TokenKind.rename] using scans_var word
  · next hk =>
    obtain ⟨texts, rfl, rfl⟩ := h
    have same : k.rename (numberedName table) = k := by
      cases k <;> first | rfl | cases hk
    have text : (texts.map Piece.plain).flatMap (Piece.replaced table) = texts.flatten := by
      rw [List.flatMap_map]
      exact List.flatMap_id
    rw [same, text]
    exact hs

theorem head?_replaced (table : List (List Char × Nat)) (cs : List Char) :
    ((pieces cs).flatMap (Piece.replaced table)).head? = cs.head? := by
  cases cs with
  | nil => rw [pieces_nil]; rfl
  | cons c cs =>
    rw [pieces_cons, List.flatMap_cons]
    have tiles := firstPiece_tiles c cs
    have nonempty := firstPiece_spelling_ne_nil c cs
    cases hp : (firstPiece c cs).1 with
    | plain text =>
      rw [hp] at tiles nonempty
      rw [tiles]
      cases text with
      | nil => exact absurd rfl nonempty
      | cons d text => rfl
    | var name =>
      rw [hp] at tiles
      rw [tiles]
      simp only [Piece.replaced]
      split <;> rfl

theorem apart_rename {k : TokenKind} {rest : List Char} (h : Apart k rest) (f : String → String) :
    Apart (k.rename f) rest := by
  cases k <;> exact h

/-- The text with its variables replaced spells the tokens with their variables renamed. -/
theorem Spells.replaced {cs : List Char} {ks : List TokenKind} (h : Spells cs ks)
    (table : List (List Char × Nat)) :
    Spells ((pieces cs).flatMap (Piece.replaced table))
      (ks.map (TokenKind.rename (numberedName table))) := by
  induction h with
  | nil => rw [pieces_nil]; exact .nil
  | blank hc _ ih =>
    rw [pieces_blank hc]
    exact .blank hc ih
  | @token spelling cs k ks hs ha _ ih =>
    obtain ⟨c, cs', rfl, hr⟩ := hs.reads
    obtain ⟨ps, hps, isPieces⟩ := pieces_scan (hr cs ha)
    rw [List.cons_append, hps, List.flatMap_append, List.map_cons]
    have apart := (apart_rename ha (numberedName table)).of_head? (head?_replaced table cs)
    exact .token (isPieces.replaced hs table) apart ih

end PolicyGate.Source
