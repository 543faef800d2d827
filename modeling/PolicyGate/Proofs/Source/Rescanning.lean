import PolicyGate.Proofs.Data.Except
import PolicyGate.Proofs.Source.Following
import PolicyGate.Proofs.Source.Places

/-!
# Scanning a text with numbered variables

The text in which variables are replaced has the same tokens, but for the names, at places that come from
those of the author's tokens; where the author's text breaks off with a fault, so does this one, at a
place that comes from there (`tokensFrom_replaced`).
-/

namespace PolicyGate.Source

open Text (takeWhile_run dropWhile_run of_mem_takeWhile head?_dropWhile_stop)

variable {table : List (List Char × Nat)} {c : Char} {cs : List Char} {f : ScanFault}

/-! ## Runs of characters -/

theorem replacedText_ordinary {run : List Char} (h : ∀ c ∈ run, isOrdinary c = true) (rest : List Char) :
    replacedText table (run ++ rest) = run ++ replacedText table rest := by
  rw [replacedText, pieces_ordinary h, List.flatMap_append, List.flatMap_map]
  congr 1
  exact List.flatMap_singleton' run

section
variable {p : Char → Bool} (hp : p '"' = false ∧ p '/' = false ∧ p '$' = false)
include hp

theorem replacedText_run (cs : List Char) :
    replacedText table cs = cs.takeWhile p ++ replacedText table (cs.dropWhile p) := by
  have ordinary : ∀ c ∈ cs.takeWhile p, isOrdinary c = true := fun c hc =>
    isOrdinary_of hp (of_mem_takeWhile hc)
  rw [← replacedText_ordinary ordinary, List.takeWhile_append_dropWhile]

omit hp in
theorem stops_replacedText (cs : List Char) :
    ∀ c ∈ (replacedText table (cs.dropWhile p)).head?, p c = false := by
  rw [replacedText, head?_replaced]
  exact head?_dropWhile_stop

theorem takeWhile_replacedText (cs : List Char) :
    (replacedText table cs).takeWhile p = cs.takeWhile p := by
  rw [replacedText_run hp]
  exact takeWhile_run (fun _ => of_mem_takeWhile) (stops_replacedText cs)

theorem dropWhile_replacedText (cs : List Char) :
    (replacedText table cs).dropWhile p = replacedText table (cs.dropWhile p) := by
  rw [replacedText_run hp]
  exact dropWhile_run (fun _ => of_mem_takeWhile) (stops_replacedText cs)

end

/-! ## Refused tokens -/

/-- A fault at the first character of its token, which names no variable. -/
structure ScanFault.IsRefusal (f : ScanFault) : Prop where
  distance : f.distance = 0
  fault : ∀ g, f.fault.rename g = f.fault

theorem scanName_refused (table : List (List Char × Nat)) (h : scanName c cs = .error f) :
    scanName c (replacedText table cs) = .error f ∧ f.IsRefusal ∧ cs.takeWhile isWordChar = [] := by
  unfold scanName at h ⊢
  rw [takeWhile_replacedText (by decide)]
  dsimp only at h ⊢
  by_cases hw : cs.takeWhile isWordChar = []
  · rw [if_pos hw] at h ⊢
    cases h
    exact ⟨rfl, ⟨rfl, fun _ => rfl⟩, hw⟩
  · rw [if_neg hw] at h
    cases h

theorem scanInteger_refused (h : scanInteger c cs = .error f) :
    scanInteger c (replacedText table cs) = .error f ∧ f.IsRefusal := by
  unfold scanInteger at h ⊢
  rw [takeWhile_replacedText (by decide)]
  dsimp only at h ⊢
  by_cases hd : c = '-' ∧ cs.takeWhile Char.isDigit = []
  · rw [if_pos hd] at h ⊢
    cases h
    exact ⟨rfl, rfl, fun _ => rfl⟩
  · rw [if_neg hd] at h ⊢
    split at h
    · cases h
    · next hv =>
      cases h
      exact ⟨rfl, rfl, fun _ => rfl⟩

theorem scanWord_refused (h : scanWord c cs = .error f) :
    scanWord c (replacedText table cs) = .error f ∧ f.IsRefusal := by
  unfold scanWord at h ⊢
  rw [takeWhile_replacedText (by decide), dropWhile_replacedText (by decide)]
  dsimp only at h ⊢
  by_cases hx : c :: cs.takeWhile isWordChar = ['h', 'e', 'x']
  · rw [if_pos hx] at h ⊢
    split at h
    · next rest hr =>
      have colon : ∀ d ∈ [':'], isOrdinary d = true := by simp [isOrdinary]
      have behind : replacedText table (':' :: rest) = ':' :: replacedText table rest :=
        replacedText_ordinary colon rest
      have digits : (replacedText table rest).takeWhile Text.Hex.isDigit =
          rest.takeWhile Text.Hex.isDigit := takeWhile_replacedText (by decide) rest
      rw [hr, behind]
      simp only [digits]
      split at h
      · cases h
      · next hv =>
        cases h
        exact ⟨rfl, rfl, fun _ => rfl⟩
    · cases h
  · rw [if_neg hx] at h
    cases h

theorem scanSingle_refused {cs' : List Char} (h : scanSingle c cs = .error f) :
    scanSingle c cs' = .error f ∧ f.IsRefusal := by
  unfold scanSingle at h ⊢
  split at h
  · cases h
  · next hk =>
    cases h
    exact ⟨rfl, rfl, fun _ => rfl⟩

theorem scanSign_refused (h : scanSign c cs = .error f) :
    scanSign c (replacedText table cs) = .error f ∧ f.IsRefusal := by
  have head : (replacedText table cs).head? = cs.head? := head?_replaced table cs
  unfold scanSign at h ⊢
  cases cs with
  | nil =>
    rw [List.head?_eq_none_iff.mp head]
    exact scanSingle_refused h
  | cons d cs =>
    obtain ⟨ds, hds⟩ := List.head?_eq_some_iff.mp head
    rw [hds]
    dsimp only at h ⊢
    cases hp : pairKind? c d with
    | none =>
      rw [hp] at h
      exact scanSingle_refused h
    | some k =>
      rw [hp] at h
      cases h

theorem replacedText_plain (h : firstPiece c cs = (.plain [c], cs)) :
    replacedText table (c :: cs) = c :: replacedText table cs := by
  rw [replacedText, pieces_cons, h]
  rfl

theorem scan_refused (table : List (List Char × Nat)) (hq : c ≠ '"') (h : scan c cs = .error f) :
    replacedText table (c :: cs) = c :: replacedText table cs ∧
      scan c (replacedText table cs) = .error f ∧ f.IsRefusal := by
  have head : (replacedText table cs).head? = cs.head? := head?_replaced table cs
  unfold scan at h ⊢
  rw [head]
  by_cases hc : c = '/' ∧ cs.head? = some '/'
  · rw [if_pos hc] at h
    cases h
  rw [if_neg hc, if_neg hq] at h ⊢
  by_cases sigil : c = '$' ∨ c = '#'
  · rw [if_pos sigil] at h ⊢
    obtain ⟨refused, refusal, hw⟩ := scanName_refused table h
    refine ⟨replacedText_plain ?_, refused, refusal⟩
    rw [firstPiece, if_neg hq, if_neg hc, if_neg (by simp [hw])]
  have plain : replacedText table (c :: cs) = c :: replacedText table cs := by
    refine replacedText_plain ?_
    rw [firstPiece, if_neg hq, if_neg hc, if_neg fun e => sigil (.inl e.1)]
  rw [if_neg sigil] at h ⊢
  refine ⟨plain, ?_⟩
  split at h
  · next hi =>
    rw [if_pos hi]
    exact scanInteger_refused h
  next hi =>
  rw [if_neg hi]
  split at h
  · next ha =>
    rw [if_pos ha]
    exact scanWord_refused h
  · next ha =>
    rw [if_neg ha]
    exact scanSign_refused h

/-! ## Broken strings -/

/-- The piece cut into single characters, unless it is a variable. -/
def Piece.cut : Piece → List Piece
  | plain text => text.map fun c => .plain [c]
  | var name => [.var name]

/-- A single character, or a variable with a name. -/
inductive Piece.IsSmall : Piece → Prop
  | char (c : Char) : IsSmall (.plain [c])
  | var {name} (word : IsWord name) : IsSmall (.var name)

theorem flatMap_chars {β : Type} (g : Piece → List β) (text : List Char) :
    (text.map fun c => Piece.plain [c]).flatMap g = text.flatMap fun c => g (.plain [c]) :=
  List.flatMap_map ..

theorem cut_spelling (ps : List Piece) :
    (ps.flatMap Piece.cut).flatMap Piece.spelling = ps.flatMap Piece.spelling := by
  induction ps with
  | nil => rfl
  | cons p ps ih =>
    rw [List.flatMap_cons, List.flatMap_append, ih, List.flatMap_cons]
    congr 1
    cases p with
    | plain text => exact (flatMap_chars _ text).trans (List.flatMap_singleton' text)
    | var name => exact List.append_nil _

theorem cut_replaced (table : List (List Char × Nat)) (ps : List Piece) :
    (ps.flatMap Piece.cut).flatMap (Piece.replaced table) = ps.flatMap (Piece.replaced table) := by
  induction ps with
  | nil => rfl
  | cons p ps ih =>
    rw [List.flatMap_cons, List.flatMap_append, ih, List.flatMap_cons]
    congr 1
    cases p with
    | plain text => exact (flatMap_chars _ text).trans (List.flatMap_singleton' text)
    | var name => exact List.append_nil _

theorem Place.of_chars {text : List Char} {qs : List Piece} {new old : Nat}
    (h : Place table (text.map (fun c => .plain [c]) ++ qs) new old) :
    (new = old ∧ old ≤ Text.width text) ∨ ∃ n o, Place table qs n o ∧
      new = Text.width text + n ∧ old = Text.width text + o := by
  induction text generalizing new old with
  | nil => exact .inr ⟨new, old, h, (Nat.zero_add _).symm, (Nat.zero_add _).symm⟩
  | cons c text ih =>
    have single : Text.width [c] = c.utf8Size := by simp [Text.width]
    rw [Text.width_cons]
    cases h with
    | start => exact .inl ⟨rfl, Nat.zero_le _⟩
    | inside within => exact .inl ⟨rfl, by omega⟩
    | @later _ _ n o place =>
      simp only [Piece.replaced, Piece.spelling, single]
      rcases ih place with ⟨rfl, within⟩ | ⟨n', o', behind, rfl, rfl⟩
      · exact .inl ⟨rfl, by omega⟩
      · exact .inr ⟨n', o', behind, by omega, by omega⟩

theorem Place.of_cut {ps : List Piece} {new old : Nat} (h : Place table (ps.flatMap Piece.cut) new old) :
    Place table ps new old := by
  induction ps generalizing new old with
  | nil => exact h
  | cons p ps ih =>
    rw [List.flatMap_cons] at h
    cases p with
    | plain text =>
      rcases h.of_chars with ⟨rfl, within⟩ | ⟨n, o, place, rfl, rfl⟩
      · exact .inside within
      · exact .later (ih place)
    | var name =>
      cases h with
      | start => exact .start
      | later place => exact .later (ih place)

theorem isSmall_of_mem_pieces (cs : List Char) :
    ∀ q ∈ (pieces cs).flatMap Piece.cut, q.IsSmall := by
  induction hn : cs.length using Nat.strong_induction_on generalizing cs with
  | _ n ih =>
  cases cs with
  | nil =>
    rw [pieces_nil]
    intro q hq
    cases hq
  | cons c cs =>
    have lengths := congrArg List.length (firstPiece_tiles c cs)
    have nonempty := List.length_pos_iff.mpr (firstPiece_spelling_ne_nil c cs)
    rw [List.length_append] at lengths
    rw [pieces_cons, List.flatMap_cons]
    refine List.forall_mem_append.mpr ⟨?_, ih _ (by omega) _ rfl⟩
    intro q hq
    cases hp : (firstPiece c cs).1 with
    | plain text =>
      rw [hp] at hq
      obtain ⟨d, -, rfl⟩ := List.mem_map.mp hq
      exact .char d
    | var name =>
      rw [hp] at hq
      obtain rfl := List.mem_singleton.mp hq
      -- a variable is only cut out where a word stands behind the `$`
      refine .var ?_
      unfold firstPiece at hp
      split at hp
      · split at hp <;> cases hp
      split at hp
      · cases hp
      split at hp
      · next hw =>
        cases hp
        exact ⟨hw.2, fun _ => of_mem_takeWhile⟩
      · cases hp

/-- Characters that neither end a string nor begin an escape. -/
def Quiet (cs : List Char) : Prop :=
  ∀ c ∈ cs, c ≠ '\\' ∧ c ≠ '\n' ∧ c ≠ '"'

theorem quiet_var {name : List Char} (h : IsWord name) : Quiet ('$' :: name) := by
  refine List.forall_mem_cons.mpr ⟨by decide, fun c hc => ?_⟩
  have word := h.2 c hc
  refine ⟨?_, ?_, ?_⟩ <;> (rintro rfl; exact absurd word (by decide))

theorem quiet_replaced {name : List Char} (h : IsWord name) :
    Quiet (Piece.replaced table (.var name)) := by
  have replaced := replaced_var table (String.ofList name)
  rw [String.toList_ofList] at replaced
  rw [replaced]
  exact quiet_var (isWord_numberedName table (by rwa [String.toList_ofList]))

theorem scanContent_char {c : Char} (hc : c ≠ '\\') (d : Nat) (cs : List Char) :
    scanContent d (c :: cs) =
      if c = '\n' then .error ⟨0, .unterminatedString⟩
      else if c = '"' then .ok ([], ['"'], cs)
      else (scanContent (d + c.utf8Size) cs).map fun (content, spelling, rest) =>
        (c :: content, c :: spelling, rest) := by
  rw [scanContent]
  · exact fun e => absurd e hc
  · exact fun _ _ e => absurd e hc

theorem scanContent_quiet {run : List Char} (h : Quiet run) (d : Nat) :
    scanContent d (run ++ cs) = .error f ↔ scanContent (d + Text.width run) cs = .error f := by
  induction run generalizing d with
  | nil => rfl
  | cons c run ih =>
    obtain ⟨⟨escape, line, quote⟩, rest⟩ := List.forall_mem_cons.mp h
    rw [List.cons_append, scanContent_char escape, if_neg line, if_neg quote, except_map_error, ih rest,
      Text.width_cons, Nat.add_assoc]

/-- The fault `f'` in the replaced text comes from the fault `f`; strings that are not closed are
reported at their beginning. -/
structure ComesFrom (table : List (List Char × Nat)) (qs : List Piece) (d d' : Nat) (f f' : ScanFault) :
    Prop where
  fault : f'.fault = f.fault.rename (numberedName table)
  place : (f.distance = 0 ∧ f'.distance = 0) ∨
    ∃ new old, Place table qs new old ∧ f.distance = d + old ∧ f'.distance = d' + new

theorem ComesFrom.later {p : Piece} {qs : List Piece} {d d' : Nat} {f f' : ScanFault}
    (h : ComesFrom table qs (d + Text.width p.spelling) (d' + Text.width (p.replaced table)) f f') :
    ComesFrom table (p :: qs) d d' f f' := by
  refine ⟨h.fault, h.place.imp_right ?_⟩
  rintro ⟨new, old, place, ho, hn⟩
  exact ⟨_, _, .later place, by omega, by omega⟩

theorem width_unescaped {c e : Char} (h : Text.Quoted.unescape? e = some c) : Text.width [e] = 1 := by
  unfold Text.Quoted.unescape? at h
  split at h <;> first | rfl | cases h

theorem scanContent_backslash (d : Nat) (e : Char) (cs : List Char) :
    scanContent d ('\\' :: e :: cs) =
      match Text.Quoted.unescape? e with
      | some c => (scanContent (d + 2) cs).map fun (content, spelling, rest) =>
        (c :: content, '\\' :: e :: spelling, rest)
      | none => .error ⟨d + e.utf8Size, .invalidEscape⟩ := by
  cases escaped : Text.Quoted.unescape? e <;> simp only [scanContent, escaped]

/-- Where the rest of a string has a fault, it has one with its variables replaced. -/
def FaultsAlike (table : List (List Char × Nat)) (qs : List Piece) : Prop :=
  ∀ d d' f, scanContent d (qs.flatMap Piece.spelling) = .error f →
    ∃ f', scanContent d' (qs.flatMap (Piece.replaced table)) = .error f' ∧ ComesFrom table qs d d' f f'

theorem faultsAlike_nil : FaultsAlike table [] := by
  intro d d' f h
  cases h
  exact ⟨_, rfl, rfl, .inl ⟨rfl, rfl⟩⟩

theorem FaultsAlike.var {qs : List Piece} (h : FaultsAlike table qs) {name : List Char}
    (word : IsWord name) : FaultsAlike table (.var name :: qs) := by
  intro d d' f broken
  rw [List.flatMap_cons] at broken ⊢
  have inside := (scanContent_quiet (quiet_var word) d).mp broken
  obtain ⟨f', run, comes⟩ := h _ (d' + Text.width (Piece.replaced table (.var name))) f inside
  exact ⟨f', (scanContent_quiet (quiet_replaced word) d').mpr run, comes.later⟩

theorem FaultsAlike.char {qs : List Piece} (h : FaultsAlike table qs) (hc : c ≠ '\\') :
    FaultsAlike table (.plain [c] :: qs) := by
  intro d d' f broken
  simp only [List.flatMap_cons, Piece.spelling, Piece.replaced, List.cons_append, List.nil_append,
    scanContent_char hc] at broken ⊢
  by_cases line : c = '\n'
  · rw [if_pos line] at broken ⊢
    cases broken
    exact ⟨_, rfl, rfl, .inl ⟨rfl, rfl⟩⟩
  by_cases quote : c = '"'
  · rw [if_neg line, if_pos quote] at broken
    cases broken
  rw [if_neg line, if_neg quote] at broken ⊢
  obtain ⟨f', run, comes⟩ := h _ (d' + c.utf8Size) f (except_map_error.mp broken)
  have single : Text.width [c] = c.utf8Size := by simp [Text.width]
  refine ⟨f', except_map_error.mpr run, .later ?_⟩
  simpa only [Piece.spelling, Piece.replaced, single] using comes

theorem faultsAlike_backslash : FaultsAlike table [.plain ['\\']] := by
  intro d d' f h
  cases h
  exact ⟨_, rfl, rfl, .inr ⟨0, 0, .start, rfl, rfl⟩⟩

/-- A backslash takes the `$` of a variable, which is no escape whatever name stands behind. -/
theorem faultsAlike_backslash_var (name : List Char) (qs : List Piece) :
    FaultsAlike table (.plain ['\\'] :: .var name :: qs) := by
  intro d d' f h
  have dollar : ∃ word, Piece.replaced table (.var name) = '$' :: word := by
    simp only [Piece.replaced]
    split <;> exact ⟨_, rfl⟩
  obtain ⟨word, hw⟩ := dollar
  refine ⟨⟨d' + 1, .invalidEscape⟩, ?_, ?_⟩
  · rw [List.flatMap_cons, List.flatMap_cons, hw]
    exact scanContent_backslash d' '$' _
  · cases h
    exact ⟨rfl, .inr ⟨1, 1, .later .start, rfl, rfl⟩⟩

theorem FaultsAlike.escape {qs : List Piece} (h : FaultsAlike table qs) (e : Char) :
    FaultsAlike table (.plain ['\\'] :: .plain [e] :: qs) := by
  intro d d' f broken
  simp only [List.flatMap_cons, Piece.spelling, Piece.replaced, List.cons_append, List.nil_append,
    scanContent_backslash] at broken ⊢
  cases he : Text.Quoted.unescape? e with
  | none =>
    rw [he] at broken
    cases broken
    have size := e.utf8Size_pos
    have single : Text.width [e] = e.utf8Size := by simp [Text.width]
    -- the fault is reported at the last byte of the character
    refine ⟨_, rfl, rfl, .inr ⟨1 + (e.utf8Size - 1), 1 + (e.utf8Size - 1), ?_, ?_, ?_⟩⟩
    · exact .later (.inside (by omega))
    · simp only
      omega
    · simp only
      omega
  | some x =>
    rw [he] at broken
    obtain ⟨f', run, comes⟩ := h _ (d' + 2) f (except_map_error.mp broken)
    have one := width_unescaped he
    have backslash : Text.width ['\\'] = 1 := rfl
    refine ⟨f', except_map_error.mpr run, .later (.later ?_)⟩
    simpa only [Piece.spelling, Piece.replaced, one, backslash, Nat.add_assoc] using comes

/-- An escape takes two characters, of which the second may begin a variable. -/
theorem faultsAlike_of_small : (qs : List Piece) → (∀ q ∈ qs, q.IsSmall) → FaultsAlike table qs
  | [], _ => faultsAlike_nil
  | .var name :: qs, small => by
    obtain ⟨first, rest⟩ := List.forall_mem_cons.mp small
    cases first with
    | var word => exact (faultsAlike_of_small qs rest).var word
  | .plain text :: qs, small => by
    obtain ⟨first, rest⟩ := List.forall_mem_cons.mp small
    cases first with
    | char c =>
    by_cases hc : c = '\\'
    · subst hc
      match qs, rest with
      | [], _ => exact faultsAlike_backslash
      | .var name :: qs, _ => exact faultsAlike_backslash_var name qs
      | .plain text :: qs, rest =>
        obtain ⟨second, others⟩ := List.forall_mem_cons.mp rest
        cases second with
        | char e => exact (faultsAlike_of_small qs others).escape e
    · exact (faultsAlike_of_small qs rest).char hc

theorem cut_quote (cs : List Char) :
    ∃ qs, (pieces ('"' :: cs)).flatMap Piece.cut = .plain ['"'] :: qs := by
  rw [pieces_cons, List.flatMap_cons, firstPiece, if_pos rfl]
  split <;> exact ⟨_, rfl⟩

theorem scan_broken (h : scan '"' cs = .error f) :
    ∃ cs' f', replacedText table ('"' :: cs) = '"' :: cs' ∧ scan '"' cs' = .error f' ∧
      f'.fault = f.fault.rename (numberedName table) ∧
      Place table (pieces ('"' :: cs)) f'.distance f.distance := by
  obtain ⟨qs, cut⟩ := cut_quote cs
  have old := cut_spelling (pieces ('"' :: cs))
  have new := cut_replaced table (pieces ('"' :: cs))
  have small := isSmall_of_mem_pieces ('"' :: cs)
  rw [cut] at old new small
  rw [pieces_spelling] at old
  obtain rfl : qs.flatMap Piece.spelling = cs := (List.cons.inj old).2
  rw [scan_quote, scanString, except_map_error] at h
  have alike : FaultsAlike table qs := faultsAlike_of_small qs (List.forall_mem_cons.mp small).2
  obtain ⟨f', run, comes⟩ := alike 1 1 f h
  refine ⟨qs.flatMap (Piece.replaced table), f', new.symm, ?_, comes.fault, .of_cut ?_⟩
  · rw [scan_quote, scanString, except_map_error]
    exact run
  · rw [cut]
    rcases comes.place with ⟨ho, hn⟩ | ⟨n, o, place, ho, hn⟩
    · rw [ho, hn]
      exact .start
    · rw [ho, hn]
      exact .later place

/-! ## Tokens -/

theorem scan_fault (table : List (List Char × Nat)) (h : scan c cs = .error f) :
    ∃ cs' f', replacedText table (c :: cs) = c :: cs' ∧ scan c cs' = .error f' ∧
      f'.fault = f.fault.rename (numberedName table) ∧
      Place table (pieces (c :: cs)) f'.distance f.distance := by
  by_cases hq : c = '"'
  · subst hq
    exact scan_broken h
  · obtain ⟨text, run, refusal⟩ := scan_refused table hq h
    refine ⟨_, f, text, run, (refusal.fault _).symm, ?_⟩
    rw [refusal.distance]
    exact .start

theorem scan_token (table : List (List Char × Nat)) {s : Scanned} (h : scan c cs = .ok s) :
    ∃ ps cs', pieces (c :: cs) = ps ++ pieces s.rest ∧ ps.flatMap Piece.spelling = s.spelling ∧
      replacedText table (c :: cs) = c :: cs' ∧
      scan c cs' = .ok ⟨s.kind.rename (numberedName table), ps.flatMap (Piece.replaced table),
        replacedText table s.rest⟩ := by
  obtain ⟨ps, hps, isPieces⟩ := pieces_scan h
  obtain ⟨scans, apart⟩ := scan_scans h
  have old := pieces_spelling (c :: cs)
  rw [hps, List.flatMap_append, pieces_spelling, (scan_tiles h).1] at old
  have new : replacedText table (c :: cs) = ps.flatMap (Piece.replaced table) ++ replacedText table s.rest := by
    rw [replacedText, hps, List.flatMap_append]
    rfl
  obtain ⟨d, ds, spelled, reads⟩ := (isPieces.replaced scans table).reads
  have head : (replacedText table (c :: cs)).head? = some c := head?_replaced table (c :: cs)
  rw [new, spelled] at head
  obtain rfl : d = c := Option.some.inj head
  refine ⟨ps, ds ++ replacedText table s.rest, hps, List.append_cancel_right old, ?_, ?_⟩
  · rw [new, spelled]
    rfl
  · exact reads _ ((apart_rename apart _).of_head? (head?_replaced table s.rest))

theorem tokensFrom_fault (hc : Text.isBlank c = false) (h : scan c cs = .error f) (pos : Nat) :
    tokensFrom pos (c :: cs) = .error ⟨pos + f.distance, f.fault⟩ := by
  have stop : ¬Text.isBlank c = true := by simp [hc]
  rw [tokensFrom_eq, List.dropWhile_cons_of_neg stop, List.takeWhile_cons_of_neg stop]
  simp only [h]
  rfl

theorem Follows.map {α β γ δ : Type} {g : Nat → Nat} {r : String → String} {R : α → β → Prop}
    {S : γ → δ → Prop} {k : α → γ} {k' : β → δ} {a : Except SyntaxError α} {b : Except SyntaxError β}
    (h : Follows r g R a b) (hk : ∀ x y, R x y → S (k x) (k' y)) : Follows r g S (a.map k) (b.map k') := by
  cases h with
  | ok related => exact .ok (hk _ _ related)
  | error fault offset => exact .error fault offset

/-- From `pos` on the tokens follow those from `pos'` on, if `g` leads back from the places there. -/
theorem tokensFrom_replaced {g : Nat → Nat} {pos pos' : Nat}
    (places : ∀ new old, Place table (pieces cs) new old → g (pos' + new) = pos + old) :
    Follows (numberedName table) g (List.Forall₂ (Token.Follows (numberedName table) g))
      (tokensFrom pos cs) (tokensFrom pos' (replacedText table cs)) := by
  induction hn : cs.length using Nat.strong_induction_on generalizing cs pos pos' with
  | _ n ih =>
  have here : g pos' = pos := places 0 0 .start
  cases cs with
  | nil =>
    rw [replacedText, pieces_nil, List.flatMap_nil, tokensFrom_nil, tokensFrom_nil]
    exact .ok (.cons ⟨rfl, here⟩ .nil)
  | cons c cs =>
    by_cases blank : Text.isBlank c = true
    · have text : replacedText table (c :: cs) = c :: replacedText table cs := by
        rw [replacedText, pieces_blank blank]
        rfl
      have single : Text.width [c] = c.utf8Size := by simp [Text.width]
      rw [text, tokensFrom_blank blank, tokensFrom_blank blank]
      refine ih cs.length (by simp [← hn]) (fun new old place => ?_) rfl
      rw [pieces_blank blank] at places
      have behind := places _ _ (.later place)
      simpa only [Piece.spelling, Piece.replaced, single, Nat.add_assoc] using behind
    have blank : Text.isBlank c = false := by simpa using blank
    cases hs : scan c cs with
    | error f =>
      obtain ⟨cs', f', text, run, fault, place⟩ := scan_fault table hs
      rw [text, tokensFrom_fault blank hs, tokensFrom_fault blank run]
      exact .error fault (places _ _ place)
    | ok s =>
      obtain ⟨ps, cs', hps, spelled, text, run⟩ := scan_token table hs
      have shorter := congrArg List.length (scan_tiles hs).1
      have nonempty := List.length_pos_iff.mpr (scan_tiles hs).2
      rw [List.length_append] at shorter
      rw [text, tokensFrom_token blank hs, tokensFrom_token blank run]
      refine (ih s.rest.length (by omega) (fun new old place => ?_) rfl).map fun ts ts' rest =>
        .cons ⟨rfl, here⟩ rest
      -- a place behind the token is a place of the text, later by the pieces of the token
      rw [hps] at places
      have behind := places _ _ (place.append ps)
      rwa [spelled, ← Nat.add_assoc, ← Nat.add_assoc] at behind

end PolicyGate.Source
