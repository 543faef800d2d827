import PolicyGate.Proofs.Source.Scanning
import PolicyGate.Proofs.Text.Utf8

/-!
# Texts that spell tokens

`Spells` says, without a scanner, that a text is made of blanks and of the spellings of tokens that
stay apart. The tokenizer finds exactly those tokens: `spells_of_tokenize` and `Spells.tokenize`.
-/

namespace PolicyGate.Source

open Text (of_mem_takeWhile)

/-- The text is made of blanks and of spellings of tokens of these kinds. -/
inductive Spells : List Char → List TokenKind → Prop
  | nil : Spells [] []
  | blank {c cs ks} : Text.isBlank c = true → Spells cs ks → Spells (c :: cs) ks
  | token {spelling cs k ks} :
    Scans spelling k → Apart k cs → Spells cs ks → Spells (spelling ++ cs) (k :: ks)

theorem Spells.blanks {bs cs : List Char} {ks : List TokenKind}
    (hb : ∀ c ∈ bs, Text.isBlank c = true) (h : Spells cs ks) : Spells (bs ++ cs) ks := by
  induction bs with
  | nil => exact h
  | cons b bs ih =>
    exact .blank (hb b List.mem_cons_self) (ih fun c hc => hb c (List.mem_cons_of_mem _ hc))

theorem Spells.written {cs : List Char} {ks : List TokenKind} (h : Spells cs ks) :
    ∀ k ∈ ks, k.IsWritten := by
  induction h with
  | nil => intro k hk; cases hk
  | blank _ _ ih => exact ih
  | token hs _ _ ih =>
    intro k hk
    rcases List.mem_cons.mp hk with rfl | hk
    · exact hs.written
    · exact ih k hk

/-! ## Blanks begin no token -/

theorem ne_of_isBlank {c d : Char} (hc : Text.isBlank c = true) (hd : Text.isBlank d = false) :
    c ≠ d := by
  rintro rfl
  rw [hc] at hd; cases hd

theorem isDigit_of_isBlank {c : Char} (hc : Text.isBlank c = true) : c.isDigit = false := by
  have outside := Text.toNat_of_isBlank hc
  refine Bool.eq_false_iff.mpr fun digit => ?_
  rw [isDigit_iff] at digit
  omega

theorem isAlpha_of_isBlank {c : Char} (hc : Text.isBlank c = true) : c.isAlpha = false := by
  have outside := Text.toNat_of_isBlank hc
  refine Bool.eq_false_iff.mpr fun letter => ?_
  rw [isAlpha_iff] at letter
  omega

theorem signKind?_of_isBlank {c : Char} (hc : Text.isBlank c = true) : signKind? c = none := by
  cases h : signKind? c with
  | none => rfl
  | some k =>
    unfold signKind? at h
    split at h <;> first | cases h; done | exact absurd hc (by decide)

theorem pairKind?_of_isBlank {c : Char} (hc : Text.isBlank c = true) (d : Char) :
    pairKind? c d = none := by
  cases h : pairKind? c d with
  | none => rfl
  | some k =>
    unfold pairKind? at h
    split at h <;> first | cases h; done | exact absurd hc (by decide)

theorem scan_blank {c : Char} (hc : Text.isBlank c = true) (cs : List Char) :
    scan c cs = Scan.refuse (.unexpectedCharacter c) := by
  have hslash := ne_of_isBlank hc (d := '/') (by decide)
  have hquote := ne_of_isBlank hc (d := '"') (by decide)
  have hdollar := ne_of_isBlank hc (d := '$') (by decide)
  have hhash := ne_of_isBlank hc (d := '#') (by decide)
  have hminus := ne_of_isBlank hc (d := '-') (by decide)
  have hline := ne_of_isBlank hc (d := '_') (by decide)
  simp only [scan, hslash, hquote, hdollar, hhash, hminus, hline, isDigit_of_isBlank hc,
    isAlpha_of_isBlank hc, false_and, or_self, if_false, Bool.false_eq_true]
  cases cs <;> simp [scanSign, scanSingle, signKind?_of_isBlank hc, pairKind?_of_isBlank hc]

theorem Scans.isBlank_first {spelling : List Char} {k : TokenKind} (h : Scans spelling k) :
    ∃ c cs, spelling = c :: cs ∧ Text.isBlank c = false := by
  obtain ⟨c, cs, hs, hr⟩ := h.reads
  refine ⟨c, cs, hs, ?_⟩
  by_cases hc : Text.isBlank c = true
  -- a spelling is read with nothing behind it, but no blank is read
  · have := hr [] (apart_nil k)
    rw [scan_blank hc] at this
    cases this
  · simpa using hc

/-! ## The tokenizer -/

theorem tokensFrom_eq (pos : Nat) (cs : List Char) :
    tokensFrom pos cs =
      match cs.dropWhile Text.isBlank with
      | [] => .ok [⟨.endOfDocument, pos + Text.width (cs.takeWhile Text.isBlank)⟩]
      | c :: rest =>
        match scan c rest with
        | .error f => .error ⟨pos + Text.width (cs.takeWhile Text.isBlank) + f.distance, f.fault⟩
        | .ok s =>
          (tokensFrom (pos + Text.width (cs.takeWhile Text.isBlank) + Text.width s.spelling) s.rest).map
            (⟨s.kind, pos + Text.width (cs.takeWhile Text.isBlank)⟩ :: ·) := by
  rw [tokensFrom]
  split
  · next hc => rw [hc]
  · next c rest hc =>
    rw [hc]
    split
    · next f hs => simp only [hs]
    · next s hs =>
      simp only [hs]
      cases tokensFrom _ s.rest <;> rfl

theorem tokensFrom_nil (pos : Nat) : tokensFrom pos [] = .ok [⟨.endOfDocument, pos⟩] := by
  rw [tokensFrom_eq]
  rfl

theorem tokensFrom_blank {c : Char} (hc : Text.isBlank c = true) (pos : Nat) (cs : List Char) :
    tokensFrom pos (c :: cs) = tokensFrom (pos + c.utf8Size) cs := by
  rw [tokensFrom_eq, tokensFrom_eq (pos + c.utf8Size), List.dropWhile_cons_of_pos hc,
    List.takeWhile_cons_of_pos hc, Text.width_cons, ← Nat.add_assoc]

theorem tokensFrom_token {c : Char} {cs : List Char} {s : Scanned} (hc : Text.isBlank c = false)
    (h : scan c cs = .ok s) (pos : Nat) :
    tokensFrom pos (c :: cs) =
      (tokensFrom (pos + Text.width s.spelling) s.rest).map (⟨s.kind, pos⟩ :: ·) := by
  have stop : ¬ Text.isBlank c = true := by simp [hc]
  rw [tokensFrom_eq, List.dropWhile_cons_of_neg stop, List.takeWhile_cons_of_neg stop]
  simp only [h]
  rfl

/-- Texts that spell tokens have just these tokens, and the end of the document behind them. -/
theorem Spells.tokensFrom {cs : List Char} {ks : List TokenKind} (h : Spells cs ks) :
    ∀ pos, ∃ ts, tokensFrom pos cs = .ok ts ∧ ts.map Token.kind = ks ++ [.endOfDocument] := by
  induction h with
  | nil => exact fun pos => ⟨_, tokensFrom_nil pos, rfl⟩
  | blank hc _ ih =>
    intro pos
    rw [tokensFrom_blank hc]
    exact ih _
  | @token spelling cs k ks hs ha _ ih =>
    intro pos
    obtain ⟨c, cs', rfl, hr⟩ := hs.reads
    obtain ⟨d, ds, he, hb⟩ := hs.isBlank_first
    cases he
    obtain ⟨ts, hts, hk⟩ := ih (pos + Text.width (c :: cs'))
    refine ⟨⟨k, pos⟩ :: ts, ?_, ?_⟩
    · rw [List.cons_append, tokensFrom_token hb (hr cs ha)]
      simp only [hts]
      rfl
    · simp [hk]

theorem spells_of_tokensFrom {pos : Nat} {cs : List Char} {ts : List Token}
    (h : PolicyGate.Source.tokensFrom pos cs = .ok ts) :
    ∃ ks, ts.map Token.kind = ks ++ [.endOfDocument] ∧ Spells cs ks := by
  fun_induction PolicyGate.Source.tokensFrom pos cs generalizing ts with
  | case1 =>
    rename_i pos cs start hc
    cases h
    refine ⟨[], rfl, ?_⟩
    rw [← List.takeWhile_append_dropWhile (p := Text.isBlank) (l := cs), hc]
    exact Spells.nil.blanks fun _ => of_mem_takeWhile
  | case2 => cases h
  | case3 => cases h
  | case4 =>
    rename_i pos cs start c rest hc s hs ts' hts ih
    cases h
    obtain ⟨ks, hk, hsp⟩ := ih hts
    obtain ⟨scans, apart⟩ := scan_scans hs
    refine ⟨s.kind :: ks, by simp [hk], ?_⟩
    rw [← List.takeWhile_append_dropWhile (p := Text.isBlank) (l := cs), hc, (scan_tiles hs).1]
    exact Spells.blanks (fun _ => of_mem_takeWhile) (.token scans apart hsp)

theorem Spells.tokenize {document : String} {ks : List TokenKind} (h : Spells document.toList ks) :
    ∃ ts, tokenize document = .ok ts ∧ ts.map Token.kind = ks ++ [.endOfDocument] :=
  h.tokensFrom 0

theorem spells_of_tokenize {document : String} {ts : List Token} (h : tokenize document = .ok ts) :
    ∃ ks, ts.map Token.kind = ks ++ [.endOfDocument] ∧ Spells document.toList ks :=
  spells_of_tokensFrom h

end PolicyGate.Source
