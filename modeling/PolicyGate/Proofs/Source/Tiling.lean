import PolicyGate.Proofs.Source.Offsets
import PolicyGate.Proofs.Source.Spelling

/-!
# Tokens tile a document

Behind its first blanks a document is cut into tiles, one for each token but the last: the spelling of the
token and the blanks up to the next one. A tile is read alone as it is read in the document
(`tokenize_tile`), so no token depends on what stands behind its tile.
-/

namespace PolicyGate.Source

open Text (of_mem_takeWhile)

/-- From byte `pos` on the text is cut into the tiles of these tokens. -/
inductive Tiling : Nat → List Char → List Token → Prop
  | done {pos} : Tiling pos [] [⟨.endOfDocument, pos⟩]
  | tile {pos k spelling blanks rest ts} (scans : Scans spelling k) (apart : Apart k blanks)
      (blank : ∀ c ∈ blanks, Text.isBlank c = true)
      (behind : Tiling (pos + Text.width (spelling ++ blanks)) rest ts) :
      Tiling pos (spelling ++ blanks ++ rest) (⟨k, pos⟩ :: ts)

/-- The part of a text between two byte offsets, which both stand between characters. -/
def IsSlice (cs : List Char) (start stop : Nat) (slice : List Char) : Prop :=
  ∃ before after, cs = before ++ slice ++ after ∧ Text.width before = start ∧
    Text.width (before ++ slice) = stop

section
variable {whole cs spelling blanks : List Char} {k : TokenKind} {pos : Nat} {ts : List Token}

theorem apart_takeWhile_blank (h : Apart k cs) : Apart k (cs.takeWhile Text.isBlank) := by
  cases cs with
  | nil => exact h
  | cons c cs =>
    by_cases hc : Text.isBlank c = true
    · rw [List.takeWhile_cons_of_pos hc]
      exact h.of_head? rfl
    · rw [List.takeWhile_cons_of_neg hc]
      exact apart_nil k

theorem tiling_of_tokensFrom (h : tokensFrom pos cs = .ok ts) :
    Tiling (pos + Text.width (cs.takeWhile Text.isBlank)) (cs.dropWhile Text.isBlank) ts := by
  fun_induction tokensFrom pos cs generalizing ts with
  | case1 =>
    rename_i pos cs start hc
    cases h
    rw [hc]
    exact .done
  | case2 => cases h
  | case3 => cases h
  | case4 =>
    rename_i pos cs start c rest hc s hs ts' hts ih
    cases h
    obtain ⟨scans, apart⟩ := scan_scans hs
    have behind := ih hts
    rw [Nat.add_assoc, ← Text.width_append] at behind
    rw [hc, (scan_tiles hs).1, ← List.takeWhile_append_dropWhile (p := Text.isBlank) (l := s.rest),
      ← List.append_assoc]
    exact .tile scans (apart_takeWhile_blank apart) (fun _ => of_mem_takeWhile) behind

theorem tokensFrom_blanks (h : ∀ c ∈ blanks, Text.isBlank c = true) (pos : Nat) :
    tokensFrom pos blanks = .ok [⟨.endOfDocument, pos + Text.width blanks⟩] := by
  induction blanks generalizing pos with
  | nil => exact tokensFrom_nil pos
  | cons c blanks ih =>
    have first := h c List.mem_cons_self
    rw [tokensFrom_blank first, ih fun d hd => h d (List.mem_cons_of_mem c hd), Text.width_cons,
      Nat.add_assoc]

theorem tokenize_tile (scans : Scans spelling k) (apart : Apart k blanks)
    (blank : ∀ c ∈ blanks, Text.isBlank c = true) :
    tokenize (String.ofList (spelling ++ blanks)) =
      .ok [⟨k, 0⟩, ⟨.endOfDocument, Text.width (spelling ++ blanks)⟩] := by
  obtain ⟨c, cs, rfl, reads⟩ := scans.reads
  obtain ⟨d, ds, same, first⟩ := scans.isBlank_first
  cases same
  rw [tokenize, String.toList_ofList, List.cons_append, tokensFrom_token first (reads blanks apart),
    tokensFrom_blanks blank, Nat.zero_add, ← Text.width_append]
  rfl

namespace Tiling

theorem exists_cons (h : Tiling pos cs ts) : ∃ k us, ts = ⟨k, pos⟩ :: us := by
  cases h with
  | done => exact ⟨_, _, rfl⟩
  | tile => exact ⟨_, _, rfl⟩

theorem width_tile_pos (scans : Scans spelling k) (blanks : List Char) :
    0 < Text.width (spelling ++ blanks) := by
  obtain ⟨c, cs, rfl, -⟩ := scans.reads
  exact Text.width_pos (by simp)

theorem le_offset (h : Tiling pos cs ts) : ∀ t ∈ ts, pos ≤ t.offset := by
  induction h with
  | done => simp
  | tile scans apart blank behind ih =>
    intro t ht
    rcases List.mem_cons.mp ht with rfl | ht
    · exact Nat.le_refl _
    · exact Nat.le_trans (Nat.le_add_right _ _) (ih t ht)

theorem offsets_lt (h : Tiling pos cs ts) : (ts.map Token.offset).Pairwise (· < ·) := by
  induction h with
  | done => simp
  | @tile pos k spelling blanks rest ts scans apart blank behind ih =>
    rw [List.map_cons, List.pairwise_cons]
    refine ⟨fun offset hm => ?_, ih⟩
    obtain ⟨t, ht, rfl⟩ := List.mem_map.mp hm
    exact Nat.lt_of_lt_of_le (Nat.lt_add_of_pos_right (width_tile_pos scans blanks))
      (behind.le_offset t ht)

theorem ends (h : Tiling pos cs ts) :
    ∃ front, ts = front ++ [⟨.endOfDocument, pos + Text.width cs⟩] ∧
      ∀ t ∈ front, t.kind ≠ .endOfDocument := by
  induction h with
  | done => exact ⟨[], rfl, by simp⟩
  | @tile pos k spelling blanks rest ts scans apart blank behind ih =>
    obtain ⟨front, hts, kinds⟩ := ih
    refine ⟨⟨k, pos⟩ :: front, ?_, ?_⟩
    · rw [hts, Text.width_append (spelling ++ blanks), Nat.add_assoc, List.cons_append]
    · intro t ht
      rcases List.mem_cons.mp ht with rfl | ht
      · rintro rfl
        exact scans.written
      · exact kinds t ht

theorem exists_slice (here : TextAt whole pos cs) (h : Tiling pos cs ts) {front back : List Token}
    {t u : Token} (hts : ts = front ++ t :: u :: back) :
    ∃ slice, IsSlice whole t.offset u.offset slice ∧
      tokenize (String.ofList slice) = .ok [⟨t.kind, 0⟩, ⟨.endOfDocument, Text.width slice⟩] := by
  induction h generalizing front with
  | done =>
    have lengths := congrArg List.length hts
    simp only [List.length_append, List.length_cons, List.length_nil] at lengths
    omega
  | @tile pos k spelling blanks rest ts scans apart blank behind ih =>
    cases front with
    | nil =>
      obtain ⟨rfl, rfl⟩ := List.cons.inj hts
      obtain ⟨l, us, first⟩ := behind.exists_cons
      obtain ⟨rfl, rfl⟩ := List.cons.inj first
      obtain ⟨before, rfl, rfl⟩ := here
      refine ⟨spelling ++ blanks, ⟨before, rest, ?_, rfl, ?_⟩, tokenize_tile scans apart blank⟩
      · simp only [List.append_assoc]
      · exact Text.width_append before _
    | cons v front =>
      obtain ⟨-, hts⟩ := List.cons.inj hts
      exact ih here.behind hts

end Tiling

end

/-- The offsets of the tokens grow, the last token is the only end of the document and stands behind its last
byte, only blanks are in front of the first token, and what lies between the offsets of two neighbours has,
alone, the first of them and no other. -/
theorem tokenize_tiles {document : String} {ts : List Token} (h : tokenize document = .ok ts) :
    (ts.map Token.offset).Pairwise (· < ·) ∧
      (∃ front, ts = front ++ [⟨.endOfDocument, document.utf8ByteSize⟩] ∧
        ∀ t ∈ front, t.kind ≠ .endOfDocument) ∧
      (∃ first back blanks, ts = first :: back ∧ IsSlice document.toList 0 first.offset blanks ∧
        ∀ c ∈ blanks, Text.isBlank c = true) ∧
      ∀ front t u back, ts = front ++ t :: u :: back →
        ∃ slice, IsSlice document.toList t.offset u.offset slice ∧
          tokenize (String.ofList slice) = .ok [⟨t.kind, 0⟩, ⟨.endOfDocument, Text.width slice⟩] := by
  have tiles := tiling_of_tokensFrom h
  have split := List.takeWhile_append_dropWhile (p := Text.isBlank) (l := document.toList)
  rw [Nat.zero_add] at tiles
  refine ⟨tiles.offsets_lt, ?_, ?_, ?_⟩
  · have ends := tiles.ends
    rw [← Text.width_append, split, Text.width_ofList, String.ofList_toList] at ends
    exact ends
  · obtain ⟨k, us, hts⟩ := tiles.exists_cons
    refine ⟨_, us, document.toList.takeWhile Text.isBlank, hts, ⟨[], _, split.symm, rfl, rfl⟩, ?_⟩
    exact fun _ => of_mem_takeWhile
  · intro front t u back hts
    have here : TextAt document.toList (Text.width (document.toList.takeWhile Text.isBlank))
        (document.toList.dropWhile Text.isBlank) := ⟨_, split.symm, rfl⟩
    exact tiles.exists_slice here hts

theorem tokenize_tiles_comment :
    tokenize "<// é \n-1hex" = .ok [⟨.less, 0⟩, ⟨.comment "// é", 1⟩, ⟨.integer (-1), 8⟩,
      ⟨.identifier "hex", 10⟩, ⟨.endOfDocument, 13⟩] ∧
    ∃ slice, IsSlice "<// é \n-1hex".toList 1 8 slice ∧ tokenize (String.ofList slice) =
      .ok [⟨.comment "// é", 0⟩, ⟨.endOfDocument, Text.width slice⟩] := by
  have tokens : tokenize "<// é \n-1hex" = .ok [⟨.less, 0⟩, ⟨.comment "// é", 1⟩, ⟨.integer (-1), 8⟩,
      ⟨.identifier "hex", 10⟩, ⟨.endOfDocument, 13⟩] := by decide +kernel
  obtain ⟨-, -, -, slices⟩ := tokenize_tiles tokens
  exact ⟨tokens, slices [⟨.less, 0⟩] _ _ _ rfl⟩

end PolicyGate.Source
