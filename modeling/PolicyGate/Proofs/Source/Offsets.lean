import PolicyGate.Proofs.Source.Places

/-!
# What stands at an offset

Tokens and faults are told by byte offsets. `TextAt cs offset rest` says that the part `rest` of the text
`cs` begins at an offset: at the offset of a token stands a text that begins with it
(`begins_of_mem_tokenize`), and a fault is found in the text at the offset of its token
(`fault_of_tokenize`).
-/

namespace PolicyGate.Source

/-- The part `rest` of a text begins at this byte offset. -/
def TextAt (cs : List Char) (offset : Nat) (rest : List Char) : Prop :=
  ∃ before, cs = before ++ rest ∧ Text.width before = offset

section
variable {cs front rest : List Char} {offset : Nat}

theorem textAt_start (cs : List Char) : TextAt cs 0 cs :=
  ⟨[], rfl, rfl⟩

theorem TextAt.behind (h : TextAt cs offset (front ++ rest)) :
    TextAt cs (offset + Text.width front) rest := by
  obtain ⟨before, rfl, rfl⟩ := h
  exact ⟨before ++ front, (List.append_assoc ..).symm, Text.width_append before front⟩

theorem TextAt.behind_char {c : Char} (h : TextAt cs offset (c :: rest)) :
    TextAt cs (offset + c.utf8Size) rest := by
  have one : Text.width [c] = c.utf8Size := Nat.zero_add _
  rw [← one]
  exact TextAt.behind h

theorem TextAt.behind_blanks (h : TextAt cs offset front) :
    TextAt cs (offset + Text.width (front.takeWhile Text.isBlank)) (front.dropWhile Text.isBlank) := by
  rw [← List.takeWhile_append_dropWhile (p := Text.isBlank) (l := front)] at h
  exact h.behind

end

/-! ## Tokens -/

def Begins (k : TokenKind) : List Char → Prop
  | [] => k = .endOfDocument
  | c :: cs => ∃ s, scan c cs = .ok s ∧ s.kind = k

section
variable {whole cs : List Char} {pos : Nat} {ts : List Token}

theorem begins_of_mem_tokensFrom (here : TextAt whole pos cs) (h : tokensFrom pos cs = .ok ts) :
    ∀ t ∈ ts, ∃ rest, TextAt whole t.offset rest ∧ Begins t.kind rest := by
  fun_induction tokensFrom pos cs generalizing ts with
  | case1 =>
    rename_i pos cs start hc
    cases h
    have first : TextAt whole start [] := hc ▸ here.behind_blanks
    exact List.forall_mem_singleton.mpr ⟨[], first, rfl⟩
  | case2 => cases h
  | case3 => cases h
  | case4 =>
    rename_i pos cs start c rest hc s hs ts' hts ih
    cases h
    have first : TextAt whole start (c :: rest) := hc ▸ here.behind_blanks
    have behind : TextAt whole (start + Text.width s.spelling) s.rest := by
      rw [(scan_tiles hs).1] at first
      exact first.behind
    exact List.forall_mem_cons.mpr ⟨⟨c :: rest, first, s, hs, rfl⟩, ih behind hts⟩

theorem begins_of_mem_tokenize {document : String} (h : tokenize document = .ok ts) {t : Token}
    (ht : t ∈ ts) : ∃ rest, TextAt document.toList t.offset rest ∧ Begins t.kind rest :=
  begins_of_mem_tokensFrom (textAt_start _) h t ht

/-! ## Faults -/

theorem fault_of_tokensFrom {e : SyntaxError} (here : TextAt whole pos cs)
    (h : tokensFrom pos cs = .error e) :
    ∃ start c rest f, TextAt whole start (c :: rest) ∧ scan c rest = .error f ∧
      e = ⟨start + f.distance, f.fault⟩ := by
  fun_induction tokensFrom pos cs with
  | case1 => cases h
  | case2 pos cs start c rest hc f hs =>
    cases h
    exact ⟨start, c, rest, f, hc ▸ here.behind_blanks, hs, rfl⟩
  | case3 pos cs start c rest hc s hs e' he ih =>
    cases h
    have first : TextAt whole start (c :: rest) := hc ▸ here.behind_blanks
    rw [(scan_tiles hs).1] at first
    exact ih first.behind he
  | case4 => cases h

theorem fault_of_tokenize {document : String} {e : SyntaxError} (h : tokenize document = .error e) :
    ∃ start c rest f, TextAt document.toList start (c :: rest) ∧ scan c rest = .error f ∧
      e = ⟨start + f.distance, f.fault⟩ :=
  fault_of_tokensFrom (textAt_start _) h

end

end PolicyGate.Source
