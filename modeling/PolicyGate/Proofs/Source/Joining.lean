import PolicyGate.Proofs.Source.Occurrences

/-!
# Documents one after the other

Two texts with a line feed between them spell the tokens of both, since no token goes on behind the end of
a line. So the joined text has the policies of both trees: `Document.IsTreeOf.followedBy`.
-/

namespace PolicyGate.Source

theorem extendedBy_newline (k : TokenKind) : k.extendedBy '\n' = false := by
  cases k with
  | identifier name =>
    have word : isWordChar '\n' = false := by decide
    simp [TokenKind.extendedBy, word]
  | _ => rfl

theorem Apart.newline {k : TokenKind} {rest : List Char} (h : Apart k rest) (behind : List Char) :
    Apart k (rest ++ '\n' :: behind) := by
  cases rest with
  | nil =>
    intro c hc
    obtain rfl : '\n' = c := Option.some.inj hc
    exact extendedBy_newline k
  | cons c rest => exact h

theorem Spells.newline {cs ds : List Char} {ks ls : List TokenKind} (h : Spells cs ks) (h' : Spells ds ls) :
    Spells (cs ++ '\n' :: ds) (ks ++ ls) := by
  induction h with
  | nil => exact .blank (by decide) h'
  | blank hc _ ih => exact .blank hc ih
  | token hs ha _ ih =>
    rw [List.append_assoc]
    exact .token hs (ha.newline ds) ih

/-- The policies of both trees. Which comments stand between them does not matter for what they mean. -/
def Document.followedBy (d e : Document) : Document where
  policies := d.policies ++ e.policies
  trailingComments := e.trailingComments

theorem Document.vars_followedBy (d e : Document) : (d.followedBy e).vars = d.vars ++ e.vars :=
  List.flatMap_append

theorem PoliciesWrittenAs.append {write : List String → List TokenKind} {ps qs : List Policy}
    {ks ls : List TokenKind} (h : PoliciesWrittenAs write ps ks) (h' : PoliciesWrittenAs write qs ls) :
    PoliciesWrittenAs write (ps ++ qs) (ks ++ ls) := by
  induction ps generalizing ks with
  | nil =>
    cases h
    exact h'
  | cons p ps ih =>
    obtain ⟨l, m, rfl, hl, hm⟩ := h
    exact ⟨l, m ++ ls, List.append_assoc l m ls, hl, ih hm⟩

theorem Document.IsTreeOf.followedBy {d e : Document} {text text' : List Char} (h : d.IsTreeOf text)
    (h' : e.IsTreeOf text') : (d.followedBy e).IsTreeOf (text ++ '\n' :: text') := by
  obtain ⟨ks, spells, ok, l, tokens, written⟩ := h
  obtain ⟨ls, spells', ok', m, tokens', written'⟩ := h'
  refine ⟨ks ++ ls, spells.newline spells', List.forall_mem_append.mpr ⟨ok, ok'⟩, l ++ m, ?_,
    written.append written'⟩
  rw [withoutComments, List.filter_append]
  rw [withoutComments] at tokens tokens'
  rw [tokens, tokens']
  simp [noComments]

end PolicyGate.Source
