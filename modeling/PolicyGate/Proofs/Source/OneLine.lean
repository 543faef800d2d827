import PolicyGate.Proofs.Fact.Reading

/-!
# Texts on one line

Tokens other than comments have no line break in their spelling, so neither have a rule and a caveat that are
written on one line (`Rule.oneLine_inlineText`).
-/

namespace PolicyGate

def OneLine (text : String) : Prop :=
  '\n' ∉ text.toList

instance (text : String) : Decidable (OneLine text) :=
  inferInstanceAs (Decidable ('\n' ∉ text.toList))

namespace OneLine

variable {a b separator : String} {ts : List String}

theorem append (ha : OneLine a) (hb : OneLine b) : OneLine (a ++ b) := by
  unfold OneLine
  rw [String.toList_append, List.mem_append]
  exact not_or.mpr ⟨ha, hb⟩

theorem intercalate (hs : OneLine separator) (h : ∀ t ∈ ts, OneLine t) :
    OneLine (String.intercalate separator ts) := by
  induction ts with
  | nil => exact List.not_mem_nil
  | cons t ts ih =>
    obtain ⟨ht, hts⟩ := List.forall_mem_cons.mp h
    cases ts with
    | nil => rwa [String.intercalate_singleton]
    | cons u us =>
      rw [String.intercalate_cons_cons]
      exact (ht.append hs).append (ih hts)

end OneLine

namespace Source

theorem newline_not_mem_word {name : String} (h : IsWord name.toList) : '\n' ∉ name.toList := by
  intro mem
  cases h.2 _ mem

theorem newline_not_mem_spelling {k : TokenKind} (hw : k.IsWritten) (hk : k.isComment = false) :
    '\n' ∉ k.spelling := by
  cases k with
  | identifier name => exact newline_not_mem_word hw.1
  | var name => simpa [TokenKind.spelling] using newline_not_mem_word hw
  | symbol name => simpa [TokenKind.spelling] using newline_not_mem_word hw
  | string content => simp [TokenKind.spelling, Text.Quoted.quote, Atom.newline_not_mem_escape]
  | integer value =>
    intro mem
    cases Atom.isDelimiter_of_mem_integer mem
  | bytes value =>
    have digits : '\n' ∉ Text.Hex.encode value := by
      intro mem
      cases Text.Hex.isDigit_of_mem_encode mem
    simp [TokenKind.spelling, digits]
  | comment text => cases hk
  | _ => decide

theorem Literal.oneLine_text {v : Literal} (h : v.token.IsWritten) : OneLine v.text := by
  unfold OneLine
  rw [v.toList_text]
  exact newline_not_mem_spelling h (isComment_literal v)

theorem Term.oneLine_text {t : Term} (h : t.token.IsWritten) : OneLine t.text := by
  unfold OneLine
  rw [t.toList_text]
  exact newline_not_mem_spelling h (isComment_term t)

theorem Comparison.oneLine_text (op : Comparison) : OneLine op.text := by
  cases op <;> decide

theorem Predicate.oneLine_text {p : Predicate} (h : Written p.tokens) : OneLine p.text := by
  simp only [Predicate.tokens, Written.cons, Written.append] at h
  obtain ⟨name, -, terms, -⟩ := h
  have inside : OneLine (String.intercalate ", " (p.terms.map Term.text)) := by
    refine .intercalate (by decide) (List.forall_mem_map.mpr fun t ht => t.oneLine_text ?_)
    exact terms.of_joined t ht _ List.mem_cons_self
  refine ((OneLine.append ?_ (by decide)).append inside).append (by decide)
  exact newline_not_mem_word name.1

theorem oneLine_members {first : Literal} {others : List Literal} (h : Written (setTokens first others)) :
    OneLine (String.intercalate ", " ((first :: others).map Literal.text)) := by
  rw [setTokens_eq] at h
  have members := (Written.append.mp (Written.cons.mp h).2).1
  refine .intercalate (by decide) (List.forall_mem_map.mpr fun l hl => l.oneLine_text ?_)
  exact members.of_joined l hl _ List.mem_cons_self

theorem Constraint.oneLine_text {x : Constraint} (h : Written x.tokens) : OneLine x.text := by
  cases x with
  | compare subject op value =>
    simp only [Constraint.tokens, Written.cons] at h
    obtain ⟨name, -, literal, -⟩ := h
    have subjectLine : OneLine ("$" ++ subject) := .append (by decide) (newline_not_mem_word name)
    have opLine := (subjectLine.append (b := " ") (by decide)).append op.oneLine_text
    exact (opLine.append (b := " ") (by decide)).append (value.oneLine_text literal)
  | member subject negated first others =>
    simp only [Constraint.tokens, Written.cons, Written.append] at h
    obtain ⟨name, -, set⟩ := h
    have subjectLine : OneLine ("$" ++ subject) := .append (by decide) (newline_not_mem_word name)
    have words : OneLine (if negated then " not in [" else " in [") := by cases negated <;> decide
    exact ((subjectLine.append words).append (oneLine_members set)).append (by decide)
  | test f subject value =>
    simp only [Constraint.tokens, Written.cons] at h
    obtain ⟨function, -, name, -, content, -, -⟩ := h
    have functionLine : OneLine (f.text ++ "($") := .append (newline_not_mem_word function.1) (by decide)
    have subjectLine := functionLine.append (newline_not_mem_word name)
    have contentLine := Literal.oneLine_text (v := .string value) content
    exact ((subjectLine.append (b := ", ") (by decide)).append contentLine).append (by decide)

theorem Rule.oneLine_inlineText {r : Rule} (h : Written r.tokens) : OneLine r.inlineText := by
  simp only [Rule.tokens, Written.cons, Written.append] at h
  obtain ⟨-, head, -, body, conditions⟩ := h
  have headLine : OneLine ("*" ++ r.head.text) := .append (by decide) (Predicate.oneLine_text head)
  have bodyLine : OneLine (String.intercalate ", " (r.body.map Predicate.text)) :=
    .intercalate (by decide) (List.forall_mem_map.mpr fun p hp => Predicate.oneLine_text (body.of_joined p hp))
  refine ((headLine.append (b := " <- ") (by decide)).append bodyLine).append ?_
  split
  · decide
  · next some =>
    rw [constraintTokens, if_neg some] at conditions
    have constraint := (Written.cons.mp conditions).2
    refine .append (by decide) (.intercalate (by decide) (List.forall_mem_map.mpr fun x hx => ?_))
    exact Constraint.oneLine_text (constraint.of_joined x hx)

end Source
end PolicyGate
