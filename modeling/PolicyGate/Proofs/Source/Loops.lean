import PolicyGate.Source.Parser

/-!
# Readers that repeat

One round of each reader that repeats another one, and what makes the repetition end.
-/

namespace PolicyGate.Source.Parser

section
variable {α β : Type}

theorem run_bind_eq (p : Parser α) (k : α → Parser β) (c : Cursor) :
    (p >>= k).run c = p.run c >>= fun r => (k r.1).run r.2 := by
  rw [run_bind]
  cases p.run c <;> rfl

theorem othersFrom_eq (separator : TokenKind) (item : Parser α) (c : Cursor) :
    othersFrom separator item c =
      if c.sees separator ∧ separator ≠ .endOfDocument then do
        let first ← item.run c.advance
        let rest ← othersFrom separator item first.2
        return (first.1 :: rest.1, rest.2)
      else .ok ([], c) := by
  rw [othersFrom]
  split
  · cases item.run c.advance with
    | error e => rfl
    | ok first =>
      simp only [Bind.bind, Except.bind]
      cases othersFrom separator item first.2 <;> rfl
  · rfl

theorem others_run_more {separator : TokenKind} {item : Parser α} {c : Cursor}
    (more : c.sees separator ∧ separator ≠ .endOfDocument) :
    (others separator item).run c =
      (do
        advance
        let first ← item
        let rest ← others separator item
        return first :: rest : Parser (List α)).run c := by
  simp only [others, othersFrom_eq separator item c, if_pos more, run_bind_eq]
  rfl

theorem others_run_done {separator : TokenKind} {item : Parser α} {c : Cursor}
    (done : ¬(c.sees separator ∧ separator ≠ .endOfDocument)) :
    (others separator item).run c = .ok ([], c) := by
  simp only [others, othersFrom_eq separator item c, if_neg done]

theorem length_lt_of_separator {separator : TokenKind} {item : Parser α} {c d : Cursor} {x : α}
    (more : c.sees separator ∧ separator ≠ .endOfDocument) (h : item.run c.advance = .ok (x, d)) :
    d.ahead.length < c.ahead.length := by
  have kind : c.peek.kind = separator := by simpa [Cursor.sees] using more.1
  have passed : c.advance.ahead.length < c.ahead.length :=
    Cursor.length_ahead_advance_lt (by rw [kind]; exact more.2)
  exact Nat.lt_of_le_of_lt (item.never_back h) passed

theorem blockFrom_eq (item : Bool → Parser α) (progresses : ∀ b, (item b).Progresses) (isFirst : Bool)
    (c : Cursor) :
    blockFrom item progresses isFirst c =
      if c.sees .rightBrace then .ok (⟨[], c.takeComments.1⟩, c.takeComments.2.advance)
      else do
        let first ← (item isFirst).run c
        let rest ← blockFrom item progresses false first.2
        return (⟨first.1 :: rest.1.items, rest.1.trailingComments⟩, rest.2) := by
  rw [blockFrom]
  split
  · rfl
  · cases (item isFirst).run c with
    | error e => rfl
    | ok first =>
      simp only [Bind.bind, Except.bind]
      cases blockFrom item progresses false first.2 <;> rfl

def blockAt (item : Bool → Parser α) (progresses : ∀ b, (item b).Progresses) (isFirst : Bool) :
    Parser (Block α) where
  run := blockFrom item progresses isFirst
  never_back := blockFrom_never_back

theorem blockAt_run_close {item : Bool → Parser α} {progresses : ∀ b, (item b).Progresses}
    {isFirst : Bool} {c : Cursor} (close : c.sees .rightBrace = true) :
    (blockAt item progresses isFirst).run c =
      (do
        let comments ← takeComments
        advance
        return ⟨[], comments⟩ : Parser (Block α)).run c := by
  simp only [blockAt, blockFrom_eq item progresses isFirst c, if_pos close]
  rfl

theorem blockAt_run_item {item : Bool → Parser α} {progresses : ∀ b, (item b).Progresses}
    {isFirst : Bool} {c : Cursor} (more : ¬c.sees .rightBrace = true) :
    (blockAt item progresses isFirst).run c =
      (do
        let first ← item isFirst
        let rest ← blockAt item progresses false
        return ⟨first :: rest.items, rest.trailingComments⟩ : Parser (Block α)).run c := by
  simp only [blockAt, blockFrom_eq item progresses isFirst c, if_neg more, run_bind_eq]
  rfl

end

theorem documentFrom_eq (c : Cursor) :
    documentFrom c =
      if c.sees .endOfDocument then .ok ⟨[], c.takeComments.1⟩
      else do
        let first ← policy.run c
        let rest ← documentFrom first.2
        return ⟨first.1 :: rest.policies, rest.trailingComments⟩ := by
  rw [documentFrom]
  split
  · rfl
  · cases policy.run c with
    | error e => rfl
    | ok first =>
      simp only [Bind.bind, Except.bind]
      cases documentFrom first.2 <;> rfl

end PolicyGate.Source.Parser
