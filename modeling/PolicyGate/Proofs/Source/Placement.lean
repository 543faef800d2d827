import PolicyGate.Proofs.Source.RoundTrip

/-!
# Where comments go

Of a document that was read it is known where each comment stood and which construct took it
(`Document.PlacedAs`). A rule and a caveat take the comments in front and those between their first and
last token. A policy takes the comments in front and those in front of its closing brace; the comments
between its word and the items of a block wait for an item, and go to the policy only if none of its blocks
has an item.
-/

namespace PolicyGate.Source

/-! ## Comments and the tokens around them -/

/-- Tokens with comments in front of any of them, but not behind the last. -/
inductive Among : List TokenKind → List String → List TokenKind → Prop
  | nil : Among [] [] []
  | cons {k : TokenKind} {ks ls : List TokenKind} {cs : List String} (gap : List String)
    (rest : Among ks cs ls) : Among (k :: ks) (gap ++ cs) (commentTokens gap ++ k :: ls)

structure Encloses (ks : List TokenKind) (cs : List String) (ls : List TokenKind) : Prop where
  among : Among ks cs ls
  first : ∀ k ∈ ls.head?, k.isComment = false

/-- A rule takes the comments in front, those that wait, and those inside. -/
def Rule.PlacedAs (_isFirst : Bool) (waiting : List String) (r : Rule) (ks : List TokenKind) : Prop :=
  ∃ front inside l, ks = commentTokens front ++ l ∧ Encloses r.tokens inside l ∧
    r.comments = front ++ waiting ++ inside

/-- A caveat takes also the comments behind the comma that may stand in front of it. -/
def Caveat.PlacedAs (isFirst : Bool) (waiting : List String) (c : Caveat) (ks : List TokenKind) : Prop :=
  ∃ front behind inside l, Encloses (queryTokens c.queries) inside l ∧
    c.comments = front ++ waiting ++ behind ++ inside ∧
    (ks = commentTokens front ++ l ∧ behind = [] ∨
      isFirst = false ∧ ks = commentTokens front ++ .comma :: (commentTokens behind ++ l))

section
variable {α : Type} (item : Bool → List String → α → List TokenKind → Prop)

/-- Only the first item finds comments that wait. -/
def ItemsPlacedAs : Bool → List String → List α → List TokenKind → Prop
  | _, _, [], ks => ks = []
  | isFirst, waiting, x :: xs, ks =>
    ∃ l m, ks = l ++ m ∧ item isFirst waiting x l ∧ ItemsPlacedAs false [] xs m

/-- The comments in front of the closing brace belong to the block. -/
def Block.PlacedAs (isFirst : Bool) (waiting : List String) (b : Block α) (ks : List TokenKind) : Prop :=
  ∃ l, ks = l ++ (commentTokens b.trailingComments ++ [.rightBrace]) ∧
    ItemsPlacedAs item isFirst waiting b.items l

def Block.leaves (b : Block α) (waiting : List String) : List String :=
  if b.items = [] then waiting else []

/-- The comments in front of the word and the brace that open a block join those that wait. -/
def OptionalPlacedAs (word : String) (waiting left : List String) :
    Option (Block α) → List TokenKind → Prop
  | some b, ks => ∃ opening o l, ks = o ++ l ∧ Among [.identifier word, .leftBrace] opening o ∧
    b.PlacedAs item true (waiting ++ opening) l ∧ left = b.leaves (waiting ++ opening)
  | none, ks => ks = [] ∧ left = waiting

end

/-- The comments in the opening of a policy wait for an item of its blocks; the policy takes those that
are left. -/
def Policy.PlacedAs (p : Policy) (ks : List TokenKind) : Prop :=
  ∃ front opening waiting left closing o l m e, ks = commentTokens front ++ (o ++ (l ++ (m ++ e))) ∧
    Encloses [.identifier "policy", .string p.name, .leftBrace] opening o ∧
    OptionalPlacedAs Rule.PlacedAs "rules" opening waiting p.rules l ∧
    OptionalPlacedAs Caveat.PlacedAs "caveats" waiting left p.caveats m ∧
    Among [.rightBrace] closing e ∧ p.comments = front ++ left ++ closing

def PoliciesPlacedAs : List Policy → List TokenKind → Prop
  | [], ks => ks = []
  | p :: ps, ks => ∃ l m, ks = l ++ m ∧ p.PlacedAs l ∧ PoliciesPlacedAs ps m

def Document.PlacedAs (d : Document) (ks : List TokenKind) : Prop :=
  ∃ l, ks = l ++ commentTokens d.trailingComments ∧ PoliciesPlacedAs d.policies l

/-! ## What a cursor has ahead -/

inductive Ended : List TokenKind → Prop
  | done : Ended [.endOfDocument]
  | cons {k : TokenKind} {ks : List TokenKind} (inside : k ≠ .endOfDocument) (rest : Ended ks) :
    Ended (k :: ks)

theorem ended_append {ks : List TokenKind} (h : .endOfDocument ∉ ks) : Ended (ks ++ [.endOfDocument]) := by
  induction ks with
  | nil => exact .done
  | cons k ks ih =>
    obtain ⟨first, rest⟩ := not_or.mp (mt List.mem_cons.mpr h)
    exact .cons (Ne.symm first) (ih rest)

theorem Ended.behind {k : TokenKind} {ks : List TokenKind} (h : Ended (k :: ks)) (hk : k ≠ .endOfDocument) :
    Ended ks := by
  cases h with
  | done => exact absurd rfl hk
  | cons _ rest => exact rest

theorem Ended.behind_comments {cs : List String} {ks : List TokenKind} (h : Ended (commentTokens cs ++ ks)) :
    Ended ks := by
  induction cs with
  | nil => exact h
  | cons c cs ih => exact ih (h.behind TokenKind.noConfusion)

theorem Ended.exists_front {ks : List TokenKind} (h : Ended ks) :
    ∃ cs k rest, ks = commentTokens cs ++ k :: rest ∧ k.isComment = false := by
  induction h with
  | done => exact ⟨[], _, [], rfl, rfl⟩
  | @cons k ks _ _ ih =>
    by_cases hk : k.isComment = true
    · obtain ⟨text, rfl⟩ := exists_of_isComment hk
      obtain ⟨cs, k, rest, rfl, significant⟩ := ih
      exact ⟨text :: cs, k, rest, rfl, significant⟩
    · exact ⟨[], k, ks, rfl, by simpa using hk⟩

namespace Cursor

/-- The cursor holds the comments that wait, and these tokens are ahead. -/
structure Shows (c : Cursor) (waiting : List String) (ks : List TokenKind) : Prop where
  hoisted : c.hoisted = waiting
  ahead : ∃ ts, c.ahead = lexemes [] ts ∧ ts.map Token.kind = ks
  ended : Ended ks

variable {c d : Cursor} {waiting cs : List String} {k : TokenKind} {ks ls : List TokenKind}

theorem Shows.front (h : c.Shows waiting ks) : ∃ cs t us, c = ⟨⟨cs, t⟩ :: lexemes [] us, waiting⟩ ∧
    ks = commentTokens cs ++ t.kind :: us.map Token.kind ∧ t.kind.isComment = false := by
  obtain ⟨ahead, hoisted⟩ := c
  obtain ⟨rfl, ⟨ts, rfl, kinds⟩, ended⟩ := h
  obtain ⟨cs, k, rest, rfl, significant⟩ := ended.exists_front
  obtain ⟨t, us, found, rfl, rfl⟩ := lexemes_commentTokens kinds significant []
  exact ⟨cs, t, us, by rw [found]; rfl, rfl, significant⟩

theorem Shows.takeComments (h : c.Shows waiting ks) (taken : c.takeComments = (cs, d)) :
    ∃ rest, ks = commentTokens cs ++ d.peek.kind :: rest ∧ d.peek.kind.isComment = false ∧
      d.Shows waiting (d.peek.kind :: rest) ∧ c.peek = d.peek := by
  obtain ⟨gap, t, us, rfl, rfl, significant⟩ := h.front
  cases taken
  have ahead : ⟨[], t⟩ :: lexemes [] us = lexemes [] (t :: us) := (lexemes_token significant [] us).symm
  exact ⟨us.map Token.kind, rfl, significant, ⟨rfl, ⟨t :: us, ahead, rfl⟩, h.ended.behind_comments⟩, rfl⟩

theorem Shows.takeHoisted (h : c.Shows waiting ks) (taken : c.takeHoisted = (cs, d)) :
    cs = waiting ∧ d.Shows [] ks := by
  obtain ⟨rfl, ahead, ended⟩ := h
  cases taken
  exact ⟨rfl, rfl, ahead, ended⟩

theorem Shows.advance (h : c.Shows waiting ks) (next : c.peek.kind = k) (inside : k ≠ .endOfDocument) :
    ∃ gap rest, ks = commentTokens gap ++ k :: rest ∧ c.advance.Shows (waiting ++ gap) rest := by
  obtain ⟨gap, t, us, rfl, rfl, -⟩ := h.front
  obtain rfl : t.kind = k := next
  exact ⟨gap, us.map Token.kind, rfl, rfl, ⟨us, rfl, rfl⟩, h.ended.behind_comments.behind inside⟩

theorem Shows.step (h : c.Shows waiting (c.peek.kind :: ks)) (hk : c.peek.kind.isComment = false)
    (inside : c.peek.kind ≠ .endOfDocument) : c.advance.Shows waiting ks := by
  obtain ⟨gap, rest, parts, shows⟩ := h.advance rfl inside
  cases gap with
  | nil =>
    rw [(List.cons.inj parts).2]
    simpa using shows
  | cons text gap =>
    rw [(List.cons.inj parts).1] at hk
    cases hk

theorem Shows.passes (h : c.Shows waiting ks) (passes : c.Passes ls d) (significant : Significant ls) :
    ∃ inside l rest, ks = l ++ rest ∧ Among ls inside l ∧ d.Shows (waiting ++ inside) rest := by
  induction ls generalizing c waiting ks with
  | nil =>
    cases passes
    exact ⟨[], [], ks, rfl, .nil, by simpa using h⟩
  | cons k ls ih =>
    obtain ⟨first, others⟩ : k.isSignificant = true ∧ Significant ls := List.forall_mem_cons.mp significant
    obtain ⟨next, passes⟩ := passes
    have inside : k ≠ .endOfDocument := fun e => by
      rw [e] at first
      cases first
    obtain ⟨gap, rest, rfl, shows⟩ := h.advance next inside
    obtain ⟨cs, l, rest, rfl, among, shows⟩ := ih shows passes others
    refine ⟨gap ++ cs, commentTokens gap ++ k :: l, rest, by simp, .cons gap among, ?_⟩
    rwa [List.append_assoc] at shows

theorem Shows.encloses (h : c.Shows waiting (k :: ks)) (hk : k.isComment = false) (passes : c.Passes ls d)
    (significant : Significant ls) :
    ∃ inside l rest, k :: ks = l ++ rest ∧ Encloses ls inside l ∧ d.Shows (waiting ++ inside) rest := by
  obtain ⟨inside, l, rest, parts, among, shows⟩ := h.passes passes significant
  refine ⟨inside, l, rest, parts, ⟨among, fun k' hk' => ?_⟩, shows⟩
  cases l with
  | nil => cases hk'
  | cons k'' l =>
    cases hk'
    rw [← (List.cons.inj parts).1]
    exact hk

end Cursor

/-! ## Items and blocks -/

namespace Parser

/-- A reader of the items of a block: what an item takes leaves no comment that waits. -/
structure PlacesItem {α : Type} (item : Bool → Parser α)
    (placed : Bool → List String → α → List TokenKind → Prop) : Prop where
  place : ∀ {isFirst c x d waiting ks}, (item isFirst).run c = .ok (x, d) → c.Shows waiting ks →
    ∃ l rest, ks = l ++ rest ∧ placed isFirst waiting x l ∧ d.Shows [] rest

theorem placesItem_rule : PlacesItem (fun _ => commentedRule) Rule.PlacedAs where
  place {_ c r d waiting ks} read shows := by
    simp only [commentedRule, bind_ok, takeComments_ok, takeHoisted_ok, pure_ok] at read
    obtain ⟨front, c1, taken, r, c2, read, hoisted, c3, taken', rfl, rfl⟩ := read
    obtain ⟨rest, rfl, significant, shows, -⟩ := shows.takeComments taken
    have passes := (reads_rule.sound read).2
    obtain ⟨inside, l, rest, parts, encloses, shows⟩ := shows.encloses significant passes (significant_rule r)
    obtain ⟨rfl, shows⟩ := shows.takeHoisted taken'
    have taken : front ++ (waiting ++ inside) = front ++ waiting ++ inside := by rw [List.append_assoc]
    exact ⟨commentTokens front ++ l, rest, by rw [parts, List.append_assoc],
      ⟨front, inside, l, rfl, encloses, taken⟩, shows⟩

theorem caveatSeparator_place {isFirst : Bool} {c d : Cursor} {cs waiting : List String} {ks : List TokenKind}
    (read : (caveatSeparator isFirst).run c = .ok (cs, d)) (shows : c.Shows waiting (c.peek.kind :: ks))
    (significant : c.peek.kind.isComment = false) :
    ∃ waiting' behind rest, d.Shows waiting' (d.peek.kind :: rest) ∧ d.peek.kind.isComment = false ∧
      cs ++ waiting' = waiting ++ behind ∧
      (c.peek.kind :: ks = d.peek.kind :: rest ∧ behind = [] ∨
        isFirst = false ∧ c.peek.kind :: ks = .comma :: (commentTokens behind ++ d.peek.kind :: rest)) := by
  simp only [caveatSeparator, cursor_bind_ok] at read
  split at read
  · next hc =>
    simp only [bind_ok, advance_ok, takeComments_ok, takeHoisted_ok, pure_ok] at read
    obtain ⟨_, _, rfl, hoisted, c1, taken, behind, c2, taken', rfl, rfl⟩ := read
    obtain ⟨notFirst, comma⟩ : isFirst = false ∧ c.sees .comma = true := by simpa using hc
    have comma := Cursor.sees_eq_true.mp comma
    have passed := shows.step significant (by rw [comma]; exact TokenKind.noConfusion)
    obtain ⟨rfl, emptied⟩ := passed.takeHoisted taken
    obtain ⟨rest, rfl, significant, shows, -⟩ := emptied.takeComments taken'
    exact ⟨[], behind, rest, shows, significant, List.append_nil _, .inr ⟨notFirst, by rw [comma]⟩⟩
  · obtain ⟨rfl, rfl⟩ := pure_ok.mp read
    exact ⟨waiting, [], ks, shows, significant, (List.append_nil waiting).symm, .inl ⟨rfl, rfl⟩⟩

theorem placesItem_caveat : PlacesItem commentedCaveat Caveat.PlacedAs where
  place {isFirst c x d waiting ks} read shows := by
    simp only [commentedCaveat, bind_ok, takeComments_ok, takeHoisted_ok, pure_ok] at read
    obtain ⟨front, c1, taken, around, c2, separated, qs, c3, read, hoisted, c4, taken', rfl, rfl⟩ := read
    obtain ⟨rest, rfl, significant, shows, -⟩ := shows.takeComments taken
    obtain ⟨waiting', behind, rest', shows, significant, comments, separator⟩ :=
      caveatSeparator_place separated shows significant
    have passes := (reads_caveatList.sound read).2
    obtain ⟨inside, l, rest'', parts, encloses, shows⟩ := shows.encloses significant passes
      (significant_queries qs)
    obtain ⟨rfl, shows⟩ := shows.takeHoisted taken'
    have taken : front ++ around ++ (waiting' ++ inside) = front ++ waiting ++ behind ++ inside := by
      rw [← List.append_assoc, List.append_assoc front, comments, ← List.append_assoc]
    rw [parts] at separator
    rcases separator with ⟨written, rfl⟩ | ⟨notFirst, written⟩
    · exact ⟨commentTokens front ++ l, rest'', by rw [written, List.append_assoc],
        ⟨front, [], inside, l, encloses, taken, .inl ⟨rfl, rfl⟩⟩, shows⟩
    · exact ⟨commentTokens front ++ .comma :: (commentTokens behind ++ l), rest'', by simp [written],
        ⟨front, behind, inside, l, encloses, taken, .inr ⟨notFirst, rfl⟩⟩, shows⟩

section
variable {α : Type} {item : Bool → Parser α} {placed : Bool → List String → α → List TokenKind → Prop}
  {progresses : ∀ b, (item b).Progresses} {c d : Cursor} {waiting : List String} {ks : List TokenKind}

theorem PlacesItem.block_placed (h : PlacesItem item placed) {isFirst : Bool} {b : Block α}
    (read : blockFrom item progresses isFirst c = .ok (b, d)) (shows : c.Shows waiting ks) :
    ∃ l rest, ks = l ++ rest ∧ b.PlacedAs placed isFirst waiting l ∧ d.Shows (b.leaves waiting) rest := by
  fun_induction blockFrom item progresses isFirst c generalizing b d waiting ks with
  | case1 isFirst c close comments e taken =>
    cases read
    obtain ⟨rest, rfl, significant, shows, peek⟩ := shows.takeComments taken
    have brace : e.peek.kind = .rightBrace := peek ▸ Cursor.sees_eq_true.mp close
    have passed := shows.step significant (by rw [brace]; exact TokenKind.noConfusion)
    exact ⟨commentTokens comments ++ [.rightBrace], rest, by simp [brace], ⟨[], rfl, rfl⟩, passed⟩
  | case2 => cases read
  | case3 => cases read
  | case4 isFirst c _ x e readItem b' f readBlock ih =>
    cases read
    obtain ⟨k, rest, rfl, first, shows⟩ := h.place readItem shows
    obtain ⟨m, rest, rfl, ⟨l, rfl, items⟩, behind⟩ := ih readBlock shows
    have items : ItemsPlacedAs placed isFirst waiting (x :: b'.items) (k ++ l) := ⟨k, l, rfl, first, items⟩
    refine ⟨k ++ l ++ (commentTokens b'.trailingComments ++ [.rightBrace]), rest, by simp,
      ⟨k ++ l, rfl, items⟩, ?_⟩
    simpa [Block.leaves] using behind

theorem PlacesItem.optional_placed (h : PlacesItem item placed) {word : String} {b : Option (Block α)}
    (read : (optionalBlock word (block item progresses)).run c = .ok (b, d)) (shows : c.Shows waiting ks) :
    ∃ left l rest, ks = l ++ rest ∧ OptionalPlacedAs placed word waiting left b l ∧ d.Shows left rest := by
  simp only [optionalBlock, cursor_bind_ok] at read
  split at read
  · next here =>
    simp only [bind_ok, advance_ok, expect_ok, pure_ok] at read
    obtain ⟨_, _, rfl, _, _, ⟨brace, -, rfl⟩, b, e, read, rfl, rfl⟩ := read
    have passes : c.Passes [.identifier word, .leftBrace] c.advance.advance :=
      ⟨Cursor.seesWord_eq_true.mp here, brace, rfl⟩
    obtain ⟨opening, o, rest, rfl, among, shows⟩ := shows.passes passes (.cons rfl (.cons rfl .nil))
    obtain ⟨l, rest, rfl, placed, shows⟩ := h.block_placed read shows
    exact ⟨_, o ++ l, rest, by rw [List.append_assoc], ⟨opening, o, l, rfl, among, placed, rfl⟩, shows⟩
  · obtain ⟨rfl, rfl⟩ := pure_ok.mp read
    exact ⟨waiting, [], ks, rfl, ⟨rfl, rfl⟩, shows⟩

end

/-! ## Policies and documents -/

theorem policy_placed {c d : Cursor} {p : Policy} {ks : List TokenKind} (read : policy.run c = .ok (p, d))
    (shows : c.Shows [] ks) : ∃ l rest, ks = l ++ rest ∧ p.PlacedAs l ∧ d.Shows [] rest := by
  simp only [policy, policyBody, bind_ok, takeComments_ok, expectWord_ok, stringContent_ok, expect_ok,
    delimiter_ok, takeHoisted_ok, pure_ok] at read
  obtain ⟨front, e, taken, _, _, ⟨word, -, rfl⟩, name, _, ⟨named, rfl⟩, _, _, ⟨brace, -, rfl⟩, rules, e1,
    readRules, caveats, e2, readCaveats, _, _, ⟨close, rfl⟩, hoisted, f, taken', rfl, rfl⟩ := read
  have opens : e.Passes [.identifier "policy", .string name, .leftBrace] e.advance.advance.advance :=
    ⟨word, named, brace, rfl⟩
  have closes : e2.Passes [.rightBrace] e2.advance := ⟨close, rfl⟩
  obtain ⟨rest, rfl, significant, shows, -⟩ := shows.takeComments taken
  obtain ⟨opening, o, rest, parts, encloses, shows⟩ := shows.encloses significant opens
    (.cons rfl (.cons rfl (.cons rfl .nil)))
  obtain ⟨waiting, l, rest, rfl, placedRules, shows⟩ := placesItem_rule.optional_placed readRules shows
  obtain ⟨left, m, rest, rfl, placedCaveats, shows⟩ := placesItem_caveat.optional_placed readCaveats shows
  obtain ⟨closing, last, rest, rfl, among, shows⟩ := shows.passes closes (.cons rfl .nil)
  obtain ⟨rfl, shows⟩ := shows.takeHoisted taken'
  refine ⟨commentTokens front ++ (o ++ (l ++ (m ++ last))), rest, ?_, ?_, shows⟩
  · rw [parts]
    simp only [List.append_assoc]
  · exact ⟨front, opening, waiting, left, closing, o, l, m, last, rfl, encloses, placedRules, placedCaveats,
      among, (List.append_assoc front left closing).symm⟩

theorem documentFrom_placed {c : Cursor} {d : Document} {ks : List TokenKind} (read : documentFrom c = .ok d)
    (shows : c.Shows [] ks) : ∃ l, ks = l ++ [.endOfDocument] ∧ d.PlacedAs l := by
  fun_induction documentFrom c generalizing d ks with
  | case1 c close =>
    cases read
    obtain ⟨comments, e, taken⟩ : ∃ comments e, c.takeComments = (comments, e) := ⟨_, _, rfl⟩
    obtain ⟨rest, rfl, -, shows, peek⟩ := shows.takeComments taken
    have last : e.peek.kind = .endOfDocument := peek ▸ Cursor.sees_eq_true.mp close
    rw [last] at shows ⊢
    rw [taken]
    cases shows.ended with
    | done => exact ⟨commentTokens comments, rfl, [], rfl, rfl⟩
    | cons inside _ => exact absurd rfl inside
  | case2 => cases read
  | case3 => cases read
  | case4 c _ p e readPolicy d' readRest ih =>
    cases read
    obtain ⟨l, rest, rfl, placed, shows⟩ := policy_placed readPolicy shows
    obtain ⟨m, rfl, n, rfl, policies⟩ := ih readRest shows
    exact ⟨l ++ n ++ commentTokens d'.trailingComments, by simp, l ++ n, rfl, l, n, rfl, placed, policies⟩

end Parser

/-- Of a document that is read each comment is placed: it is taken by the rule or caveat that it stands
in or in front of, by the first item of a block if it stands between the word of the policy and that item,
and else by the policy, the block or the document. -/
theorem Document.ofText_placed {document : String} {d : Document} (read : Document.ofText document = .ok d) :
    ∃ ts ks, tokenize document = .ok ts ∧ ts.map Token.kind = ks ++ [.endOfDocument] ∧ d.PlacedAs ks := by
  obtain ⟨ts, tokens, read⟩ := exists_ofTokens_of_ofText read
  obtain ⟨ks, kinds, spells⟩ := spells_of_tokenize tokens
  have ended : Ended (ks ++ [.endOfDocument]) := ended_append fun inside => spells.written _ inside
  obtain ⟨l, parts, placed⟩ := Parser.documentFrom_placed read ⟨rfl, ⟨ts, rfl, kinds⟩, ended⟩
  rw [List.append_cancel_right parts] at kinds
  exact ⟨ts, l, tokens, kinds, placed⟩

theorem Document.ofText_placed_opening : ∃ ts ks,
    tokenize "policy //c\n\"p\" \x7b rules \x7b *r() <- b() \x7d \x7d" = .ok ts ∧
    ts.map Token.kind = ks ++ [.endOfDocument] ∧
    Document.PlacedAs ⟨[⟨[], "p", 0, some ⟨[⟨["//c"], ⟨"r", []⟩, [⟨"b", []⟩], []⟩], []⟩, none⟩], []⟩ ks :=
  Document.ofText_placed (by decide +kernel)

/-- A comment between the word of a policy and its name is not taken by the policy, but by its rule. -/
theorem Document.comment_leaves_policy :
    (tokenize "policy //c\n\"p\" \x7b rules \x7b *r() <- b() \x7d \x7d").map (List.map Token.kind) =
        .ok [.identifier "policy", .comment "//c", .string "p", .leftBrace, .identifier "rules", .leftBrace,
          .star, .identifier "r", .leftParen, .rightParen, .arrow, .identifier "b", .leftParen, .rightParen,
          .rightBrace, .rightBrace, .endOfDocument] ∧
      Document.ofText "policy //c\n\"p\" \x7b rules \x7b *r() <- b() \x7d \x7d" =
        .ok ⟨[⟨[], "p", 0, some ⟨[⟨["//c"], ⟨"r", []⟩, [⟨"b", []⟩], []⟩], []⟩, none⟩], []⟩ := by
  constructor
  · decide +kernel
  · decide +kernel

end PolicyGate.Source
