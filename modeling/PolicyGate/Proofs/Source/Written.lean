import PolicyGate.Proofs.Source.TreeTokens

/-!
# Between the tokens of a tree and those an author wrote

Of the tokens of a tree, the `isFirm` ones are the same however its author wrote it:
`Document.WrittenAs.firm`. The canonical layout is one way to write a tree (`Document.writtenAs_tokens`).
-/

namespace PolicyGate.Source

def TokenKind.isSignificant : TokenKind → Bool
  | comment _ | endOfDocument => false
  | _ => true

theorem isSignificant_literal (v : Literal) : v.token.isSignificant = true := by
  cases v <;> rfl

theorem isSignificant_term (t : Term) : t.token.isSignificant = true := by
  cases t with
  | var name => rfl
  | literal v => exact isSignificant_literal v

theorem isSignificant_comparison (op : Comparison) : op.token.isSignificant = true := by
  cases op <;> rfl

theorem mem_joined {separator k : TokenKind} {kss : List (List TokenKind)}
    (h : k ∈ joined separator kss) : k = separator ∨ ∃ ks ∈ kss, k ∈ ks := by
  cases kss with
  | nil => cases h
  | cons ks kss =>
    simp only [joined, List.mem_append, List.mem_flatMap, List.mem_cons] at h
    rcases h with h | ⟨ls, hls, rfl | h⟩
    · exact .inr ⟨ks, List.mem_cons_self, h⟩
    · exact .inl rfl
    · exact .inr ⟨ls, List.mem_cons_of_mem _ hls, h⟩

def Significant (ks : List TokenKind) : Prop :=
  ∀ k ∈ ks, k.isSignificant = true

theorem Significant.joined {separator : TokenKind} {kss : List (List TokenKind)}
    (hs : separator.isSignificant = true) (h : ∀ ks ∈ kss, Significant ks) :
    Significant (joined separator kss) := by
  intro k hk
  rcases mem_joined hk with rfl | ⟨ks, hks, hk⟩
  · exact hs
  · exact h ks hks k hk

theorem Significant.append {ks ls : List TokenKind} (hk : Significant ks) (hl : Significant ls) :
    Significant (ks ++ ls) :=
  List.forall_mem_append.mpr ⟨hk, hl⟩

theorem Significant.cons {k : TokenKind} {ks : List TokenKind} (hk : k.isSignificant = true)
    (h : Significant ks) : Significant (k :: ks) :=
  List.forall_mem_cons.mpr ⟨hk, h⟩

theorem Significant.nil : Significant [] := by
  intro k hk; cases hk

theorem significant_predicate (p : Predicate) : Significant p.tokens := by
  refine .cons rfl (.cons rfl (.append (.joined rfl fun ks hks => ?_) (.cons rfl .nil)))
  obtain ⟨t, _, rfl⟩ := List.mem_map.mp hks
  exact .cons (isSignificant_term t) .nil

theorem significant_constraint (x : Constraint) : Significant x.tokens := by
  cases x with
  | compare subject op value =>
    exact .cons rfl (.cons (isSignificant_comparison op) (.cons (isSignificant_literal value) .nil))
  | member subject negated first others =>
    refine .cons rfl (.append ?_ (.cons rfl (.cons (isSignificant_literal first)
      (.append ?_ (.cons rfl .nil)))))
    · cases negated
      · exact .cons rfl .nil
      · exact .cons rfl (.cons rfl .nil)
    · intro k hk
      obtain ⟨l, _, hk⟩ := List.mem_flatMap.mp hk
      exact (Significant.cons rfl (.cons (isSignificant_literal l) .nil)) k hk
  | test f subject value =>
    exact .cons rfl (.cons rfl (.cons rfl (.cons rfl (.cons rfl (.cons rfl .nil)))))

theorem significant_rule (r : Rule) : Significant r.tokens := by
  refine .cons rfl (.append (significant_predicate _) (.cons rfl (.append (.joined rfl ?_) ?_)))
  · intro ks hks
    obtain ⟨p, _, rfl⟩ := List.mem_map.mp hks
    exact significant_predicate p
  · unfold constraintTokens
    split
    · exact .nil
    · refine .cons rfl (.joined rfl fun ks hks => ?_)
      obtain ⟨x, _, rfl⟩ := List.mem_map.mp hks
      exact significant_constraint x

theorem significant_queries (qs : List Rule) : Significant (queryTokens qs) := by
  refine .cons rfl (.append (.joined rfl fun ks hks => ?_) (.cons rfl .nil))
  obtain ⟨q, _, rfl⟩ := List.mem_map.mp hks
  exact significant_rule q

/-! ## All but comments and commas -/

def TokenKind.isFirm (k : TokenKind) : Bool :=
  k.isSignificant && k != .comma

def withoutCommas (ks : List TokenKind) : List TokenKind :=
  ks.filter (· != .comma)

def firmOnly (ks : List TokenKind) : List TokenKind :=
  ks.filter TokenKind.isFirm

@[simp] theorem withoutCommas_append (ks ls : List TokenKind) :
    withoutCommas (ks ++ ls) = withoutCommas ks ++ withoutCommas ls := by
  simp [withoutCommas]

@[simp] theorem firm_append (ks ls : List TokenKind) : firmOnly (ks ++ ls) = firmOnly ks ++ firmOnly ls := by
  simp [firmOnly]

@[simp] theorem firm_comments (cs : List String) : firmOnly (commentTokens cs) = [] := by
  simp [firmOnly, commentTokens, TokenKind.isFirm, TokenKind.isSignificant]

theorem Significant.firm {ks : List TokenKind} (h : Significant ks) : firmOnly ks = withoutCommas ks := by
  refine List.filter_congr fun k hk => ?_
  simp [TokenKind.isFirm, h k hk]

theorem significant_of_firm {ks ls : List TokenKind} (h : withoutCommas ks = firmOnly ls) :
    Significant ks := by
  intro k hk
  by_cases hc : k = .comma
  · rw [hc]; rfl
  · have hm : k ∈ firmOnly ls := by
      rw [← h]
      exact List.mem_filter.mpr ⟨hk, by simpa using hc⟩
    have hf := (List.mem_filter.mp hm).2
    simp only [TokenKind.isFirm, Bool.and_eq_true] at hf
    exact hf.1

theorem Rule.WrittenAs.firm {isFirst : Bool} {r : Rule} {ks : List TokenKind}
    (h : r.WrittenAs noComments isFirst ks) : withoutCommas ks = firmOnly r.commentedTokens := by
  subst h
  simp [noComments, Rule.commentedTokens, (significant_rule r).firm]

theorem Caveat.WrittenAs.firm {isFirst : Bool} {c : Caveat} {ks : List TokenKind}
    (h : c.WrittenAs noComments isFirst ks) : withoutCommas ks = firmOnly c.commentedTokens := by
  rcases h with rfl | ⟨_, rfl⟩
  · simp [noComments, Caveat.commentedTokens, (significant_queries c.queries).firm]
  · simp [noComments, Caveat.commentedTokens, (significant_queries c.queries).firm, withoutCommas]

section
variable {α : Type} {written : Bool → α → List TokenKind → Prop} {tokens : α → List TokenKind}

theorem ItemsWrittenAs.firm {isFirst : Bool} {xs : List α} {ks : List TokenKind}
    (h : ItemsWrittenAs written isFirst xs ks)
    (item : ∀ isFirst x ks, written isFirst x ks → withoutCommas ks = firmOnly (tokens x)) :
    withoutCommas ks = firmOnly (xs.flatMap tokens) := by
  induction xs generalizing isFirst ks with
  | nil => cases h; rfl
  | cons x xs ih =>
    obtain ⟨l, m, rfl, hl, hm⟩ := h
    simp [item _ _ _ hl, ih hm]

theorem OptionalWrittenAs.firm {word : String} {b : Option (Block α)} {ks : List TokenKind}
    (h : OptionalWrittenAs noComments written word b ks)
    (item : ∀ isFirst x ks, written isFirst x ks → withoutCommas ks = firmOnly (tokens x)) :
    withoutCommas ks = firmOnly (optionalTokens word tokens b) := by
  cases b with
  | none => cases h; rfl
  | some b =>
    obtain ⟨l, rfl, m, rfl, hm⟩ := h
    have items := hm.firm item
    show .identifier word :: .leftBrace :: withoutCommas (m ++ ([] ++ [.rightBrace])) =
      .identifier word :: .leftBrace :: firmOnly (b.tokens tokens)
    simp only [Block.tokens, withoutCommas_append, firm_append, firm_comments, items]
    rfl

end

theorem Policy.WrittenAs.firm {p : Policy} {ks : List TokenKind} (h : p.WrittenAs noComments ks) :
    withoutCommas ks = firmOnly p.tokens := by
  obtain ⟨l, m, rfl, hl, hm⟩ := h
  have rules := hl.firm fun _ _ _ => Rule.WrittenAs.firm
  have caveats := hm.firm fun _ _ _ => Caveat.WrittenAs.firm
  simp only [Policy.tokens, withoutCommas_append, firm_append, firm_comments, noComments]
  show .identifier "policy" :: .string p.name :: .leftBrace :: withoutCommas (l ++ (m ++ [.rightBrace])) =
    .identifier "policy" :: .string p.name :: .leftBrace :: firmOnly (_ ++ (_ ++ [.rightBrace]))
  simp only [withoutCommas_append, firm_append, rules, caveats]
  rfl

theorem Document.WrittenAs.firm {d : Document} {ks : List TokenKind} (h : d.WrittenAs noComments ks) :
    withoutCommas ks = firmOnly d.tokens := by
  obtain ⟨l, rfl, hl⟩ := h
  suffices hp : ∀ {ps l}, PoliciesWrittenAs noComments ps l →
      withoutCommas l = firmOnly (ps.flatMap Policy.tokens) by
    simp [Document.tokens, noComments, hp hl]
  intro ps
  induction ps with
  | nil => intro l hl; cases hl; rfl
  | cons p ps ih =>
    rintro _ ⟨l, m, rfl, hl, hm⟩
    simp [hl.firm, ih hm]

/-! ## The canonical way -/

section
variable {α : Type} {written : Bool → α → List TokenKind → Prop} {tokens : α → List TokenKind}

theorem itemsWrittenAs_tokens (item : ∀ isFirst x, written isFirst x (tokens x)) (isFirst : Bool)
    (xs : List α) : ItemsWrittenAs written isFirst xs (xs.flatMap tokens) := by
  induction xs generalizing isFirst with
  | nil => rfl
  | cons x xs ih => exact ⟨tokens x, xs.flatMap tokens, List.flatMap_cons, item isFirst x, ih false⟩

theorem optionalWrittenAs_tokens (item : ∀ isFirst x, written isFirst x (tokens x)) (word : String)
    (b : Option (Block α)) :
    OptionalWrittenAs commentTokens written word b (optionalTokens word tokens b) := by
  cases b with
  | none => rfl
  | some b =>
    exact ⟨b.tokens tokens, rfl, b.items.flatMap tokens, rfl, itemsWrittenAs_tokens item true b.items⟩

end

theorem Policy.writtenAs_tokens (p : Policy) : p.WrittenAs commentTokens p.tokens := by
  refine ⟨_, _, rfl, optionalWrittenAs_tokens ?_ "rules" p.rules,
    optionalWrittenAs_tokens ?_ "caveats" p.caveats⟩
  · exact fun _ r => (rfl : r.commentedTokens = _)
  · exact fun _ c => .inl (rfl : c.commentedTokens = _)

theorem Document.writtenAs_tokens (d : Document) : d.WrittenAs commentTokens d.tokens := by
  refine ⟨d.policies.flatMap Policy.tokens, rfl, ?_⟩
  induction d.policies with
  | nil => rfl
  | cons p ps ih =>
    exact ⟨p.tokens, ps.flatMap Policy.tokens, List.flatMap_cons, p.writtenAs_tokens, ih⟩

/-! ## The comments among the tokens of a tree -/

def insignificantOnly (ks : List TokenKind) : List TokenKind :=
  ks.filter (!·.isSignificant)

theorem insignificant_append (ks ls : List TokenKind) :
    insignificantOnly (ks ++ ls) = insignificantOnly ks ++ insignificantOnly ls := by
  simp [insignificantOnly]

theorem insignificant_comments (cs : List String) :
    insignificantOnly (commentTokens cs) = commentTokens cs := by
  simp [insignificantOnly, commentTokens, TokenKind.isSignificant]

theorem Significant.insignificant {ks : List TokenKind} (h : Significant ks) :
    insignificantOnly ks = [] := by
  refine List.filter_eq_nil_iff.mpr fun k hk => ?_
  simp [h k hk]

theorem commentTokens_append (cs ds : List String) :
    commentTokens (cs ++ ds) = commentTokens cs ++ commentTokens ds :=
  List.map_append

theorem Rule.insignificant (r : Rule) :
    insignificantOnly r.commentedTokens = commentTokens r.comments := by
  simp [Rule.commentedTokens, insignificant_append, insignificant_comments,
    (significant_rule r).insignificant]

theorem Caveat.insignificant (c : Caveat) :
    insignificantOnly c.commentedTokens = commentTokens c.comments := by
  simp [Caveat.commentedTokens, insignificant_append, insignificant_comments,
    (significant_queries c.queries).insignificant]

theorem insignificant_flatMap {α : Type} {tokens : α → List TokenKind} {comments : α → List String}
    (item : ∀ x, insignificantOnly (tokens x) = commentTokens (comments x)) (xs : List α) :
    insignificantOnly (xs.flatMap tokens) = commentTokens (xs.flatMap comments) := by
  induction xs with
  | nil => rfl
  | cons x xs ih =>
    rw [List.flatMap_cons, List.flatMap_cons, insignificant_append, commentTokens_append, item, ih]

theorem optional_insignificant {α : Type} {tokens : α → List TokenKind} {comments : α → List String}
    (item : ∀ x, insignificantOnly (tokens x) = commentTokens (comments x)) (word : String)
    (b : Option (Block α)) :
    insignificantOnly (optionalTokens word tokens b) = commentTokens (optionalComments comments b) := by
  cases b with
  | none => rfl
  | some b =>
    have braced : insignificantOnly (optionalTokens word tokens (some b)) =
        insignificantOnly (b.items.flatMap tokens) ++
          (insignificantOnly (commentTokens b.trailingComments) ++ []) := by
      rw [optionalTokens, Block.tokens]
      show insignificantOnly (_ ++ (_ ++ [.rightBrace])) = _
      rw [insignificant_append, insignificant_append]
      rfl
    rw [braced, insignificant_flatMap item, insignificant_comments, List.append_nil,
      ← commentTokens_append]
    rfl

theorem Policy.insignificant (p : Policy) :
    insignificantOnly p.tokens = commentTokens p.allComments := by
  rw [Policy.tokens, insignificant_append, insignificant_comments]
  show _ ++ insignificantOnly (_ ++ (_ ++ [.rightBrace])) = _
  rw [insignificant_append, insignificant_append, optional_insignificant Rule.insignificant,
    optional_insignificant Caveat.insignificant]
  simp [Policy.allComments, commentTokens, insignificantOnly, TokenKind.isSignificant]

theorem Document.insignificant (d : Document) :
    insignificantOnly d.tokens = commentTokens d.allComments := by
  rw [Document.tokens, insignificant_append, insignificant_flatMap Policy.insignificant,
    insignificant_comments, ← commentTokens_append]
  rfl

end PolicyGate.Source
