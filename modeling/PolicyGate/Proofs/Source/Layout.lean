import PolicyGate.Proofs.Source.TreeTokens
import PolicyGate.Source.Printer

/-!
# The canonical layout spells the tokens of a tree

`Prints` says of a piece of text which tokens it adds in front of those of the text behind it; the
pieces of the printer are put together construct by construct, up to `Document.spells_text`.
-/

namespace PolicyGate.Source

/-! ## Pieces of text -/

/-- In front of a text that `stops` it, the piece adds these tokens. -/
structure Prints (stops : List Char → Prop) (text : List Char) (ks : List TokenKind) : Prop where
  spells : ∀ {rest ls}, stops rest → Spells rest ls → Spells (text ++ rest) (ks ++ ls)

def AnyText (_ : List Char) : Prop := True

def isDelimiter (c : Char) : Bool :=
  [' ', '\n', ',', '(', ')', ']'].contains c

def Delimited (rest : List Char) : Prop :=
  ∀ c ∈ rest.head?, isDelimiter c = true

theorem delimited_cons {c : Char} (hc : isDelimiter c = true) (cs : List Char) : Delimited (c :: cs) := by
  intro d hd
  cases hd
  exact hc

theorem extendedBy_delimiter {k : TokenKind} (hk : k.isComment = false) {c : Char}
    (hc : isDelimiter c = true) : k.extendedBy c = false := by
  have word : isWordChar c = false ∧ c.isDigit = false ∧ Text.Hex.isDigit c = false ∧ c ≠ ':' ∧
      c ≠ '-' ∧ c ≠ '=' := by
    unfold isDelimiter at hc
    simp only [List.contains_cons, List.contains_nil, Bool.or_eq_true, beq_iff_eq, Bool.or_false] at hc
    rcases hc with rfl | rfl | rfl | rfl | rfl | rfl <;> decide
  obtain ⟨h1, h2, h3, h4, h5, h6⟩ := word
  cases k <;> simp_all [TokenKind.extendedBy, TokenKind.isComment]

theorem Delimited.apart {k : TokenKind} (hk : k.isComment = false) {rest : List Char}
    (h : Delimited rest) : Apart k rest :=
  fun c hc => extendedBy_delimiter hk (h c hc)

namespace Prints

variable {stops : List Char → Prop} {a b : List Char} {ks ls : List TokenKind}

theorem nil : Prints stops [] [] :=
  ⟨fun _ h => h⟩

theorem append (ha : Prints AnyText a ks) (hb : Prints stops b ls) : Prints stops (a ++ b) (ks ++ ls) where
  spells hr h := by
    rw [List.append_assoc, List.append_assoc]
    exact ha.spells trivial (hb.spells hr h)

theorem delimited {c : Char} (ha : Prints Delimited a ks) (hc : isDelimiter c = true)
    (hb : Prints stops (c :: b) ls) : Prints stops (a ++ c :: b) (ks ++ ls) where
  spells hr h := by
    rw [List.append_assoc, List.append_assoc]
    exact ha.spells (delimited_cons hc _) (hb.spells hr h)

theorem blanks (ha : ∀ c ∈ a, Text.isBlank c = true) (hb : Prints stops b ks) :
    Prints stops (a ++ b) ks where
  spells hr h := by
    rw [List.append_assoc]
    exact (hb.spells hr h).blanks ha

theorem blank {c : Char} (hc : Text.isBlank c = true) (h : Prints stops a ks) :
    Prints stops (c :: a) ks where
  spells hr h' := .blank hc (h.spells hr h')

theorem token {k : TokenKind} (hw : k.IsWritten) (hk : k.isComment = false) :
    Prints Delimited k.spelling [k] where
  spells hr h := .token (scans_spelling hw) (hr.apart hk) h

theorem word {k : TokenKind} {c : Char} (hw : k.IsWritten) (hk : k.isComment = false)
    (hc : isDelimiter c = true) (h : Prints stops (c :: b) ls) :
    Prints stops (k.spelling ++ c :: b) (k :: ls) :=
  (token hw hk).delimited hc h

theorem closed {k : TokenKind} (hk : k.IsWritten ∧ ∀ c, k.extendedBy c = false)
    (h : Prints stops a ks) : Prints stops (k.spelling ++ a) (k :: ks) where
  spells hr h' := by
    rw [List.append_assoc]
    exact .token (scans_spelling hk.1) (fun c _ => hk.2 c) (h.spells hr h')

theorem joined {α : Type} {separator : List Char} {k : TokenKind} {text : α → List Char}
    {tokens : α → List TokenKind}
    (hs : ∀ {cs ks}, Prints Delimited cs ks → Prints Delimited (separator ++ cs) (k :: ks))
    (hd : ∀ cs, Delimited (separator ++ cs)) {xs : List α}
    (h : ∀ x ∈ xs, Prints Delimited (text x) (tokens x)) :
    Prints Delimited (separator.intercalate (xs.map text)) (joined k (xs.map tokens)) := by
  induction xs with
  | nil => exact nil
  | cons x xs ih =>
    obtain ⟨hx, hxs⟩ := List.forall_mem_cons.mp h
    cases xs with
    | nil => simpa [PolicyGate.Source.joined, List.intercalate] using hx
    | cons y ys =>
      refine ⟨fun hr h' => ?_⟩
      have tail := (hs (ih hxs)).spells hr h'
      have whole := hx.spells (by simpa using hd _) tail
      simpa [PolicyGate.Source.joined, List.intercalate_cons_cons] using whole

end Prints

/-! ## Terms and predicates -/

theorem Literal.toList_text (v : Literal) : v.text.toList = v.token.spelling := by
  cases v with
  | symbol name => simp [Literal.text, Literal.token, TokenKind.spelling]
  | string content => simp [Literal.text, Literal.token, TokenKind.spelling, Text.Quoted.text]
  | integer value => rfl
  | bytes value => simp [Literal.text, Literal.token, TokenKind.spelling, Text.Hex.text]

theorem Term.toList_text (t : Term) : t.text.toList = t.token.spelling := by
  cases t with
  | var name => simp [Term.text, Term.token, TokenKind.spelling]
  | literal v => exact v.toList_text

theorem Comparison.toList_text (op : Comparison) : op.text.toList = op.token.spelling := by
  cases op <;> rfl

theorem isComment_literal (v : Literal) : v.token.isComment = false := by
  cases v <;> rfl

theorem isComment_term (t : Term) : t.token.isComment = false := by
  cases t with
  | var name => rfl
  | literal v => exact isComment_literal v

def Written (ks : List TokenKind) : Prop :=
  ∀ k ∈ ks, k.IsWritten

theorem mem_joined_of_mem {separator k : TokenKind} {ks : List TokenKind} {kss : List (List TokenKind)}
    (hks : ks ∈ kss) (hk : k ∈ ks) : k ∈ joined separator kss := by
  cases kss with
  | nil => cases hks
  | cons ls kss =>
    rcases List.mem_cons.mp hks with rfl | hks
    · exact List.mem_append_left _ hk
    · exact List.mem_append_right _ (List.mem_flatMap.mpr ⟨ks, hks, List.mem_cons_of_mem _ hk⟩)

theorem Written.of_joined {α : Type} {separator : TokenKind} {tokens : α → List TokenKind} {xs : List α}
    (h : Written (joined separator (xs.map tokens))) : ∀ x ∈ xs, Written (tokens x) :=
  fun x hx k hk => h k (mem_joined_of_mem (List.mem_map.mpr ⟨x, hx, rfl⟩) hk)

theorem prints_commas {α : Type} {text : α → String} {tokens : α → List TokenKind} {xs : List α}
    (h : ∀ x ∈ xs, Prints Delimited (text x).toList (tokens x)) :
    Prints Delimited (String.intercalate ", " (xs.map text)).toList (joined .comma (xs.map tokens)) := by
  rw [String.toList_intercalate, List.map_map]
  refine Prints.joined (fun h => ?_) (fun cs => delimited_cons rfl _) h
  exact .closed (k := .comma) ⟨trivial, fun _ => rfl⟩ (.blank rfl h)

theorem termTokens_prints {ts : List Term} (h : Written (termTokens ts)) :
    Prints Delimited (String.intercalate ", " (ts.map Term.text)).toList (termTokens ts) := by
  refine prints_commas fun t ht => ?_
  rw [t.toList_text]
  exact .token (h.of_joined t ht _ List.mem_cons_self) (isComment_term t)

theorem Predicate.prints {p : Predicate} (h : Written p.tokens) :
    Prints Delimited p.text.toList p.tokens := by
  obtain ⟨hname, -, hts⟩ : (TokenKind.identifier p.name).IsWritten ∧ _ ∧
      Written (termTokens p.terms ++ [.rightParen]) := by
    simpa [Written, Predicate.tokens] using h
  have terms := termTokens_prints (List.forall_mem_append.mp hts).1
  simp only [Predicate.text, Predicate.tokens, String.toList_append, List.append_assoc]
  refine .word (k := .identifier p.name) hname rfl rfl ?_
  refine .closed (k := .leftParen) ⟨trivial, fun _ => rfl⟩ ?_
  exact terms.delimited rfl (.closed (k := .rightParen) ⟨trivial, fun _ => rfl⟩ .nil)

/-! ## Constraints -/

theorem Written.cons {k : TokenKind} {ks : List TokenKind} :
    Written (k :: ks) ↔ k.IsWritten ∧ Written ks :=
  List.forall_mem_cons

theorem Written.append {ks ls : List TokenKind} : Written (ks ++ ls) ↔ Written ks ∧ Written ls :=
  List.forall_mem_append

theorem isComment_comparison (op : Comparison) : op.token.isComment = false := by
  cases op <;> rfl

theorem setTokens_eq (first : Literal) (others : List Literal) : setTokens first others =
    .leftBracket :: (joined .comma ((first :: others).map fun l => [l.token]) ++ [.rightBracket]) := by
  simp [setTokens, joined, List.flatMap_map]

theorem set_prints {first : Literal} {others : List Literal} (h : Written (setTokens first others)) :
    Prints Delimited
      ('[' :: ((String.intercalate ", " ((first :: others).map Literal.text)).toList ++ [']']))
      (setTokens first others) := by
  rw [setTokens_eq] at h ⊢
  have members := (Written.append.mp (Written.cons.mp h).2).1
  refine .closed (k := .leftBracket) ⟨trivial, fun _ => rfl⟩ ?_
  refine Prints.delimited (prints_commas fun l hl => ?_) rfl
    (.closed (k := .rightBracket) ⟨trivial, fun _ => rfl⟩ .nil)
  rw [l.toList_text]
  exact .token (members.of_joined l hl _ List.mem_cons_self) (isComment_literal l)

theorem Constraint.prints {x : Constraint} (h : Written x.tokens) :
    Prints Delimited x.text.toList x.tokens := by
  cases x with
  | compare subject op value =>
    simp only [Constraint.tokens, Written.cons] at h
    obtain ⟨hs, ho, hv, -⟩ := h
    simp only [Constraint.text, Constraint.tokens, String.toList_append, List.append_assoc,
      op.toList_text, value.toList_text]
    refine .word (k := .var subject) hs rfl rfl (.blank rfl ?_)
    refine .word ho (isComment_comparison op) rfl (.blank rfl ?_)
    exact .token hv (isComment_literal value)
  | member subject negated first others =>
    simp only [Constraint.tokens, Written.cons, Written.append] at h
    obtain ⟨hs, hm, hset⟩ := h
    have members := set_prints hset
    simp only [Constraint.text, Constraint.tokens, String.toList_append, List.append_assoc]
    cases negated with
    | true =>
      have spelled : " not in [".toList = ' ' :: ("not".toList ++ ' ' :: ("in".toList ++ [' ', '['])) := rfl
      rw [if_pos rfl, spelled]
      simp only [List.cons_append, List.append_assoc, List.nil_append]
      refine .word (k := .var subject) hs rfl rfl ?_
      refine .blank rfl (.word (k := .identifier "not") (hm _ List.mem_cons_self) rfl rfl (.blank rfl ?_))
      have hin := hm (.identifier "in") (List.mem_cons_of_mem _ List.mem_cons_self)
      exact .word (k := .identifier "in") hin rfl rfl (.blank rfl members)
    | false =>
      have spelled : " in [".toList = ' ' :: ("in".toList ++ [' ', '[']) := rfl
      rw [if_neg Bool.false_ne_true, spelled]
      simp only [List.cons_append, List.append_assoc, List.nil_append]
      refine .word (k := .var subject) hs rfl rfl ?_
      refine .blank rfl (.word (k := .identifier "in") (hm _ List.mem_cons_self) rfl rfl (.blank rfl ?_))
      exact members
  | test f subject value =>
    simp only [Constraint.tokens, Written.cons] at h
    obtain ⟨hf, -, hs, -, hv, -, -⟩ := h
    simp only [Constraint.text, Constraint.tokens, String.toList_append, List.append_assoc,
      Text.Quoted.text, String.toList_ofList]
    refine .word (k := .identifier f.text) hf rfl rfl ?_
    refine .closed (k := .leftParen) ⟨trivial, fun _ => rfl⟩ ?_
    refine .word (k := .var subject) hs rfl rfl ?_
    refine .closed (k := .comma) ⟨trivial, fun _ => rfl⟩ (.blank rfl ?_)
    refine .word (k := .string value) hv rfl rfl ?_
    exact .closed (k := .rightParen) ⟨trivial, fun _ => rfl⟩ .nil

/-! ## Rules and caveats -/

theorem joined_cons_cons (separator : TokenKind) (ks ls : List TokenKind) (kss : List (List TokenKind)) :
    joined separator (ks :: ls :: kss) = ks ++ separator :: joined separator (ls :: kss) := by
  simp [joined]

theorem bodies_prints {ps : List Predicate} (h : Written (joined .comma (ps.map Predicate.tokens))) :
    ∀ p ∈ ps, Prints Delimited p.text.toList p.tokens :=
  fun p hp => Predicate.prints (h.of_joined p hp)

theorem constraints_prints {xs : List Constraint}
    (h : Written (joined .comma (xs.map Constraint.tokens))) :
    ∀ x ∈ xs, Prints Delimited x.text.toList x.tokens :=
  fun x hx => Constraint.prints (h.of_joined x hx)

theorem Rule.inlineText_prints {r : Rule} (h : Written r.tokens) :
    Prints Delimited r.inlineText.toList r.tokens := by
  simp only [Rule.tokens, Written.cons, Written.append] at h
  obtain ⟨-, hhead, -, hbody, hcs⟩ := h
  have body := prints_commas (bodies_prints hbody)
  simp only [Rule.inlineText, Rule.tokens, String.toList_append, List.append_assoc]
  refine .closed (k := .star) ⟨trivial, fun _ => rfl⟩ ?_
  refine (Predicate.prints hhead).delimited rfl (.blank rfl ?_)
  refine .closed (k := .arrow) ⟨trivial, fun _ => rfl⟩ (.blank rfl ?_)
  unfold constraintTokens at hcs ⊢
  by_cases hx : r.constraints = []
  · simpa [hx] using body
  · rw [if_neg hx] at hcs ⊢
    rw [if_neg hx, String.toList_append]
    refine body.delimited rfl (.blank rfl ?_)
    refine .closed (k := .atSign) ⟨trivial, fun _ => rfl⟩ (.blank rfl ?_)
    exact prints_commas (constraints_prints (Written.cons.mp hcs).2)

theorem isBlank_indent (depth : Nat) : ∀ c ∈ (indent depth).toList, Text.isBlank c = true := by
  intro c hc
  rw [indent, String.toList_ofList] at hc
  rw [List.eq_of_mem_replicate hc]
  rfl

theorem itemLines_prints {α : Type} {text : α → String} {tokens : α → List TokenKind} {xs : List α}
    {lead blank : String} {leading : List TokenKind} (hne : xs ≠ [])
    (hlead : ∀ {cs ks}, Prints AnyText cs ks → Prints AnyText (lead.toList ++ cs) (leading ++ ks))
    (hblank : ∀ c ∈ blank.toList, Text.isBlank c = true)
    (h : ∀ x ∈ xs, Prints Delimited (text x).toList (tokens x)) :
    Prints AnyText (itemLines lead blank (xs.map text)).toList
      (leading ++ joined .comma (xs.map tokens)) := by
  induction xs generalizing lead leading with
  | nil => exact absurd rfl hne
  | cons x xs ih =>
    obtain ⟨hx, hxs⟩ := List.forall_mem_cons.mp h
    cases xs with
    | nil =>
      simp only [List.map_cons, List.map_nil, itemLines, String.toList_append, List.append_assoc, joined,
        List.flatMap_nil]
      exact .blanks (isBlank_indent 3) (hlead (hx.delimited rfl (.blank rfl .nil)))
    | cons y ys =>
      have rest : Prints AnyText (itemLines blank blank ((y :: ys).map text)).toList
          ([] ++ joined .comma ((y :: ys).map tokens)) :=
        ih (List.cons_ne_nil y ys) (.blanks hblank) hxs
      simp only [List.map_cons, joined_cons_cons, itemLines, String.toList_append, List.append_assoc]
      refine .blanks (isBlank_indent 3) (hlead (hx.delimited rfl ?_))
      exact .closed (k := .comma) ⟨trivial, fun _ => rfl⟩ (.blank rfl rest)

theorem Rule.lines_prints {r : Rule} (hok : r.WellFormed) (h : Written r.tokens) :
    Prints AnyText r.lines.toList r.tokens := by
  simp only [Rule.tokens, Written.cons, Written.append] at h
  obtain ⟨-, hhead, -, hbody, hcs⟩ := h
  have arrow {cs ks} (h : Prints AnyText cs ks) : Prints AnyText ("<- ".toList ++ cs) ([.arrow] ++ ks) :=
    .closed (k := .arrow) ⟨trivial, fun _ => rfl⟩ (.blank rfl h)
  have at_sign {cs ks} (h : Prints AnyText cs ks) : Prints AnyText ("@ ".toList ++ cs) ([.atSign] ++ ks) :=
    .closed (k := .atSign) ⟨trivial, fun _ => rfl⟩ (.blank rfl h)
  have body : Prints AnyText (itemLines "<- " "   " (r.body.map Predicate.text)).toList
      ([.arrow] ++ joined .comma (r.body.map Predicate.tokens)) :=
    itemLines_prints hok arrow (List.all_eq_true.mp rfl) (bodies_prints hbody)
  have constraints : Prints AnyText (itemLines "@ " "  " (r.constraints.map Constraint.text)).toList
      (constraintTokens r.constraints) := by
    unfold constraintTokens at hcs ⊢
    by_cases hx : r.constraints = []
    · rw [if_pos hx, hx]
      exact .nil
    · rw [if_neg hx] at hcs ⊢
      exact itemLines_prints hx at_sign (List.all_eq_true.mp rfl)
        (constraints_prints (Written.cons.mp hcs).2)
  simp only [Rule.lines, Rule.tokens, String.toList_append, List.append_assoc]
  refine .blanks (isBlank_indent 2) (.closed (k := .star) ⟨trivial, fun _ => rfl⟩ ?_)
  refine (Predicate.prints hhead).delimited rfl (.blank rfl ?_)
  simpa using body.append constraints

theorem commentLines_prints {cs : List String} (h : Written (commentTokens cs)) (depth : Nat) :
    Prints AnyText (commentLines depth cs).toList (commentTokens cs) := by
  unfold commentLines
  rw [String.toList_join, List.flatMap_map]
  induction cs with
  | nil => exact .nil
  | cons c cs ih =>
    obtain ⟨hc, hcs⟩ : (TokenKind.comment c).IsWritten ∧ Written (commentTokens cs) := Written.cons.mp h
    have rest := ih hcs
    simp only [List.flatMap_cons, String.toList_append, List.append_assoc] at rest ⊢
    refine .blanks (isBlank_indent depth) ⟨fun hr hs => ?_⟩
    rw [List.append_assoc]
    have apart (tail : List Char) : Apart (.comment c) ('\n' :: tail) := fun d hd => by cases hd; rfl
    exact .token (scans_spelling hc) (apart _) (.blank rfl (rest.spells hr hs))

theorem Rule.commentedLines_prints {r : Rule} (hok : r.WellFormed) (h : Written r.commentedTokens) :
    Prints AnyText (commentLines 2 r.comments ++ r.lines).toList r.commentedTokens := by
  obtain ⟨hc, hr⟩ := Written.append.mp h
  rw [String.toList_append]
  exact (commentLines_prints hc 2).append (Rule.lines_prints hok hr)

theorem queries_prints {qs : List Rule} (h : Written (queryTokens qs)) :
    Prints Delimited ('[' :: ((String.intercalate " || " (qs.map Rule.inlineText)).toList ++ [']']))
      (queryTokens qs) := by
  simp only [queryTokens, Written.cons, Written.append] at h
  have queries : Prints Delimited (String.intercalate " || " (qs.map Rule.inlineText)).toList
      (joined .or (qs.map Rule.tokens)) := by
    rw [String.toList_intercalate, List.map_map]
    refine Prints.joined (fun h => ?_) (fun cs => delimited_cons rfl _)
      fun q hq' => Rule.inlineText_prints (h.2.1.of_joined q hq')
    exact .blank rfl (.closed (k := .or) ⟨trivial, fun _ => rfl⟩ (.blank rfl h))
  refine .closed (k := .leftBracket) ⟨trivial, fun _ => rfl⟩ (queries.delimited rfl ?_)
  exact .closed (k := .rightBracket) ⟨trivial, fun _ => rfl⟩ .nil

theorem Caveat.lines_prints {c : Caveat} (h : Written c.commentedTokens) :
    Prints AnyText c.lines.toList c.commentedTokens := by
  obtain ⟨hc, hq⟩ := Written.append.mp h
  have line : Prints AnyText ['\n'] [] := .blank rfl .nil
  have list := (queries_prints hq).delimited rfl line
  have closing : "]\n".toList = [']'] ++ ['\n'] := rfl
  simp only [Caveat.lines, Caveat.commentedTokens, String.toList_append, List.append_assoc, closing]
  refine (commentLines_prints hc 2).append (.blanks (isBlank_indent 2) ?_)
  simpa using list

/-! ## Blocks and policies -/

theorem Prints.flatMap {α : Type} {text : α → List Char} {tokens : α → List TokenKind} {xs : List α}
    (h : ∀ x ∈ xs, Prints AnyText (text x) (tokens x)) :
    Prints AnyText (xs.flatMap text) (xs.flatMap tokens) := by
  induction xs with
  | nil => exact .nil
  | cons x xs ih =>
    obtain ⟨hx, hxs⟩ := List.forall_mem_cons.mp h
    rw [List.flatMap_cons, List.flatMap_cons]
    exact hx.append (ih hxs)

theorem Written.of_flatMap {α : Type} {tokens : α → List TokenKind} {xs : List α}
    (h : Written (xs.flatMap tokens)) : ∀ x ∈ xs, Written (tokens x) :=
  fun x hx k hk => h k (List.mem_flatMap.mpr ⟨x, hx, hk⟩)

theorem optionalLines_prints {α : Type} {word : String} {text : α → String}
    {tokens : α → List TokenKind} {b : Option (Block α)}
    (hb : Written (optionalTokens word tokens b))
    (h : ∀ x ∈ b, ∀ i ∈ x.items, Written (tokens i) → Prints AnyText (text i).toList (tokens i)) :
    Prints AnyText (optionalLines word text b).toList (optionalTokens word tokens b) := by
  cases b with
  | none => exact .nil
  | some b =>
    simp only [optionalTokens, Block.tokens, Written.cons, Written.append] at hb
    obtain ⟨hword, -, hitems, htrailing, -⟩ := hb
    simp only [optionalLines, Block.lines, optionalTokens, Block.tokens, String.toList_append,
      List.append_assoc, String.toList_join, List.flatMap_map]
    refine .blanks (isBlank_indent 1) (.word (k := .identifier word) hword rfl rfl (.blank rfl ?_))
    refine .closed (k := .leftBrace) ⟨trivial, fun _ => rfl⟩ (.blank rfl ?_)
    refine (Prints.flatMap fun i hi => h b rfl i hi (hitems.of_flatMap i hi)).append ?_
    refine (commentLines_prints htrailing 2).append (.blanks (isBlank_indent 1) ?_)
    exact .closed (k := .rightBrace) ⟨trivial, fun _ => rfl⟩ (.blank rfl .nil)

theorem Policy.lines_prints {p : Policy} (hok : p.WellFormed) (h : Written p.tokens) :
    Prints AnyText p.lines.toList p.tokens := by
  simp only [Policy.tokens, Written.cons, Written.append] at h
  obtain ⟨hc, hword, hname, -, hrules, hcaveats, -⟩ := h
  have rules := optionalLines_prints hrules fun b hb r hr hw =>
    Rule.commentedLines_prints (hok.rules b hb r hr) hw
  have caveats := optionalLines_prints hcaveats fun _ _ _ _ => Caveat.lines_prints
  have spelled : "policy ".toList = "policy".toList ++ [' '] := rfl
  simp only [Policy.lines, Policy.tokens, String.toList_append, List.append_assoc, spelled,
    Text.Quoted.text, String.toList_ofList]
  refine (commentLines_prints hc 0).append ?_
  refine .word (k := .identifier "policy") hword rfl rfl (.blank rfl ?_)
  refine .word (k := .string p.name) hname rfl rfl (.blank rfl ?_)
  refine .closed (k := .leftBrace) ⟨trivial, fun _ => rfl⟩ (.blank rfl ?_)
  refine rules.append (caveats.append ?_)
  exact .closed (k := .rightBrace) ⟨trivial, fun _ => rfl⟩ (.blank rfl .nil)

theorem policies_print {ps : List Policy} (hok : ∀ p ∈ ps, p.WellFormed)
    (h : Written (ps.flatMap Policy.tokens)) :
    Prints AnyText (String.intercalate "\n" (ps.map Policy.lines)).toList (ps.flatMap Policy.tokens) := by
  rw [String.toList_intercalate]
  induction ps with
  | nil => exact .nil
  | cons p ps ih =>
    obtain ⟨okp, okps⟩ := List.forall_mem_cons.mp hok
    rw [List.flatMap_cons, Written.append] at h
    have first := Policy.lines_prints okp h.1
    have rest := ih okps h.2
    cases ps with
    | nil => simpa using first
    | cons q qs =>
      simp only [List.map_cons, List.intercalate_cons_cons, List.append_assoc] at rest ⊢
      rw [List.flatMap_cons]
      exact first.append (.blank rfl rest)

theorem Document.text_prints {d : Document} (hok : d.WellFormed) (h : Written d.tokens) :
    Prints AnyText d.text.toList d.tokens := by
  obtain ⟨hps, hc⟩ := Written.append.mp h
  have policies := policies_print hok hps
  have comments := commentLines_prints hc 0
  simp only [Document.text, Document.tokens, String.toList_append]
  refine policies.append ?_
  by_cases ht : d.trailingComments = []
  · rw [if_pos ht, ht]
    exact .nil
  · rw [if_neg ht, String.toList_append]
    by_cases hp : d.policies = []
    · rw [if_pos hp]
      exact comments
    · rw [if_neg hp]
      exact .blank rfl comments

/-- The canonical text of a tree spells the tokens of the tree. -/
theorem Document.spells_text {d : Document} (hok : d.WellFormed) (h : Written d.tokens) :
    Spells d.text.toList d.tokens := by
  simpa using (Document.text_prints hok h).spells trivial Spells.nil

end PolicyGate.Source
