import PolicyGate.Proofs.Source.Layout
import PolicyGate.Proofs.Source.Views
import PolicyGate.Policy.Compile

/-!
# Reading what was printed

The tree of a document, printed and read again, is the same tree but for the offsets of its policies
(`Document.ofText_text`), so formatting twice is formatting once.
-/

namespace PolicyGate.Source

/-- A policy as if it stood at the beginning of its document. -/
def Policy.withoutOffset (p : Policy) : Policy :=
  { p with offset := 0 }

def Document.withoutOffsets (d : Document) : Document :=
  { d with policies := d.policies.map Policy.withoutOffset }

/-! ## Trees that agree in their comments -/

theorem eq_of_forall₂ {α : Type} {R : α → α → Prop} (h : ∀ x y, R x y → y = x) {xs ys : List α}
    (hs : List.Forall₂ R xs ys) : ys = xs := by
  induction hs with
  | nil => rfl
  | cons hx _ ih => rw [h _ _ hx, ih]

theorem Rule.Agrees.eq {r r' : Rule} (h : r.Agrees Eq r') : r' = r := by
  obtain ⟨cs, rfl, rfl⟩ := h
  rfl

theorem Caveat.Agrees.eq {c c' : Caveat} (h : c.Agrees Eq c') : c' = c := by
  obtain ⟨comments, queries⟩ := c
  obtain ⟨rfl, rfl⟩ := h
  rfl

theorem Block.Agrees.eq {α : Type} {item : α → α → Prop} (hi : ∀ x y, item x y → y = x)
    {b b' : Option (Block α)} (h : Option.Rel (Block.Agrees Eq item) b b') : b' = b := by
  cases h with
  | none => rfl
  | @some b b' h =>
    obtain ⟨items, trailing⟩ := b
    obtain ⟨items', trailing'⟩ := b'
    obtain ⟨hitems, ht⟩ := h
    have items_eq : items' = items := eq_of_forall₂ hi hitems
    have trailing_eq : trailing = trailing' := ht
    rw [items_eq, trailing_eq]

theorem Policy.Agrees.withoutOffset {p p' : Policy} (h : p.Agrees Eq p') :
    p'.withoutOffset = p.withoutOffset := by
  simp only [Policy.withoutOffset, h.name, ← h.comments, Block.Agrees.eq (fun _ _ => Rule.Agrees.eq) h.rules,
    Block.Agrees.eq (fun _ _ => Caveat.Agrees.eq) h.caveats]

theorem Document.Agrees.withoutOffsets {d d' : Document} (h : d.Agrees Eq d') :
    d'.withoutOffsets = d.withoutOffsets := by
  obtain ⟨hps, ht⟩ := h
  have policies {ps ps' : List Policy} (h : List.Forall₂ (Policy.Agrees Eq) ps ps') :
      ps'.map Policy.withoutOffset = ps.map Policy.withoutOffset := by
    induction h with
    | nil => rfl
    | cons hp _ ih => rw [List.map_cons, List.map_cons, hp.withoutOffset, ih]
  rw [Document.withoutOffsets, policies hps, ← ht]
  rfl

theorem Document.text_withoutOffsets (d : Document) : d.withoutOffsets.text = d.text := by
  have policies : d.withoutOffsets.policies.map Policy.lines = d.policies.map Policy.lines := by
    rw [Document.withoutOffsets, List.map_map]
    rfl
  rw [Document.text, policies]
  simp [Document.text, Document.withoutOffsets]

/-! ## Trees of documents -/

theorem exists_ofTokens_of_ofText {document : String} {d : Document} (h : Document.ofText document = .ok d) :
    ∃ ts, tokenize document = .ok ts ∧ Document.ofTokens ts = .ok d := by
  unfold Document.ofText at h
  split at h
  · cases h
  · next ts hts => exact ⟨ts, hts, h⟩

theorem Document.sound_of_ofText {document : String} {d : Document}
    (h : Document.ofText document = .ok d) :
    ∃ ks, Spells document.toList ks ∧ d.WellFormed ∧ d.WrittenAs noComments (withoutComments ks) ∧
      (ks.filterMap TokenKind.comment?).Perm d.allComments := by
  obtain ⟨ts, hts, hd⟩ := exists_ofTokens_of_ofText h
  obtain ⟨ks, hk, spells⟩ := spells_of_tokenize hts
  have no_end : .endOfDocument ∉ ks := fun he => spells.written _ he
  exact ⟨ks, spells, Document.sound_of_ofTokens hd hk no_end⟩

theorem Document.written_tokens {document : String} {d : Document} (h : Document.ofText document = .ok d) :
    Written d.tokens := by
  obtain ⟨ks, spells, -, written, comments⟩ := Document.sound_of_ofText h
  intro k hk
  -- firm tokens and comments come from the text itself; commas can always be written
  by_cases hs : k.isSignificant = true
  · by_cases hc : k = .comma
    · rw [hc]
      trivial
    · have firm : k ∈ firmOnly d.tokens :=
        List.mem_filter.mpr ⟨hk, by simp [TokenKind.isFirm, hs, hc]⟩
      rw [← written.firm] at firm
      exact spells.written k (List.mem_filter.mp (List.mem_filter.mp firm).1).1
  · have hi : k ∈ insignificantOnly d.tokens := List.mem_filter.mpr ⟨hk, by simpa using hs⟩
    rw [d.insignificant] at hi
    obtain ⟨text, ht, rfl⟩ := List.mem_map.mp hi
    obtain ⟨l, hl, hlt⟩ := List.mem_filterMap.mp (comments.symm.subset ht)
    cases l <;> cases hlt
    exact spells.written _ hl

theorem Document.exists_ofText {document : String} {d : Document}
    (h : (tokenize document).map (List.map Token.kind) = .ok (d.tokens ++ [.endOfDocument]))
    (hok : d.WellFormed) :
    ∃ d', Document.ofText document = .ok d' ∧ d'.withoutOffsets = d.withoutOffsets := by
  unfold Document.ofText
  cases hts : tokenize document with
  | error e => rw [hts] at h; cases h
  | ok ts =>
    rw [hts] at h
    obtain ⟨d', hd', agrees⟩ := Document.ofTokens_tokens (Except.ok.inj h) hok
    exact ⟨d', hd', agrees.withoutOffsets⟩

theorem formatDocument_of_tokens {document : String} {d : Document}
    (h : (tokenize document).map (List.map Token.kind) = .ok (d.tokens ++ [.endOfDocument]))
    (hok : d.WellFormed) : formatDocument document = .ok d.text := by
  obtain ⟨d', read, same⟩ := Document.exists_ofText h hok
  rw [formatDocument, read, ← d.text_withoutOffsets, ← same, d'.text_withoutOffsets]

theorem Document.exists_ofText_text {document : String} {d : Document}
    (h : Document.ofText document = .ok d) :
    ∃ d', Document.ofText d.text = .ok d' ∧ d'.withoutOffsets = d.withoutOffsets := by
  obtain ⟨_, _, ok, _⟩ := Document.sound_of_ofText h
  obtain ⟨ts, hts, hk⟩ := (Document.spells_text ok (Document.written_tokens h)).tokenize
  refine Document.exists_ofText ?_ ok
  rw [hts, ← hk]
  rfl

/-- The canonical text of the tree of a document is read as the same tree, and is already formatted. -/
theorem Document.ofText_text {document : String} {d : Document} (h : Document.ofText document = .ok d) :
    ∃ d', Document.ofText d.text = .ok d' ∧ d'.withoutOffsets = d.withoutOffsets ∧ d'.text = d.text ∧
      formatDocument document = .ok d.text ∧ formatDocument d.text = .ok d.text := by
  obtain ⟨d', read, same⟩ := Document.exists_ofText_text h
  have text : d'.text = d.text := by
    rw [← d'.text_withoutOffsets, same, d.text_withoutOffsets]
  refine ⟨d', read, same, text, ?_, ?_⟩
  · rw [formatDocument, h]
  · rw [formatDocument, read, ← text]

theorem Document.ofText_text_commented :
    ∃ d, Document.ofText "// c\npolicy \"p\"\x7bcaveats\x7b[*a($x)<-b($x,hex:)@$x< -2]\x7d\x7d//d" = .ok d ∧
      d.trailingComments = ["//d"] ∧ ∃ d', Document.ofText d.text = .ok d' ∧
        d'.withoutOffsets = d.withoutOffsets ∧ d'.text = d.text ∧ formatDocument d.text = .ok d.text := by
  let query : Rule := ⟨[], ⟨"a", [.var "x"]⟩, [⟨"b", [.var "x", .literal (.bytes [])]⟩],
    [.compare "x" .less (.integer (-2))]⟩
  let tree : Document := ⟨[⟨["// c"], "p", 0, none, some ⟨[⟨[], [query]⟩], []⟩⟩], ["//d"]⟩
  have kinds : (tokenize "// c\npolicy \"p\"\x7bcaveats\x7b[*a($x)<-b($x,hex:)@$x< -2]\x7d\x7d//d").map
      (List.map Token.kind) = .ok (tree.tokens ++ [.endOfDocument]) := by decide +kernel
  have ok : tree.WellFormed := by
    intro p hp
    obtain rfl := List.mem_singleton.mp hp
    refine ⟨fun b hb => (by cases hb), fun b hb c hc => ?_⟩
    cases hb
    obtain rfl := List.mem_singleton.mp hc
    refine ⟨List.cons_ne_nil _ _, fun q hq => ?_⟩
    obtain rfl := List.mem_singleton.mp hq
    exact ⟨rfl, List.cons_ne_nil _ _⟩
  obtain ⟨d, hd, same⟩ := Document.exists_ofText kinds ok
  obtain ⟨d', read, same', text, -, formatted⟩ := Document.ofText_text hd
  have trailing : d.withoutOffsets.trailingComments = tree.trailingComments := by
    rw [same]
    rfl
  exact ⟨d, hd, trailing, d', read, same', text, formatted⟩

end PolicyGate.Source
