import PolicyGate.Proofs.Source.Offsets
import PolicyGate.Proofs.Source.RoundTrip

/-!
# Comments are kept

A comment reaches from its slashes to the last character of its line that is not blank (`CommentAt`).
The tree of a document has each of its comments once, and the canonical text has each comment of the tree
once: `formatDocument_comments`.
-/

namespace PolicyGate

open Source
open Text (of_mem_takeWhile head?_dropWhile_stop exists_trimEnd_append)

namespace Source

/-! ## Where comments stand -/

/-- The comment stands at this byte offset, and only blanks are behind it on its line. -/
structure CommentAt (cs : List Char) (offset : Nat) (comment : String) : Prop where
  isText : IsCommentText comment.toList
  stands : ∃ blanks rest, TextAt cs offset (comment.toList ++ blanks ++ rest) ∧
    (∀ c ∈ blanks, Text.isBlank c = true ∧ c ≠ '\n') ∧ ∀ c ∈ rest.head?, c = '\n'

section
variable {c : Char} {cs : List Char} {s : Scanned} {comment : String}

theorem scanName_ne_comment (h : scanName c cs = .ok s) : s.kind ≠ .comment comment := by
  unfold scanName at h
  dsimp only at h
  split at h
  · cases h
  · cases h
    by_cases hc : c = '$' <;> simp [hc]

theorem scanInteger_ne_comment (h : scanInteger c cs = .ok s) : s.kind ≠ .comment comment := by
  unfold scanInteger at h
  dsimp only at h
  split at h
  · cases h
  · split at h <;> cases h
    exact TokenKind.noConfusion

theorem scanWord_ne_comment (h : scanWord c cs = .ok s) : s.kind ≠ .comment comment := by
  unfold scanWord at h
  dsimp only at h
  split at h
  · split at h
    · split at h <;> cases h
      exact TokenKind.noConfusion
    · cases h
      exact TokenKind.noConfusion
  · cases h
    exact TokenKind.noConfusion

theorem scanSingle_ne_comment (h : scanSingle c cs = .ok s) : s.kind ≠ .comment comment := by
  unfold scanSingle signKind? at h
  split at h
  · next k hk =>
    cases h
    rintro rfl
    split at hk <;> cases hk
  · cases h

theorem scanSign_ne_comment (h : scanSign c cs = .ok s) : s.kind ≠ .comment comment := by
  unfold scanSign at h
  split at h
  · exact scanSingle_ne_comment h
  · split at h
    · next k hk =>
      cases h
      rintro rfl
      unfold pairKind? at hk
      split at hk <;> cases hk
    · exact scanSingle_ne_comment h

theorem eq_scanComment (h : scan c cs = .ok s) (hk : s.kind = .comment comment) :
    s = scanComment (c :: cs) := by
  unfold scan at h
  split at h
  · exact (Except.ok.inj h).symm
  split at h
  · unfold scanString at h
    cases hs : scanContent 1 cs with
    | error f => rw [hs] at h; cases h
    | ok r =>
      rw [hs] at h
      cases h
      cases hk
  split at h
  · exact absurd hk (scanName_ne_comment h)
  split at h
  · exact absurd hk (scanInteger_ne_comment h)
  split at h
  · exact absurd hk (scanWord_ne_comment h)
  · exact absurd hk (scanSign_ne_comment h)

end

theorem commentAt_of_begins {whole rest : List Char} {offset : Nat} {comment : String}
    (here : TextAt whole offset rest) (begins : Begins (.comment comment) rest) :
    CommentAt whole offset comment := by
  cases rest with
  | nil => cases begins
  | cons c cs =>
    obtain ⟨s, hs, hk⟩ := begins
    have written := (scan_scans hs).1.written
    rw [hk] at written
    rw [eq_scanComment hs hk] at hk
    obtain ⟨blanks, line, blank⟩ := exists_trimEnd_append ((c :: cs).takeWhile (· ≠ '\n'))
    have text : comment.toList = Text.trimEnd ((c :: cs).takeWhile (· ≠ '\n')) := by
      rw [← TokenKind.comment.inj hk, String.toList_ofList]
    rw [← text] at line
    refine ⟨written, blanks, (c :: cs).dropWhile (· ≠ '\n'), ?_, fun d hd => ⟨blank d hd, ?_⟩, fun d hd => ?_⟩
    · rw [← line, List.takeWhile_append_dropWhile]
      exact here
    · have inside : d ∈ (c :: cs).takeWhile (· ≠ '\n') := line ▸ List.mem_append_right _ hd
      simpa using of_mem_takeWhile inside
    · simpa using head?_dropWhile_stop d hd

theorem commentAt_of_mem_tokenize {document : String} {ts : List Token} (h : tokenize document = .ok ts)
    {t : Token} (ht : t ∈ ts) {comment : String} (hk : t.kind = .comment comment) :
    CommentAt document.toList t.offset comment := by
  obtain ⟨rest, here, begins⟩ := begins_of_mem_tokenize h ht
  rw [hk] at begins
  exact commentAt_of_begins here begins

/-! ## Counting comments -/

def comments (ts : List Token) : List String :=
  ts.filterMap fun t => t.kind.comment?

theorem comments_eq {ts : List Token} {ks : List TokenKind}
    (h : ts.map Token.kind = ks ++ [.endOfDocument]) : comments ts = ks.filterMap TokenKind.comment? := by
  have kinds : (ts.map Token.kind).filterMap TokenKind.comment? = comments ts := List.filterMap_map
  rw [← kinds, h, List.filterMap_append]
  exact List.append_nil _

theorem Document.comments_tokens (d : Document) :
    d.tokens.filterMap TokenKind.comment? = d.allComments := by
  have read (k : TokenKind) : (if !k.isSignificant then k.comment? else none) = k.comment? := by
    cases k <;> rfl
  have all : (commentTokens d.allComments).filterMap TokenKind.comment? = d.allComments := by
    rw [commentTokens, List.filterMap_map]
    exact List.filterMap_some
  rw [← d.insignificant, insignificantOnly, List.filterMap_filter] at all
  simpa only [read] using all

end Source

/-- Formatting keeps the comments: each is in the formatted text once for each time that it is in the
document, and with its text. -/
theorem formatDocument_comments {document text : String} (h : formatDocument document = .ok text) :
    ∃ ts ts', tokenize document = .ok ts ∧ tokenize text = .ok ts' ∧ (comments ts').Perm (comments ts) ∧
      (∀ t ∈ ts, ∀ comment, t.kind = .comment comment → CommentAt document.toList t.offset comment) ∧
      ∀ t ∈ ts', ∀ comment, t.kind = .comment comment → CommentAt text.toList t.offset comment := by
  unfold formatDocument at h
  split at h
  · cases h
  next d read =>
  cases h
  obtain ⟨ks, spells, ok, -, kept⟩ := Document.sound_of_ofText read
  obtain ⟨ts, hts, kinds⟩ := spells.tokenize
  obtain ⟨ts', hts', kinds'⟩ := (Document.spells_text ok (Document.written_tokens read)).tokenize
  refine ⟨ts, ts', hts, hts', ?_, fun t ht comment => commentAt_of_mem_tokenize hts ht,
    fun t ht comment => commentAt_of_mem_tokenize hts' ht⟩
  rw [comments_eq kinds, comments_eq kinds', d.comments_tokens]
  exact kept.symm

theorem formatDocument_comments_gathered :
    formatDocument "//a \npolicy//b\n\"p\"\x7b//a\n\x7d//c" =
        .ok "//a\n//b\n//a\npolicy \"p\" \x7b\n\x7d\n\n//c\n" ∧
      ∃ ts', tokenize "//a\n//b\n//a\npolicy \"p\" \x7b\n\x7d\n\n//c\n" = .ok ts' ∧
        (comments ts').Perm ["//a", "//b", "//a", "//c"] := by
  have formatted : formatDocument "//a \npolicy//b\n\"p\"\x7b//a\n\x7d//c" =
      .ok "//a\n//b\n//a\npolicy \"p\" \x7b\n\x7d\n\n//c\n" := by decide +kernel
  have found : (tokenize "//a \npolicy//b\n\"p\"\x7b//a\n\x7d//c").map comments =
      .ok ["//a", "//b", "//a", "//c"] := by decide +kernel
  obtain ⟨ts, ts', hts, hts', kept, -⟩ := formatDocument_comments formatted
  rw [hts] at found
  rw [Except.ok.inj found] at kept
  exact ⟨formatted, ts', hts', kept⟩

end PolicyGate
