import PolicyGate.Fact.Basic
import PolicyGate.Proofs.Source.Layout
import PolicyGate.Proofs.Time.Rfc3339

/-!
# Facts are told by their text

An atom that a message is turned into is read off its text wherever a delimiter follows, however deep its
lists are nested (`Atom.IsDerived.isRead`). `Fact.text_eq_iff` says it for the facts about a call.

Strings, integers and bytes are written as they are in policies, so the scanner of policies tells them
apart. A date is no token there; it goes on to the next delimiter.
-/

namespace PolicyGate

open Source (TokenKind Scans Delimited isDelimiter delimited_cons)

/-- The atoms that a message is turned into: no symbols, and dates of the years 1 to 9999 only. -/
inductive Atom.IsDerived : Atom → Prop
  | string (content : String) : IsDerived (.string content)
  | integer (value : Int64) : IsDerived (.integer value)
  | bytes (value : Bytes) : IsDerived (.bytes value)
  | date {t : Time.Instant} (first : 1 ≤ t.clock.date.year) (last : t.clock.date.year ≤ 9999) :
    IsDerived (.date t)
  | list {items : List Atom} (h : ∀ a ∈ items, IsDerived a) : IsDerived (.list items)

theorem Source.Scans.unique {s s' r r' : List Char} {k k' : TokenKind} (h : Scans s k) (h' : Scans s' k')
    (hr : Apart k r) (hr' : Apart k' r') (eq : s ++ r = s' ++ r') : k = k' ∧ r = r' := by
  obtain ⟨c, cs, rfl, reads⟩ := h.reads
  obtain ⟨c', cs', rfl, reads'⟩ := h'.reads
  rw [List.cons_append, List.cons_append] at eq
  obtain ⟨rfl, behind⟩ := List.cons.inj eq
  have both := reads' r' hr'
  rw [← behind, reads r hr] at both
  cases both
  exact ⟨rfl, rfl⟩

theorem Source.eq_of_delimited {s s' r r' : List Char} (hs : ∀ c ∈ s, isDelimiter c = false)
    (hs' : ∀ c ∈ s', isDelimiter c = false) (hr : Delimited r) (hr' : Delimited r')
    (eq : s ++ r = s' ++ r') : s = s' ∧ r = r' := by
  have run {s r : List Char} (hs : ∀ c ∈ s, isDelimiter c = false) (hr : Delimited r) :
      (s ++ r).takeWhile (fun c => !isDelimiter c) = s :=
    Text.takeWhile_run (fun c hc => by rw [hs c hc]; rfl) (fun c hc => by rw [hr c hc]; rfl)
  have same : s = s' := by rw [← run hs hr, eq, run hs' hr']
  subst same
  exact ⟨rfl, List.append_cancel_left eq⟩

namespace Atom

variable {a b : Atom} {k k' : TokenKind} {r s : List Char}

/-! ## Atoms that are written as tokens -/

/-- The token of a policy that is spelled as the atom is. -/
def token? : Atom → Option TokenKind
  | string content => some (.string content)
  | integer value => some (.integer value)
  | bytes value => some (.bytes value)
  | symbol _ | date _ | list _ => none

theorem token?_inj (ha : a.token? = some k) (hb : b.token? = some k) : a = b := by
  cases a <;> cases ha <;> cases b <;> cases hb <;> rfl

theorem scans_text (h : a.token? = some k) : Scans a.text.toList k := by
  have spelled : a.text.toList = k.spelling := by
    cases a <;> cases h <;> simp [text, TokenKind.spelling, Text.Quoted.text, Text.Hex.text]
  rw [spelled]
  cases a <;> cases h <;> exact Source.scans_spelling trivial

theorem apart_of_token? (h : a.token? = some k) (hr : Delimited r) : Source.Apart k r :=
  hr.apart (by cases a <;> cases h <;> rfl)

theorem reads_token (ha : a.token? = some k) (hb : b.token? = some k') (hr : Delimited r) (hs : Delimited s)
    (eq : a.text.toList ++ r = b.text.toList ++ s) : a = b ∧ r = s := by
  obtain ⟨rfl, behind⟩ := (scans_text ha).unique (scans_text hb) (apart_of_token? ha hr)
    (apart_of_token? hb hs) eq
  exact ⟨token?_inj ha hb, behind⟩

/-! ## Dates -/

theorem mem_integer {n : Int64} {c : Char} (h : c ∈ (integer n).text.toList) :
    c = '-' ∨ c.isDigit = true := by
  rw [text, Int.toString_eq_repr, Int.repr_eq_if] at h
  split at h
  · exact .inr (Text.isDigit_of_mem_repr h)
  · rw [String.toList_append] at h
    rcases List.mem_append.mp h with h | h
    · exact .inl (List.mem_singleton.mp h)
    · exact .inr (Text.isDigit_of_mem_repr h)

theorem isDelimiter_of_isDateChar {c : Char} (h : Time.isDateChar c = true) : isDelimiter c = false := by
  cases delimiter : isDelimiter c
  · rfl
  · simp only [isDelimiter, List.contains_cons, List.contains_nil, Bool.or_eq_true, beq_iff_eq, Bool.or_false]
      at delimiter
    rcases delimiter with rfl | rfl | rfl | rfl | rfl | rfl <;> cases h

theorem isDelimiter_of_mem_integer {n : Int64} {c : Char} (hc : c ∈ (integer n).text.toList) :
    isDelimiter c = false := by
  refine isDelimiter_of_isDateChar ?_
  rcases mem_integer hc with rfl | digit
  · rfl
  · rw [Time.isDateChar, digit, Bool.true_or]

theorem isDelimiter_of_mem_date {t : Time.Instant} (h : t.HasFourDigitYear) {c : Char}
    (hc : c ∈ (date t).text.toList) : isDelimiter c = false :=
  isDelimiter_of_isDateChar (t.isDateChar_of_mem_text h c hc)

theorem reads_date {t u : Time.Instant} (ht : t.HasFourDigitYear) (hu : u.HasFourDigitYear) (hr : Delimited r)
    (hs : Delimited s) (eq : (date t).text.toList ++ r = (date u).text.toList ++ s) : t = u ∧ r = s := by
  obtain ⟨same, behind⟩ := Source.eq_of_delimited (fun c => isDelimiter_of_mem_date ht)
    (fun c => isDelimiter_of_mem_date hu) hr hs eq
  have read : some t = some u := by
    rw [← Time.Instant.ofText?_text ht, ← Time.Instant.ofText?_text hu]
    exact congrArg _ (String.toList_inj.mp same)
  exact ⟨Option.some.inj read, behind⟩

theorem token_ne_date {t : Time.Instant} (ht : t.HasFourDigitYear) (ha : a.token? = some k) (hr : Delimited r)
    (hs : Delimited s) : a.text.toList ++ r ≠ (date t).text.toList ++ s := by
  intro eq
  obtain ⟨c, cs, spelled, digit, time⟩ := t.exists_text ht
  -- strings and bytes begin with another character, and an integer has no time of day
  have first {d : Char} (hd : d.isDigit = false) (h : a.text.toList.head? = some d) : False := by
    have same := congrArg List.head? eq
    rw [List.head?_append, List.head?_append, h, show (date t).text.toList = c :: cs from spelled] at same
    cases same
    rw [digit] at hd
    cases hd
  cases a with
  | string content => exact first (d := '"') rfl (by simp [text, Text.Quoted.text, Text.Quoted.quote])
  | bytes value => exact first (d := 'h') rfl (by simp [text])
  | integer n =>
    obtain ⟨same, -⟩ := Source.eq_of_delimited (fun c => isDelimiter_of_mem_integer)
      (fun c => isDelimiter_of_mem_date ht) hr hs eq
    have mem : 'T' ∈ (integer n).text.toList := by
      rw [same]
      exact spelled ▸ List.mem_cons_of_mem _ time
    rcases mem_integer mem with h | h <;> cases h
  | symbol _ | date _ | list _ => cases ha

/-! ## Lists -/

theorem texts_eq_map (as : List Atom) : texts as = as.map text := by
  induction as with
  | nil => rfl
  | cons a as ih => rw [texts, ih, List.map_cons]

def following (as : List Atom) : List Char :=
  as.flatMap fun a => ',' :: ' ' :: a.text.toList

theorem toList_texts (a : Atom) (as : List Atom) :
    (String.intercalate ", " (texts (a :: as))).toList = a.text.toList ++ following as := by
  rw [String.toList_intercalate, texts_eq_map, List.map_map]
  induction as generalizing a with
  | nil => simp [following, List.intercalate]
  | cons b as ih =>
    have rest := ih b
    simp only [List.map_cons, List.intercalate_cons_cons, Function.comp_apply] at rest ⊢
    rw [rest]
    simp [following]

theorem IsDerived.exists_first (h : a.IsDerived) : ∃ c cs, a.text.toList = c :: cs ∧ isDelimiter c = false := by
  cases h with
  | string content => exact ⟨'"', _, by simp only [text, Text.Quoted.text, String.toList_ofList]; rfl, rfl⟩
  | integer n =>
    obtain ⟨c, cs, spelled, -⟩ := (scans_text (a := .integer n) rfl).reads
    exact ⟨c, cs, spelled, isDelimiter_of_mem_integer (spelled ▸ List.mem_cons_self)⟩
  | bytes value => exact ⟨'h', _, by simp only [text, String.toList_append]; rfl, rfl⟩
  | @date t first last =>
    have year : t.HasFourDigitYear := ⟨by omega, last⟩
    obtain ⟨c, cs, spelled, -⟩ := t.exists_text year
    exact ⟨c, cs, spelled, isDelimiter_of_mem_date year (spelled ▸ List.mem_cons_self)⟩
  | list items => exact ⟨'[', _, by simp only [text, String.toList_append]; rfl, rfl⟩

/-- The atom is told from all others by a text that begins with its own, if a delimiter follows. -/
def IsRead (a : Atom) : Prop :=
  ∀ {b : Atom} {r s : List Char}, b.IsDerived → Delimited r → Delimited s →
    a.text.toList ++ r = b.text.toList ++ s → a = b ∧ r = s

theorem delimited_following (as : List Atom) {e : Char} (he : isDelimiter e = true) (r : List Char) :
    Delimited (following as ++ e :: r) := by
  cases as with
  | nil => exact delimited_cons he r
  | cons a as => exact delimited_cons rfl _

theorem reads_following {as bs : List Atom} (ha : ∀ a ∈ as, a.IsRead) (hb : ∀ b ∈ bs, b.IsDerived) {e : Char}
    (he : isDelimiter e = true) (comma : e ≠ ',') (eq : following as ++ e :: r = following bs ++ e :: s) :
    as = bs ∧ r = s := by
  have split (a : Atom) (as : List Atom) (r : List Char) : following (a :: as) ++ e :: r =
      ',' :: ' ' :: (a.text.toList ++ (following as ++ e :: r)) := by simp [following]
  induction as generalizing bs with
  | nil =>
    cases bs with
    | nil => exact ⟨rfl, (List.cons.inj eq).2⟩
    | cons b bs =>
      rw [split] at eq
      exact absurd (List.cons.inj eq).1 comma
  | cons a as ih =>
    cases bs with
    | nil =>
      rw [split] at eq
      exact absurd (List.cons.inj eq).1.symm comma
    | cons b bs =>
      obtain ⟨ha, has⟩ := List.forall_mem_cons.mp ha
      obtain ⟨hb, hbs⟩ := List.forall_mem_cons.mp hb
      rw [split, split] at eq
      obtain ⟨rfl, behind⟩ := ha hb (delimited_following as he r) (delimited_following bs he s)
        (List.cons.inj (List.cons.inj eq).2).2
      obtain ⟨rfl, rest⟩ := ih has hbs behind
      exact ⟨rfl, rest⟩

theorem toList_list (items : List Atom) (r : List Char) :
    (list items).text.toList ++ r = '[' :: ((String.intercalate ", " (texts items)).toList ++ ']' :: r) := by
  simp [text]

theorem reads_list {as bs : List Atom} (ha : ∀ a ∈ as, a.IsRead) (hda : ∀ a ∈ as, a.IsDerived)
    (hb : ∀ b ∈ bs, b.IsDerived)
    (eq : (list as).text.toList ++ r = (list bs).text.toList ++ s) : as = bs ∧ r = s := by
  have closed {b : Atom} {bs : List Atom} {r s : List Char} (hb : b.IsDerived)
      (eq : ']' :: r = (String.intercalate ", " (texts (b :: bs))).toList ++ ']' :: s) : False := by
    obtain ⟨c, cs, spelled, free⟩ := hb.exists_first
    rw [toList_texts, spelled] at eq
    rw [← (List.cons.inj eq).1] at free
    cases free
  rw [toList_list, toList_list] at eq
  have inner := (List.cons.inj eq).2
  cases as with
  | nil =>
    cases bs with
    | nil => exact ⟨rfl, (List.cons.inj inner).2⟩
    | cons b bs => exact (closed (hb b List.mem_cons_self) inner).elim
  | cons a as =>
    cases bs with
    | nil => exact (closed (hda a List.mem_cons_self) inner.symm).elim
    | cons b bs =>
      -- with a comma in front, both are lists of atoms behind others
      refine reads_following ha hb (e := ']') rfl (by decide) ?_
      rw [toList_texts, toList_texts] at inner
      simpa [following] using inner

/-! ## Atoms of any kind -/

theorem IsDerived.shape (h : a.IsDerived) : (∃ k, a.token? = some k) ∨
    (∃ t : Time.Instant, t.HasFourDigitYear ∧ a = .date t) ∨
    ∃ items, (∀ i ∈ items, IsDerived i) ∧ a = .list items := by
  cases h with
  | string content => exact .inl ⟨_, rfl⟩
  | integer n => exact .inl ⟨_, rfl⟩
  | bytes value => exact .inl ⟨_, rfl⟩
  | date first last => exact .inr (.inl ⟨_, ⟨by omega, last⟩, rfl⟩)
  | list items => exact .inr (.inr ⟨_, items, rfl⟩)

theorem token_ne_list {items : List Atom} (ha : a.token? = some k) (hr : Delimited r) :
    a.text.toList ++ r ≠ (list items).text.toList ++ s := by
  intro eq
  have bracket : Scans ['['] .leftBracket := Source.scans_single rfl
  rw [toList_list] at eq
  obtain ⟨rfl, -⟩ := (scans_text ha).unique bracket (apart_of_token? ha hr) (fun _ _ => rfl) eq
  cases a <;> cases ha

theorem date_ne_list {items : List Atom} {t : Time.Instant} (ht : t.HasFourDigitYear) :
    (date t).text.toList ++ r ≠ (list items).text.toList ++ s := by
  intro eq
  obtain ⟨c, cs, spelled, digit, -⟩ := t.exists_text ht
  rw [toList_list, show (date t).text.toList = c :: cs from spelled] at eq
  rw [(List.cons.inj eq).1] at digit
  cases digit

theorem isRead_token (ha : a.token? = some k) : a.IsRead := by
  intro b r s hb hr hs eq
  rcases hb.shape with ⟨k', hb⟩ | ⟨t, ht, rfl⟩ | ⟨items, -, rfl⟩
  · exact reads_token ha hb hr hs eq
  · exact absurd eq (token_ne_date ht ha hr hs)
  · exact absurd eq (token_ne_list ha hr)

theorem isRead_date {t : Time.Instant} (ht : t.HasFourDigitYear) : (date t).IsRead := by
  intro b r s hb hr hs eq
  rcases hb.shape with ⟨k, hb⟩ | ⟨u, hu, rfl⟩ | ⟨items, -, rfl⟩
  · exact absurd eq.symm (token_ne_date ht hb hs hr)
  · obtain ⟨rfl, behind⟩ := reads_date ht hu hr hs eq
    exact ⟨rfl, behind⟩
  · exact absurd eq (date_ne_list ht)

theorem isRead_list {items : List Atom} (derived : ∀ a ∈ items, a.IsDerived) (ih : ∀ a ∈ items, a.IsRead) :
    (list items).IsRead := by
  intro b r s hb hr hs eq
  rcases hb.shape with ⟨k, hb⟩ | ⟨t, ht, rfl⟩ | ⟨others, hothers, rfl⟩
  · exact absurd eq.symm (token_ne_list hb hs)
  · exact absurd eq.symm (date_ne_list ht)
  · obtain ⟨rfl, behind⟩ := reads_list ih derived hothers eq
    exact ⟨rfl, behind⟩

theorem IsDerived.isRead (h : a.IsDerived) : a.IsRead := by
  -- on the nesting of lists
  induction h with
  | string content => exact isRead_token rfl
  | integer n => exact isRead_token rfl
  | bytes value => exact isRead_token rfl
  | date first last => exact isRead_date ⟨by omega, last⟩
  | list derived ih => exact isRead_list derived ih

/-! ## Lines -/

theorem newline_not_mem_escape (cs : List Char) : '\n' ∉ Text.Quoted.escape cs := by
  induction cs with
  | nil => simp [Text.Quoted.escape]
  | cons c cs ih =>
    unfold Text.Quoted.escape
    split <;> simp_all [eq_comm]

theorem newline_not_mem_following {as : List Atom} (h : ∀ a ∈ as, '\n' ∉ a.text.toList) :
    '\n' ∉ following as := by
  intro mem
  obtain ⟨a, ha, mem⟩ := List.mem_flatMap.mp mem
  simp only [List.mem_cons] at mem
  rcases mem with eq | eq | mem
  · cases eq
  · cases eq
  · exact h a ha mem

theorem IsDerived.newline_not_mem (h : a.IsDerived) : '\n' ∉ a.text.toList := by
  induction h with
  | string content => simp [text, Text.Quoted.text, Text.Quoted.quote, newline_not_mem_escape]
  | integer n =>
    intro mem
    cases isDelimiter_of_mem_integer mem
  | bytes value =>
    have digits : '\n' ∉ Text.Hex.encode value := by
      intro mem
      cases Text.Hex.isDigit_of_mem_encode mem
    simp [text, Text.Hex.text, digits]
  | date first last =>
    intro mem
    cases isDelimiter_of_mem_date ⟨by omega, last⟩ mem
  | @list items derived ih =>
    rw [text, String.toList_append, String.toList_append]
    cases items with
    | nil => decide
    | cons a as =>
      obtain ⟨first, others⟩ := List.forall_mem_cons.mp ih
      rw [toList_texts]
      simp [first, newline_not_mem_following others]

end Atom

/-! ## Facts -/

namespace Fact

inductive IsAmbient : Fact → Prop
  | method (name : String) : IsAmbient (ofMethod name)
  | user (principal : String) : IsAmbient (ofUser principal)
  | argument (path : String) {value : Atom} (h : value.IsDerived) : IsAmbient (ofArgument path value)

variable {f g : Fact}

theorem IsAmbient.isDelimiter_of_mem_name (h : f.IsAmbient) : ∀ c ∈ f.name.toList, isDelimiter c = false := by
  cases h <;> simp [ofMethod, ofUser, ofArgument, isDelimiter]

theorem IsAmbient.exists_terms (h : f.IsAmbient) :
    ∃ terms, f.atoms = ambient :: terms ∧ ∀ a ∈ terms, a.IsDerived := by
  cases h with
  | method name => exact ⟨_, rfl, List.forall_mem_singleton.mpr (.string name)⟩
  | user principal => exact ⟨_, rfl, List.forall_mem_singleton.mpr (.string principal)⟩
  | argument path h =>
    exact ⟨_, rfl, List.forall_mem_cons.mpr ⟨.string path, List.forall_mem_singleton.mpr h⟩⟩

theorem toList_text {terms : List Atom} (h : f.atoms = ambient :: terms) :
    f.text.toList = f.name.toList ++ '(' :: (ambient.text.toList ++ (Atom.following terms ++ [')'])) := by
  rw [text, h, String.toList_append, String.toList_append, String.toList_append, Atom.toList_texts]
  simp

theorem IsAmbient.eq_of_text_eq (hf : f.IsAmbient) (hg : g.IsAmbient) (same : f.text = g.text) : f = g := by
  obtain ⟨terms, hterms, derived⟩ := hf.exists_terms
  obtain ⟨others, hothers, derived'⟩ := hg.exists_terms
  have eq := congrArg String.toList same
  rw [toList_text hterms, toList_text hothers] at eq
  obtain ⟨names, inner⟩ := Source.eq_of_delimited hf.isDelimiter_of_mem_name hg.isDelimiter_of_mem_name
    (delimited_cons rfl _) (delimited_cons rfl _) eq
  have behind := List.append_cancel_left (List.cons.inj inner).2
  obtain ⟨rfl, -⟩ := Atom.reads_following (fun a ha => (derived a ha).isRead) derived' (e := ')') rfl
    (by decide) behind
  have name : f.name = g.name := String.toList_inj.mp names
  have atoms : f.atoms = g.atoms := hterms.trans hothers.symm
  cases f
  cases g
  cases name
  cases atoms
  rfl

theorem IsAmbient.newline_not_mem (h : f.IsAmbient) : '\n' ∉ f.text.toList := by
  obtain ⟨terms, hterms, derived⟩ := h.exists_terms
  have name : '\n' ∉ f.name.toList := by
    intro mem
    cases h.isDelimiter_of_mem_name _ mem
  have rest := Atom.newline_not_mem_following fun a ha => (derived a ha).newline_not_mem
  rw [toList_text hterms]
  simp [name, rest, ambient, Atom.text]

/-- Facts about a call have the same text only if they are the same, and each text is one line. -/
theorem text_eq_iff (hf : f.IsAmbient) (hg : g.IsAmbient) :
    (f.text = g.text ↔ f = g) ∧ '\n' ∉ f.text.toList := by
  refine ⟨⟨hf.eq_of_text_eq hg, ?_⟩, hf.newline_not_mem⟩
  intro same
  rw [same]

theorem text_eq_iff_quoted :
    let one := ofArgument "tags" (.list [.string "a\", \"b", .list [.integer 1, .date default]])
    let two := ofArgument "tags" (.list [.string "a", .string "b", .list [.integer 1, .date default]])
    (one.text = two.text ↔ one = two) ∧ '\n' ∉ one.text.toList := by
  have inner : (Atom.list [.integer 1, .date default]).IsDerived := by
    apply Atom.IsDerived.list
    simp only [List.forall_mem_cons]
    exact ⟨.integer 1, .date (by decide) (by decide), by simp⟩
  apply text_eq_iff
  · apply IsAmbient.argument
    apply Atom.IsDerived.list
    simp only [List.forall_mem_cons]
    exact ⟨.string _, inner, by simp⟩
  · apply IsAmbient.argument
    apply Atom.IsDerived.list
    simp only [List.forall_mem_cons]
    exact ⟨.string _, .string _, inner, by simp⟩

end Fact
end PolicyGate
