import PolicyGate.Command.Policies
import PolicyGate.Proofs.Policy.Dates
import PolicyGate.Proofs.Source.OneLine

/-!
# Outlines of policies

The rules and caveats of compiled policies stand on lines of their own in an outline, and are compiled from
them again, so outlines of different policies differ (`compileDocument_outline`). Names stand between quotes as
they are. Only a name that holds the end of its own line and the beginning of another can make outlines alike
(`compileDocument_outline_forged`).
-/

namespace PolicyGate

open Source (Written)

/-! ## Compiled rules and caveats -/

theorem Construct.Displays.written {σ τ : Type} {c : Construct σ τ} {s : σ} {x : τ} (h : c.Displays s x) :
    Written (c.tokens s) :=
  fun k hk => (h.numbered k hk).1

theorem Rule.oneLine_text {s : Source.Rule} {r : Rule} (h : rules.Displays s r) : OneLine r.text := by
  have text : s.inlineText = r.text := h.text_eq
  exact text ▸ Source.Rule.oneLine_inlineText h.written

theorem Caveat.oneLine_text {s : Source.Caveat} {c : Caveat} (h : caveats.Displays s c) : OneLine c.text := by
  have text : caveats.text s = c.text := h.text_eq
  have written : Written (Source.queryTokens s.queries) := h.written
  simp only [Source.queryTokens, Source.Written.cons, Source.Written.append] at written
  rw [← text]
  refine (OneLine.append (by decide) (.intercalate (by decide) (List.forall_mem_map.mpr fun q hq => ?_))).append
    (by decide)
  exact Source.Rule.oneLine_inlineText (written.2.1.of_joined q hq)

theorem Rule.eq_of_text {s s' : Source.Rule} {r r' : Rule} (h : rules.Displays s r) (h' : rules.Displays s' r')
    (same : r.text = r'.text) : r = r' := by
  have compiled := (compileDocument_rule h).symm.trans (same ▸ compileDocument_rule h')
  cases compiled
  rfl

theorem Caveat.eq_of_text {s s' : Source.Caveat} {c c' : Caveat} (h : caveats.Displays s c)
    (h' : caveats.Displays s' c') (same : c.text = c'.text) : c = c' := by
  have compiled := (compileDocument_caveat h).symm.trans (same ▸ compileDocument_caveat h')
  cases compiled
  rfl

structure Policy.IsDisplayed (p : Policy) : Prop where
  rules : ∀ r ∈ p.rules, ∃ s, PolicyGate.rules.Displays s r
  caveats : ∀ c ∈ p.caveats, ∃ s, PolicyGate.caveats.Displays s c

theorem Policy.isDisplayed_of_lower {source : Source.Policy} {p : Policy} (ok : source.WellFormed)
    (written : Written source.tokens) (lowered : source.lower = .ok p)
    (years : ∀ r, p.HasRule r → r.HasFourDigitYears) : p.IsDisplayed := by
  obtain ⟨-, lowersRules, lowersCaveats⟩ := lower_policy_ok.mp lowered
  simp only [Source.Policy.tokens, Source.Written.cons, Source.Written.append] at written
  obtain ⟨-, -, -, -, writtenRules, writtenCaveats, -⟩ := written
  constructor
  · intro r hr
    obtain ⟨s, hs, lowers⟩ := exists_of_forall₂ lowersRules hr
    have tokens := (Source.Written.append.mp (written_blockItems writtenRules s hs)).2
    have body := forall_blockItems ok.rules s hs
    exact faithful_rules { s with comments := [] } r ⟨rfl, body⟩ tokens lowers (years r (.inl hr))
  · intro c hc
    obtain ⟨s, hs, lowers⟩ := exists_of_forall₂ lowersCaveats hc
    have tokens := (Source.Written.append.mp (written_blockItems writtenCaveats s hs)).2
    have queries := forall_blockItems ok.caveats s hs
    have dated : c.HasFourDigitYears := fun q hq => years q (.inr ⟨c, hc, hq⟩)
    exact faithful_caveats { s with comments := [] } c ⟨rfl, queries⟩ tokens lowers dated

theorem isDisplayed_of_compileDocument {document : String} {policies : List Policy}
    (h : compileDocument document = .ok policies) {p : Policy} (hp : p ∈ policies)
    (years : ∀ r, p.HasRule r → r.HasFourDigitYears) : p.IsDisplayed := by
  unfold compileDocument at h
  simp only at h
  split at h
  · cases h
  next tree read =>
  obtain ⟨_, _, ok, _⟩ := Source.Document.sound_of_ofText read
  obtain ⟨source, hs, lowered⟩ := exists_of_forall₂ (lowerAll_ok.mp h).1 hp
  have written := (Source.Written.append.mp (Source.Document.written_tokens read)).1.of_flatMap source hs
  exact Policy.isDisplayed_of_lower (ok source hs) written lowered years

/-! ## Reading lines -/

theorem eq_of_line {l m : String} {x y : List Char} (hl : OneLine l) (hm : OneLine m)
    (eq : l.toList ++ '\n' :: x = m.toList ++ '\n' :: y) : l = m ∧ x = y := by
  have run {s : String} (hs : OneLine s) (r : List Char) :
      (s.toList ++ '\n' :: r).takeWhile (· != '\n') = s.toList := by
    refine Text.takeWhile_run (fun c hc => bne_iff_ne.mpr fun same => hs (same ▸ hc)) fun c hc => ?_
    cases hc
    rfl
  have same : l.toList = m.toList := by rw [← run hl x, eq, run hm y]
  rw [same] at eq
  exact ⟨String.toList_inj.mp same, (List.cons.inj (List.append_cancel_left eq)).2⟩

def itemLine (l : String) : List Char :=
  "    ".toList ++ (l.toList ++ ['\n'])

def titleLine (title : String) : List Char :=
  "  ".toList ++ (title.toList ++ [':', '\n'])

theorem toList_titledLines (title : String) (ls : List String) :
    (titledLines title ls).toList = if ls = [] then [] else titleLine title ++ ls.flatMap itemLine := by
  unfold titledLines
  split
  · rfl
  · simp only [titleLine, String.toList_append, String.toList_join, List.flatMap_map, List.append_assoc]
    rfl

/-- The text goes on neither with a title nor with an item. -/
def EndsSection (title : String) (x : List Char) : Prop :=
  ¬titleLine title <+: x ∧ ¬"    ".toList <+: x

theorem items_eq {ls ms : List String} {x y : List Char} (hl : ∀ l ∈ ls, OneLine l) (hm : ∀ l ∈ ms, OneLine l)
    (hx : ¬"    ".toList <+: x) (hy : ¬"    ".toList <+: y)
    (eq : ls.flatMap itemLine ++ x = ms.flatMap itemLine ++ y) : ls = ms ∧ x = y := by
  have begins (l : String) (r : List Char) : "    ".toList <+: itemLine l ++ r := by
    rw [itemLine, List.append_assoc]
    exact List.prefix_append _ _
  -- item by item; where only one of the lists goes on, four blanks stand in the rest of the other
  induction ls generalizing ms with
  | nil =>
    cases ms with
    | nil => exact ⟨rfl, eq⟩
    | cons m ms =>
      rw [List.flatMap_nil, List.nil_append, List.flatMap_cons, List.append_assoc] at eq
      exact absurd (eq ▸ begins m _) hx
  | cons l ls ih =>
    cases ms with
    | nil =>
      rw [List.flatMap_nil, List.nil_append, List.flatMap_cons, List.append_assoc] at eq
      exact absurd (eq ▸ begins l _) hy
    | cons m ms =>
      obtain ⟨first, others⟩ := List.forall_mem_cons.mp hl
      obtain ⟨first', others'⟩ := List.forall_mem_cons.mp hm
      simp only [List.flatMap_cons, itemLine, List.append_assoc] at eq
      obtain ⟨rfl, behind⟩ := eq_of_line first first' (List.append_cancel_left eq)
      obtain ⟨rfl, rest⟩ := ih others others' behind
      exact ⟨rfl, rest⟩

theorem titledLines_eq {title : String} {ls ms : List String} {x y : List Char} (hl : ∀ l ∈ ls, OneLine l)
    (hm : ∀ l ∈ ms, OneLine l) (hx : EndsSection title x) (hy : EndsSection title y)
    (eq : (titledLines title ls).toList ++ x = (titledLines title ms).toList ++ y) : ls = ms ∧ x = y := by
  rw [toList_titledLines, toList_titledLines] at eq
  by_cases none : ls = []
  · by_cases none' : ms = []
    · rw [if_pos none, if_pos none'] at eq
      exact ⟨none.trans none'.symm, eq⟩
    · rw [if_pos none, if_neg none', List.nil_append, List.append_assoc] at eq
      exact absurd (eq ▸ List.prefix_append _ _) hx.1
  · by_cases none' : ms = []
    · rw [if_neg none, if_pos none', List.nil_append, List.append_assoc] at eq
      exact absurd (eq ▸ List.prefix_append _ _) hy.1
    · rw [if_neg none, if_neg none', List.append_assoc, List.append_assoc] at eq
      exact items_eq hl hm hx.2 hy.2 (List.append_cancel_left eq)

theorem endsSection_of_head {title : String} {x : List Char} (h : x.head? ≠ some ' ') : EndsSection title x := by
  constructor
  · rintro ⟨r, rfl⟩
    exact h rfl
  · rintro ⟨r, rfl⟩
    exact h rfl

theorem endsSection_caveats (ls : List String) {x : List Char} (h : x.head? ≠ some ' ') :
    EndsSection "rules" ((titledLines "caveats" ls).toList ++ x) := by
  rw [toList_titledLines]
  split
  · exact endsSection_of_head h
  · constructor
    · rintro ⟨r, eq⟩
      cases eq
    · rintro ⟨r, eq⟩
      cases eq

/-! ## Reading names -/

/-- How a line that follows the one of a name begins. -/
def openings : List String := ["policy ", "  rules:\n", "  caveats:\n"]

/-- Nothing in the name reads like the end of its line and the beginning of another. -/
def IsPlainName (name : List Char) : Prop :=
  ∀ o ∈ openings, ¬ '"' :: '\n' :: o.toList <:+: name

def Opens (x : List Char) : Prop :=
  x = [] ∨ ∃ o ∈ openings, o.toList <+: x

section

variable {a b x y : List Char}

theorem prefix_of_not_mem {o : List Char} {c : Char} (h : c ∉ o) (hp : o <+: a ++ c :: x) : o <+: a := by
  rcases Nat.lt_or_ge a.length o.length with long | short
  · -- it would reach to `c`
    have behind : a ++ [c] <+: a ++ c :: x := ⟨x, by simp⟩
    have within : a ++ [c] <+: o :=
      List.prefix_of_prefix_length_le behind hp (by rw [List.length_append]; exact long)
    exact absurd (within.subset (List.mem_append_right a List.mem_cons_self)) h
  · exact List.prefix_of_prefix_length_le hp (List.prefix_append a _) short

theorem IsPlainName.eq_nil (h : IsPlainName (a ++ b)) (opens : Opens x)
    (eq : '"' :: '\n' :: x = b ++ '"' :: '\n' :: y) : b = [] := by
  cases b with
  | nil => rfl
  | cons c cs =>
    obtain ⟨rfl, behind⟩ := List.cons.inj eq
    cases cs with
    | nil => cases (List.cons.inj behind).1
    | cons d ds =>
      -- behind the end of the line in `b` stands `x`, whose opening has no quote and so is in `b` as well
      obtain ⟨rfl, rfl⟩ := List.cons.inj behind
      rcases opens with none | ⟨o, ho, begins⟩
      · cases (List.append_eq_nil_iff.mp none).2
      · have plain : ∀ o ∈ openings, '"' ∉ o.toList := by decide
        obtain ⟨r, rfl⟩ := prefix_of_not_mem (plain o ho) begins
        exact absurd ⟨a, r, by simp⟩ (h o ho)

theorem IsPlainName.eq_of_quoted (ha : IsPlainName a) (hb : IsPlainName b) (hx : Opens x) (hy : Opens y)
    (eq : a ++ '"' :: '\n' :: x = b ++ '"' :: '\n' :: y) : a = b ∧ x = y := by
  have same : a = b := by
    rcases List.append_eq_append_iff.mp eq with ⟨c, rfl, behind⟩ | ⟨c, rfl, behind⟩
    · rw [hb.eq_nil hx behind, List.append_nil]
    · rw [ha.eq_nil hy behind, List.append_nil]
  subst same
  exact ⟨rfl, by simpa using eq⟩

end

/-! ## Reading outlines -/

def Policy.HasPlainName (p : Policy) : Prop :=
  IsPlainName p.name.toList

def Policy.sections (p : Policy) : List Char :=
  (titledLines "rules" (p.rules.map Rule.text)).toList ++
    (titledLines "caveats" (p.caveats.map Caveat.text)).toList

theorem Policy.toList_outline (p : Policy) :
    p.outline.toList = "policy \"".toList ++ (p.name.toList ++ '"' :: '\n' :: p.sections) := by
  simp only [outline, sections, String.toList_append, List.append_assoc]
  rfl

theorem Opens.titled {title : String} (ht : "  " ++ title ++ ":\n" ∈ openings) (ls : List String) {x : List Char}
    (h : Opens x) : Opens ((titledLines title ls).toList ++ x) := by
  rw [toList_titledLines]
  split
  · exact h
  · refine .inr ⟨_, ht, ?_⟩
    rw [String.toList_append, String.toList_append, List.append_assoc, List.append_assoc]
    exact List.prefix_append _ _

theorem eq_of_map_eq {α β : Type} {f : α → β} {xs ys : List α}
    (inj : ∀ x ∈ xs, ∀ y ∈ ys, f x = f y → x = y) (eq : xs.map f = ys.map f) : xs = ys := by
  induction xs generalizing ys with
  | nil => exact (List.map_eq_nil_iff.mp eq.symm).symm
  | cons x xs ih =>
    obtain ⟨y, ys, rfl, first, others⟩ := List.map_eq_cons_iff.mp eq.symm
    obtain rfl := inj x List.mem_cons_self y List.mem_cons_self first.symm
    rw [ih (fun x hx y hy => inj x (List.mem_cons_of_mem _ hx) y (List.mem_cons_of_mem _ hy)) others.symm]

theorem Policy.IsDisplayed.eq_of_texts {p q : Policy} (hp : p.IsDisplayed) (hq : q.IsDisplayed)
    (names : p.name = q.name) (ruleTexts : p.rules.map Rule.text = q.rules.map Rule.text)
    (caveatTexts : p.caveats.map Caveat.text = q.caveats.map Caveat.text) : p = q := by
  have sameRules : p.rules = q.rules := by
    refine eq_of_map_eq (fun r hr r' hr' same => ?_) ruleTexts
    obtain ⟨s, displays⟩ := hp.rules r hr
    obtain ⟨s', displays'⟩ := hq.rules r' hr'
    exact Rule.eq_of_text displays displays' same
  have sameCaveats : p.caveats = q.caveats := by
    refine eq_of_map_eq (fun c hc c' hc' same => ?_) caveatTexts
    obtain ⟨s, displays⟩ := hp.caveats c hc
    obtain ⟨s', displays'⟩ := hq.caveats c' hc'
    exact Caveat.eq_of_text displays displays' same
  cases p
  cases q
  cases names
  cases sameRules
  cases sameCaveats
  rfl

def outlines (ps : List Policy) : List Char :=
  ps.flatMap fun p => p.outline.toList

theorem outlines_cons (p : Policy) (ps : List Policy) : outlines (p :: ps) =
    "policy \"".toList ++ (p.name.toList ++ '"' :: '\n' :: (p.sections ++ outlines ps)) := by
  rw [outlines, List.flatMap_cons, Policy.toList_outline]
  simp [outlines]

theorem head?_outlines (ps : List Policy) : (outlines ps).head? ≠ some ' ' := by
  cases ps with
  | nil => simp [outlines]
  | cons p ps =>
    rw [outlines_cons]
    simp

theorem opens_outlines (ps : List Policy) : Opens (outlines ps) := by
  cases ps with
  | nil => exact .inl rfl
  | cons p ps =>
    rw [outlines_cons]
    exact .inr ⟨"policy ", by decide, _, rfl⟩

/-- An outline is read up to the next one. -/
theorem Policy.eq_of_outlines {p q : Policy} {ps qs : List Policy} (hp : p.IsDisplayed) (hq : q.IsDisplayed)
    (plain : p.HasPlainName) (plain' : q.HasPlainName) (eq : outlines (p :: ps) = outlines (q :: qs)) :
    p = q ∧ outlines ps = outlines qs := by
  have ruleLines {p : Policy} (hp : p.IsDisplayed) : ∀ l ∈ p.rules.map Rule.text, OneLine l :=
    List.forall_mem_map.mpr fun r hr => (hp.rules r hr).elim fun _ => Rule.oneLine_text
  have caveatLines {p : Policy} (hp : p.IsDisplayed) : ∀ l ∈ p.caveats.map Caveat.text, OneLine l :=
    List.forall_mem_map.mpr fun c hc => (hp.caveats c hc).elim fun _ => Caveat.oneLine_text
  have opens (p : Policy) (ps : List Policy) : Opens (p.sections ++ outlines ps) := by
    rw [sections, List.append_assoc]
    exact ((opens_outlines ps).titled (by decide) _).titled (by decide) _
  rw [outlines_cons, outlines_cons] at eq
  obtain ⟨names, behindName⟩ :=
    plain.eq_of_quoted plain' (opens p ps) (opens q qs) (List.append_cancel_left eq)
  rw [sections, sections, List.append_assoc, List.append_assoc] at behindName
  obtain ⟨ruleTexts, behindRules⟩ := titledLines_eq (ruleLines hp) (ruleLines hq)
    (endsSection_caveats _ (head?_outlines ps)) (endsSection_caveats _ (head?_outlines qs)) behindName
  obtain ⟨caveatTexts, rest⟩ := titledLines_eq (caveatLines hp) (caveatLines hq)
    (endsSection_of_head (head?_outlines ps)) (endsSection_of_head (head?_outlines qs)) behindRules
  exact ⟨hp.eq_of_texts hq (String.toList_inj.mp names) ruleTexts caveatTexts, rest⟩

theorem eq_of_outlines {ps qs : List Policy} (hp : ∀ p ∈ ps, p.IsDisplayed ∧ p.HasPlainName)
    (hq : ∀ q ∈ qs, q.IsDisplayed ∧ q.HasPlainName) (eq : outlines ps = outlines qs) : ps = qs := by
  induction ps generalizing qs with
  | nil =>
    cases qs with
    | nil => rfl
    | cons q qs =>
      rw [outlines_cons] at eq
      cases eq
  | cons p ps ih =>
    cases qs with
    | nil =>
      rw [outlines_cons] at eq
      cases eq
    | cons q qs =>
      obtain ⟨first, others⟩ := List.forall_mem_cons.mp hp
      obtain ⟨first', others'⟩ := List.forall_mem_cons.mp hq
      obtain ⟨rfl, rest⟩ := Policy.eq_of_outlines first.1 first'.1 first.2 first'.2 eq
      rw [ih others others' rest]

/-- Documents with the same outlines compile to the same policies, unless a name holds further lines of an
outline. -/
theorem compileDocument_outline {document document' : String} {ps qs : List Policy}
    (h : compileDocument document = .ok ps) (h' : compileDocument document' = .ok qs)
    (plain : ∀ p ∈ ps ++ qs, p.HasPlainName)
    (years : ∀ p ∈ ps ++ qs, ∀ r, p.HasRule r → r.HasFourDigitYears)
    (same : OutputFormat.text.render ps = OutputFormat.text.render qs) : ps = qs := by
  obtain ⟨plain, plain'⟩ := List.forall_mem_append.mp plain
  obtain ⟨years, years'⟩ := List.forall_mem_append.mp years
  refine eq_of_outlines (fun p hp => ⟨isDisplayed_of_compileDocument h hp (years p hp), plain p hp⟩)
    (fun q hq => ⟨isDisplayed_of_compileDocument h' hq (years' q hq), plain' q hq⟩) ?_
  have texts := congrArg String.toList same
  simpa only [OutputFormat.render, String.toList_join, List.flatMap_map, outlines] using texts

theorem compileDocument_outline_leap :
    let dated (literal : String) := singletonDocument "rules" (datedRule 0 .before literal).inlineText
    ∃ ps qs, compileDocument (dated "2017-01-01T00:59:60.5+01:00") = .ok ps ∧
      compileDocument (dated "2016-12-31T23:59:60.500Z") = .ok qs ∧ OutputFormat.text.render ps =
        "policy \"p\"\n  rules:\n    *r() <- q($0) @ $0 <= \"2016-12-31T23:59:60.500Z\"\n" ∧ ps = qs := by
  intro dated
  let t : Time.Instant := ⟨1483228799, 1500000000, by decide⟩
  let p : Policy := ⟨"p", [Constraint.alone ⟨0, .date .before t⟩], []⟩
  have ahead : compileDocument (dated "2017-01-01T00:59:60.5+01:00") = .ok [p] :=
    compileDocument_dated 0 .before (t := t) (by decide +kernel)
  have utc : compileDocument (dated "2016-12-31T23:59:60.500Z") = .ok [p] :=
    compileDocument_dated 0 .before (t := t) (by decide +kernel)
  have plain : ∀ q ∈ [p] ++ [p], q.HasPlainName := by
    intro q hq
    obtain rfl : q = p := by simpa using hq
    show ∀ o ∈ openings, ¬ '"' :: '\n' :: o.toList <:+: "p".toList
    decide
  have years : ∀ q ∈ [p] ++ [p], ∀ r, q.HasRule r → r.HasFourDigitYears := by
    intro q hq r hr
    obtain rfl : q = p := by simpa using hq
    obtain rfl : r = Constraint.alone ⟨0, .date .before t⟩ := by simpa [p, Policy.HasRule] using hr
    intro c hc test u hu
    obtain rfl := List.mem_singleton.mp hc
    cases hu
    show 0 ≤ t.clock.date.year ∧ t.clock.date.year ≤ 9999
    decide
  exact ⟨[p], [p], ahead, utc, by decide +kernel, compileDocument_outline ahead utc plain years rfl⟩

/-- A name that reads like the end of its line and a second policy. -/
theorem compileDocument_outline_forged : ∃ ps qs,
    compileDocument "policy \"a\\\"\\npolicy \\\"b\" \x7b\x7d" = .ok ps ∧
      compileDocument "policy \"a\" \x7b\x7d policy \"b\" \x7b\x7d" = .ok qs ∧
      (∀ p ∈ ps ++ qs, ∀ r, p.HasRule r → r.HasFourDigitYears) ∧
      OutputFormat.text.render ps = OutputFormat.text.render qs ∧ ps ≠ qs := by
  refine ⟨[⟨"a\"\npolicy \"b", [], []⟩], [⟨"a", [], []⟩, ⟨"b", [], []⟩], by decide +kernel, by decide +kernel, ?_, ?_, by decide⟩
  · simp [Policy.HasRule]
  · decide +kernel

end PolicyGate
