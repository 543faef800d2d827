import PolicyGate.Proofs.Policy.Numbering
import PolicyGate.Proofs.Source.Acceptance
import PolicyGate.Proofs.Source.Offsets

/-!
# Where syntax errors point

A syntax error is told at the line and the column of the character that it was found at. There is one
exception: behind a backslash the offset is that of the last byte of the character that makes no escape,
and if this is not its first byte too, the error is told at the end of the text. `syntaxFault_place` says
both, for formatting and for compiling.
-/

namespace PolicyGate

open Source

/-! ## Positions -/

namespace Text

theorem before?_of_width (before rest : List Char) :
    before? (width before) (before ++ rest) = some before := by
  induction before with
  | nil => cases rest <;> rfl
  | cons c before ih =>
    have size := c.utf8Size_pos
    have wide : width (c :: before) ≠ 0 := by
      rw [Text.width_cons]
      omega
    have behind : width (c :: before) - c.utf8Size = width before := by
      rw [Text.width_cons]
      omega
    have past : ¬width (c :: before) < c.utf8Size := by
      rw [Text.width_cons]
      omega
    rw [List.cons_append, before?, if_neg past, behind, ih]
    · rfl
    · exact wide

theorem before?_inside {c : Char} {k : Nat} (first : 0 < k) (last : k < c.utf8Size)
    (before rest : List Char) : before? (width before + k) (before ++ c :: rest) = none := by
  induction before with
  | nil =>
    have inside : width [] + k < c.utf8Size := by
      rw [show width [] = 0 from rfl]
      omega
    rw [List.nil_append, before?, if_pos inside]
    exact fun e => by omega
  | cons d before ih =>
    have behind : width (d :: before) + k - d.utf8Size = width before + k := by
      rw [Text.width_cons]
      omega
    have past : ¬width (d :: before) + k < d.utf8Size := by
      rw [Text.width_cons]
      omega
    rw [List.cons_append, before?, if_neg past, behind, ih]
    · rfl
    · exact fun e => by omega

end Text

open Text (Position)

namespace Source

/-- The place at which a fault at a byte offset is told. -/
inductive ToldAt (cs : List Char) : Nat → SyntaxFault → Position → Prop
  /-- The offset is that of a character or of the end of the text, and this is the place. -/
  | there {before rest : List Char} (whole : cs = before ++ rest) (fault : SyntaxFault) :
      ToldAt cs (Text.width before) fault (.after before)
  /-- The offset is inside a character that makes no escape, and the place is the end of the text. -/
  | wide {before rest : List Char} {c : Char} (whole : cs = before ++ '\\' :: c :: rest)
      (refused : Text.Quoted.unescape? c = none) (size : 1 < c.utf8Size) :
      ToldAt cs (Text.width before + c.utf8Size) .invalidEscape (.after cs)

section
variable {cs rest : List Char} {offset : Nat} {fault : SyntaxFault} {place : Position}

theorem ToldAt.place_eq (h : ToldAt cs offset fault place) : place = Text.position cs offset := by
  cases h with
  | there whole =>
    rw [Text.position, whole, Text.before?_of_width]
    rfl
  | @wide before rest c whole refused size =>
    have whole' : cs = (before ++ ['\\']) ++ c :: rest := by
      rw [whole, List.append_assoc]
      rfl
    have inside : Text.width before + c.utf8Size = Text.width (before ++ ['\\']) + (c.utf8Size - 1) := by
      rw [Text.width_append, show Text.width ['\\'] = 1 from rfl]
      omega
    have none_before : Text.before? (Text.width before + c.utf8Size) cs = none := by
      rw [inside, whole']
      exact Text.before?_inside (by omega) (by omega) _ _
    rw [Text.position, none_before]
    rfl

theorem ToldAt.rename (h : ToldAt cs offset fault place) (f : String → String) :
    ToldAt cs offset (fault.rename f) place := by
  cases h with
  | there whole => exact .there whole _
  | wide whole refused size => exact .wide whole refused size

theorem TextAt.told (h : TextAt cs offset rest) (fault : SyntaxFault) :
    ∃ place, ToldAt cs offset fault place := by
  obtain ⟨before, whole, rfl⟩ := h
  exact ⟨_, .there whole fault⟩

theorem TextAt.told_escape {c : Char} (h : TextAt cs offset ('\\' :: c :: rest))
    (refused : Text.Quoted.unescape? c = none) :
    ∃ place, ToldAt cs (offset + c.utf8Size) .invalidEscape place := by
  by_cases size : c.utf8Size = 1
  · have behind := h.behind_char
    rw [show '\\'.utf8Size = c.utf8Size from size.symm] at behind
    exact behind.told _
  · obtain ⟨before, whole, rfl⟩ := h
    have := c.utf8Size_pos
    exact ⟨_, .wide whole refused (by omega)⟩

/-! ## Faults of tokens -/

theorem toldAt_of_scanContent {whole cs : List Char} {start d : Nat} {f : ScanFault}
    {quoted : List Char} (quote : TextAt whole start quoted) (here : TextAt whole (start + d) cs)
    (h : scanContent d cs = .error f) : ∃ place, ToldAt whole (start + f.distance) f.fault place := by
  fun_induction scanContent d cs with
  | case1 =>
    cases h
    exact quote.told _
  | case2 d =>
    cases h
    exact here.told _
  | case3 d e cs c escaped ih =>
    have size : e.utf8Size = 1 := by
      rw [← width_unescaped escaped]
      exact (Nat.zero_add _).symm
    have behind := here.behind_char.behind_char
    rw [size] at behind
    exact ih behind (except_map_error.mp h)
  | case4 d e cs refused =>
    cases h
    rw [← Nat.add_assoc]
    exact here.told_escape refused
  | case5 =>
    cases h
    exact quote.told _
  | case6 => cases h
  | case7 d c cs _ _ _ _ ih =>
    have behind := here.behind_char
    rw [Nat.add_assoc] at behind
    exact ih behind (except_map_error.mp h)

theorem toldAt_of_scan {whole cs : List Char} {start : Nat} {c : Char} {f : ScanFault}
    (here : TextAt whole start (c :: cs)) (h : scan c cs = .error f) :
    ∃ place, ToldAt whole (start + f.distance) f.fault place := by
  by_cases quote : c = '"'
  · subst quote
    rw [scan_quote, scanString, except_map_error] at h
    exact toldAt_of_scanContent here here.behind_char h
  · obtain ⟨-, -, refusal⟩ := scan_refused [] quote h
    rw [refusal.distance]
    exact here.told _

end

theorem exists_toldAt {document : String} {e : SyntaxError} (h : Document.ofText document = .error e) :
    ∃ place, ToldAt document.toList e.offset e.fault place := by
  cases ht : tokenize document with
  | error e' =>
    have same : e' = e := by
      rw [Document.ofText, ht] at h
      exact Except.error.inj h
    obtain ⟨start, c, rest, f, here, failed, rfl⟩ := fault_of_tokenize ht
    rw [← same]
    exact toldAt_of_scan here failed
  | ok ts =>
    obtain ⟨t, ⟨before, behind, tokens, -⟩, place⟩ := stopsAt_of_ofText ht h
    have significant : t ∈ significantTokens ts := by
      rw [tokens]
      exact List.mem_append_right _ List.mem_cons_self
    obtain ⟨rest, here, -⟩ := begins_of_mem_tokenize ht (List.mem_filter.mp significant).1
    rw [place]
    exact here.told _

end Source

section
variable {document : String} {place : Position} {fault : SyntaxFault}

theorem toldAt_iff {read : Except SyntaxError Document} {g : Nat → Nat}
    (told : ∀ e, read = .error e → ∃ place, ToldAt document.toList (g e.offset) e.fault place) :
    (∃ e, read = .error e ∧ fault = e.fault ∧ place = Text.position document.toList (g e.offset)) ↔
      ∃ e, read = .error e ∧ e.fault = fault ∧ ToldAt document.toList (g e.offset) fault place := by
  constructor
  · rintro ⟨e, failed, rfl, rfl⟩
    obtain ⟨place, h⟩ := told e failed
    exact ⟨e, failed, rfl, h.place_eq ▸ h⟩
  · rintro ⟨e, failed, rfl, h⟩
    exact ⟨e, failed, rfl, h.place_eq⟩

end

/-- A document that has a syntax error is refused at the place that the offset of the error points to in
the author's text, whether it is formatted or compiled. -/
theorem syntaxFault_place (document : String) (place : Position) (fault : SyntaxFault) :
    (formatDocument document = .error (.syntaxFault place fault) ↔
      ∃ e, Document.ofText document = .error e ∧ e.fault = fault ∧
        ToldAt document.toList e.offset fault place) ∧
    (compileDocument document = .error (.syntaxFault place fault) ↔
      ∃ e, Document.ofText (numberVariables document).text = .error e ∧ e.fault = fault ∧
        ToldAt document.toList ((numberVariables document).originalOffset e.offset) fault place) := by
  rw [formatDocument_syntaxFault, compileDocument_syntaxFault]
  refine ⟨toldAt_iff (g := id) fun e => exists_toldAt, toldAt_iff fun e' failed => ?_⟩
  rcases (Document.ofText_follows document).cases with
    ⟨d, d', read, read', -⟩ | ⟨e, e'', read, read', fault, offset⟩
  · rw [read'] at failed
    cases failed
  · rw [read'] at failed
    cases failed
    obtain ⟨place, told⟩ := exists_toldAt read
    rw [offset, fault]
    exact ⟨place, told.rename _⟩

/-- The accented letter is the tenth character of the first line, and the error is told at the second
line. -/
theorem syntaxFault_place_wide :
    "policy \"\\é\" \x7b\x7d\n".toList = "policy \"\\".toList ++ 'é' :: "\" \x7b\x7d\n".toList ∧
      Document.ofText "policy \"\\é\" \x7b\x7d\n" = .error ⟨10, .invalidEscape⟩ ∧
      Text.width "policy \"\\".toList ≤ 10 ∧ 10 < Text.width "policy \"\\".toList + 'é'.utf8Size ∧
      Position.after "policy \"\\".toList = ⟨1, 10⟩ ∧
      formatDocument "policy \"\\é\" \x7b\x7d\n" = .error (.syntaxFault ⟨2, 1⟩ .invalidEscape) ∧
      compileDocument "policy \"\\é\" \x7b\x7d\n" = .error (.syntaxFault ⟨2, 1⟩ .invalidEscape) := by
  refine ⟨by decide, by decide +kernel, by decide, by decide, by decide, by decide +kernel, by decide +kernel⟩

end PolicyGate
