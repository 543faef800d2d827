import PolicyGate.Proofs.Policy.Formatting
import PolicyGate.Proofs.Source.Assignments
import PolicyGate.Proofs.Source.Occurrences
import PolicyGate.Proofs.Source.Rescanning

/-!
# Numbering commutes with reading

The text with numbered variables has the tree of the author's text, with its variables numbered, or a
syntax error where the author's text has one: `numberVariables_commutes`. So compiling a document finds a
syntax error just where formatting finds one.
-/

namespace PolicyGate

open Source

namespace Source

def Numbered.nameFor (n : Numbered) (name : String) : String :=
  match n.assignments.lookup name with
  | some id => toString id
  | none => name

theorem lookup_ofList (table : List (List Char × Nat)) (name : String) :
    (table.map fun (name, id) => (String.ofList name, id)).lookup name = table.lookup name.toList := by
  induction table with
  | nil => rfl
  | cons entry table ih =>
    obtain ⟨found, id⟩ := entry
    have same : (name == String.ofList found) = (name.toList == found) := by
      rw [Bool.eq_iff_iff, beq_iff_eq, beq_iff_eq, ← String.toList_inj, String.toList_ofList]
    rw [List.map_cons, List.lookup_cons, List.lookup_cons, same, ih]

theorem lookup_numberVariables (document name : String) :
    (numberVariables document).assignments.lookup name =
      (assignments (variableNames (pieces document.toList))).lookup name.toList :=
  lookup_ofList _ name

theorem nameFor_numberVariables (document : String) :
    (numberVariables document).nameFor =
      numberedName (assignments (variableNames (pieces document.toList))) := by
  funext name
  have found := lookup_numberVariables document name
  cases assigned : (assignments (variableNames (pieces document.toList))).lookup name.toList <;>
    simp only [Numbered.nameFor, numberedName, found, assigned]

theorem mem_variableNames {document : String} {d : Document} (h : Document.ofText document = .ok d)
    {name : String} (hn : name ∈ d.vars) : name.toList ∈ variableNames (pieces document.toList) := by
  rw [Document.variableNames_of_ofText h, Document.variableNames_eq]
  exact List.mem_map_of_mem hn

theorem numberedName_cases {names : List (List Char)} {name : String} (hn : name.toList ∈ names) :
    if isNumeric name.toList then numberedName (assignments names) name = name
    else ∃ id, (assignments names).lookup name.toList = some id ∧
      numberedName (assignments names) name = toString id := by
  unfold numberedName
  by_cases numeric : isNumeric name.toList = true
  · rw [if_pos numeric, lookup_numeric numeric]
  · rw [if_neg numeric]
    obtain ⟨id, hid⟩ := exists_assignment hn (by simpa using numeric)
    rw [hid]
    exact ⟨id, rfl, rfl⟩

theorem nameFor_cases {document : String} {d : Document} (h : Document.ofText document = .ok d)
    {name : String} (hn : name ∈ d.vars) :
    if isNumeric name.toList then (numberVariables document).nameFor name = name
    else ∃ id, (numberVariables document).assignments.lookup name = some id ∧
      (numberVariables document).nameFor name = toString id := by
  rw [nameFor_numberVariables, lookup_numberVariables]
  exact numberedName_cases (mem_variableNames h hn)

theorem Document.ofText_follows (document : String) :
    Follows (numberVariables document).nameFor (numberVariables document).originalOffset
      (fun d d' => d'.mapOffsets (numberVariables document).originalOffset =
        d.rename (numberVariables document).nameFor)
      (Document.ofText document) (Document.ofText (numberVariables document).text) := by
  have places : ∀ new old,
      Place (assignments (Source.variableNames (pieces document.toList))) (pieces document.toList) new old →
      (numberVariables document).originalOffset (0 + new) = 0 + old := by
    intro new old place
    rw [Nat.zero_add, Nat.zero_add]
    exact originalOffset_numberVariables place
  have start := places 0 0 .start
  have tokens := tokensFrom_replaced places
  have text : (numberVariables document).text.toList =
      replacedText (assignments (Source.variableNames (pieces document.toList))) document.toList :=
    String.toList_ofList
  rw [nameFor_numberVariables, Document.ofText, Document.ofText, tokenize, tokenize, text]
  generalize tokensFrom 0 document.toList = ts, tokensFrom 0 (replacedText _ _) = ts' at tokens ⊢
  cases tokens with
  | ok related => exact Document.ofTokens_follows start related
  | error fault offset => exact .error fault offset

end Source

section
variable {document : String} {place : Text.Position} {fault : SyntaxFault}

theorem syntaxFault_iff {α : Type} {read : Except SyntaxError Document} {g : Nat → Nat}
    {k : Document → Except DocumentError α} (hk : ∀ d, k d ≠ .error (.syntaxFault place fault)) :
    (match read with
      | .error e => .error (DocumentError.ofOffset document (g e.offset) e.fault)
      | .ok d => k d : Except DocumentError α) = .error (.syntaxFault place fault) ↔
      ∃ e, read = .error e ∧ fault = e.fault ∧ place = Text.position document.toList (g e.offset) := by
  cases read with
  | error e =>
    simp only [DocumentError.ofOffset, Except.error.injEq, DocumentError.syntaxFault.injEq]
    constructor
    · rintro ⟨rfl, rfl⟩
      exact ⟨e, rfl, rfl, rfl⟩
    · rintro ⟨_, rfl, rfl, rfl⟩
      exact ⟨rfl, rfl⟩
  | ok d => simp [hk d]

theorem lowerAll_ne_syntaxFault (ps : List Source.Policy) :
    Policy.lowerAll [] ps ≠ .error (.syntaxFault place fault) := by
  intro h
  rcases lowerAll_cases [] ps with ⟨qs, hl⟩ | ⟨name, hl⟩ | ⟨name, fault, hl⟩ <;>
    rw [hl] at h <;> cases h

theorem compileDocument_syntaxFault : compileDocument document = .error (.syntaxFault place fault) ↔
    ∃ e, Document.ofText (numberVariables document).text = .error e ∧ fault = e.fault ∧
      place = Text.position document.toList ((numberVariables document).originalOffset e.offset) :=
  syntaxFault_iff fun d => lowerAll_ne_syntaxFault d.policies

theorem formatDocument_syntaxFault : formatDocument document = .error (.syntaxFault place fault) ↔
    ∃ e, Document.ofText document = .error e ∧ fault = e.fault ∧
      place = Text.position document.toList e.offset := by
  refine syntaxFault_iff (g := id) fun d h => ?_
  cases h

end

/-- Numbering the variables of a document and reading it can be exchanged, whether it has a tree or a
syntax error. -/
theorem numberVariables_commutes (document : String) :
    let n := numberVariables document
    ((∃ d d', Document.ofText document = .ok d ∧ Document.ofText n.text = .ok d' ∧
        d'.mapOffsets n.originalOffset = d.rename n.nameFor ∧
        ∀ name ∈ d.vars,
          if isNumeric name.toList then n.nameFor name = name
          else ∃ id, n.assignments.lookup name = some id ∧ n.nameFor name = toString id) ∨
      ∃ e e', Document.ofText document = .error e ∧ Document.ofText n.text = .error e' ∧
        n.originalOffset e'.offset = e.offset ∧ e'.fault = e.fault.rename n.nameFor) ∧
    ∀ place, (∃ fault, compileDocument document = .error (.syntaxFault place fault)) ↔
      ∃ fault, formatDocument document = .error (.syntaxFault place fault) := by
  intro n
  simp only [compileDocument_syntaxFault, formatDocument_syntaxFault]
  rcases (Document.ofText_follows document).cases with
    ⟨d, d', read, read', tree⟩ | ⟨e, e', read, read', fault, offset⟩
  · refine ⟨.inl ⟨d, d', read, read', tree, fun name => nameFor_cases read⟩, ?_⟩
    simp [read, read']
  · refine ⟨.inr ⟨e, e', read, read', offset, fault⟩, ?_⟩
    simp [read, read', offset]

theorem compileDocument_of_tokens {document : String} {d : Document}
    (kinds : (tokenize document).map (List.map Token.kind) = .ok (d.tokens ++ [.endOfDocument]))
    (ok : d.WellFormed) :
    ∃ d', Document.ofText document = .ok d' ∧ d'.vars = d.vars ∧
      compileDocument document = Policy.lowerAll [] d.numbered.policies := by
  obtain ⟨d', read, same⟩ := Document.exists_ofText kinds ok
  have vars (e : Document) : e.withoutOffsets.vars = e.vars := List.flatMap_map ..
  have policies : d'.numbered.withoutOffsets.policies = d.numbered.withoutOffsets.policies := by
    rw [← numbered_withoutOffsets, same, numbered_withoutOffsets]
  refine ⟨d', read, by rw [← vars, same, vars], ?_⟩
  calc compileDocument document
      = Policy.lowerAll [] d'.numbered.policies := compileDocument_of_ofText read
    _ = Policy.lowerAll [] d'.numbered.withoutOffsets.policies := (lowerAll_withoutOffset [] _).symm
    _ = Policy.lowerAll [] d.numbered.withoutOffsets.policies := by rw [policies]
    _ = Policy.lowerAll [] d.numbered.policies := lowerAll_withoutOffset [] _

end PolicyGate
