import PolicyGate.Proofs.Source.Renaming

/-!
# Formatting keeps the meaning of a document

What a document compiles to depends on its tree alone, and neither on comments nor on offsets
(`compileDocument_of_isTreeOf`). A formatted document has the same tree, so it compiles to the same
policies or has the same fault: `compileDocument_format`.
-/

namespace PolicyGate

open Source (Document AnyComments)

/-! ## Lowering looks at neither comments nor offsets -/

theorem lowerItems_congr {α β : Type} {R : α → α → Prop} {lower : α → Except RuleFault β}
    {xs ys : List α} (h : List.Forall₂ R xs ys) (hR : ∀ x y, R x y → lower x = lower y)
    (mark : Nat → RuleFault → PolicyFault) :
    Source.lowerItems lower mark xs = Source.lowerItems lower mark ys := by
  unfold Source.lowerItems
  generalize 0 = n
  induction h generalizing n with
  | nil => rfl
  | cons hx _ ih =>
    simp only [List.zipIdx_cons, List.mapM_cons, hR _ _ hx, ih]

theorem lowerItems_blockItems {α β : Type} {same : List String → List String → Prop} {R : α → α → Prop}
    {lower : α → Except RuleFault β} {b b' : Option (Source.Block α)}
    (h : Option.Rel (Source.Block.Agrees same R) b b') (hR : ∀ x y, R x y → lower x = lower y)
    (mark : Nat → RuleFault → PolicyFault) :
    Source.lowerItems lower mark (Source.blockItems b) =
      Source.lowerItems lower mark (Source.blockItems b') := by
  cases h with
  | none => rfl
  | some h => exact lowerItems_congr h.1 hR mark

section
variable {same : List String → List String → Prop}

theorem lower_rule {r r' : Source.Rule} (h : r.Agrees same r') : r.lower = r'.lower := by
  obtain ⟨cs, -, rfl⟩ := h
  rfl

theorem lower_caveat {c c' : Source.Caveat} (h : c.Agrees same c') : c.lower = c'.lower := by
  rw [Source.Caveat.lower, Source.Caveat.lower, h.2]

theorem lower_policy {p p' : Source.Policy} (h : p.Agrees same p') : p.lower = p'.lower := by
  have rules : Source.lowerItems Source.Rule.lower .inRule (Source.blockItems p.rules) =
      Source.lowerItems Source.Rule.lower .inRule (Source.blockItems p'.rules) :=
    lowerItems_blockItems h.rules (fun _ _ => lower_rule) .inRule
  have caveats : Source.lowerItems Source.Caveat.lower .inCaveat (Source.blockItems p.caveats) =
      Source.lowerItems Source.Caveat.lower .inCaveat (Source.blockItems p'.caveats) :=
    lowerItems_blockItems h.caveats (fun _ _ => lower_caveat) .inCaveat
  rw [Source.Policy.lower, Source.Policy.lower, h.name, rules, caveats]

theorem lowerAll_congr {ps ps' : List Source.Policy} (h : List.Forall₂ (Source.Policy.Agrees same) ps ps')
    (seen : List String) : Policy.lowerAll seen ps = Policy.lowerAll seen ps' := by
  induction h generalizing seen with
  | nil => rfl
  | cons hp _ ih => rw [Policy.lowerAll, Policy.lowerAll, lower_policy hp, hp.name, ih]

end

theorem lowerAll_withoutOffset (seen : List String) (ps : List Source.Policy) :
    Policy.lowerAll seen (ps.map Source.Policy.withoutOffset) = Policy.lowerAll seen ps := by
  induction ps generalizing seen with
  | nil => rfl
  | cons p ps ih =>
    rw [List.map_cons, Policy.lowerAll, Policy.lowerAll, ih]
    rfl

theorem lowerAll_cases (seen : List String) (ps : List Source.Policy) :
    (∃ compiled, Policy.lowerAll seen ps = .ok compiled) ∨
      (∃ name, Policy.lowerAll seen ps = .error (.duplicatePolicy name)) ∨
      ∃ name fault, Policy.lowerAll seen ps = .error (.policyFault name fault) := by
  induction ps generalizing seen with
  | nil => exact .inl ⟨[], rfl⟩
  | cons p ps ih =>
    rw [Policy.lowerAll]
    by_cases hp : p.name ∈ seen
    · rw [if_pos hp]
      exact .inr (.inl ⟨p.name, rfl⟩)
    · rw [if_neg hp]
      cases hl : p.lower with
      | error fault => exact .inr (.inr ⟨p.name, fault, rfl⟩)
      | ok policy =>
        rcases ih (p.name :: seen) with ⟨ps', h⟩ | ⟨name, h⟩ | ⟨name, fault, h⟩
        · exact .inl ⟨policy :: ps', by simp only [h]; rfl⟩
        · exact .inr (.inl ⟨name, by simp only [h]; rfl⟩)
        · exact .inr (.inr ⟨name, fault, by simp only [h]; rfl⟩)

/-! ## Compiling a tree -/

theorem compileDocument_of_isTreeOf {document : String} {d : Document} (h : d.IsTreeOf document.toList) :
    compileDocument document = Policy.lowerAll [] d.numbered.policies := by
  obtain ⟨d', read, agrees⟩ := h.numbered.exists_ofText
  rw [compileDocument]
  simp only [read]
  exact (lowerAll_congr agrees.1 []).symm

theorem compileDocument_of_ofText {document : String} {d : Document}
    (h : Document.ofText document = .ok d) :
    compileDocument document = Policy.lowerAll [] d.numbered.policies :=
  compileDocument_of_isTreeOf (Document.isTreeOf_of_ofText h)

theorem numbered_withoutOffsets (d : Document) :
    d.withoutOffsets.numbered = d.numbered.withoutOffsets := by
  have tokens : d.withoutOffsets.tokens = d.tokens := by
    unfold Source.Document.tokens Source.Document.withoutOffsets
    rw [List.flatMap_map]
    rfl
  unfold Source.Document.numbered Source.Document.variableNames
  rw [tokens]
  unfold Source.Document.rename Source.Document.withoutOffsets
  rw [List.map_map, List.map_map]
  rfl

/-- Formatting keeps what a document compiles to, and a document that can be formatted has no syntax
error. -/
theorem compileDocument_format {document text : String} (h : formatDocument document = .ok text) :
    compileDocument text = compileDocument document ∧
      ((∃ policies, compileDocument document = .ok policies) ∨
        (∃ name, compileDocument document = .error (.duplicatePolicy name)) ∨
        ∃ name fault, compileDocument document = .error (.policyFault name fault)) := by
  unfold formatDocument at h
  split at h
  · cases h
  next d read =>
  cases h
  obtain ⟨d', read', same⟩ := Document.exists_ofText_text read
  have policies : d'.numbered.withoutOffsets.policies = d.numbered.withoutOffsets.policies := by
    rw [← numbered_withoutOffsets, same, numbered_withoutOffsets]
  have compiled : Policy.lowerAll [] d'.numbered.policies = Policy.lowerAll [] d.numbered.policies :=
    calc Policy.lowerAll [] d'.numbered.policies
        = Policy.lowerAll [] d'.numbered.withoutOffsets.policies := (lowerAll_withoutOffset [] _).symm
      _ = Policy.lowerAll [] d.numbered.withoutOffsets.policies := by rw [policies]
      _ = Policy.lowerAll [] d.numbered.policies := lowerAll_withoutOffset [] _
  rw [compileDocument_of_ofText read, compileDocument_of_ofText read']
  exact ⟨compiled, lowerAll_cases [] _⟩

theorem compileDocument_format_numbered :
    formatDocument "policy \"p\"\x7brules\x7b*a($x,$y)<-b($y,$0,$x)\x7d\x7d" =
        .ok "policy \"p\" \x7b\n\trules \x7b\n\t\t*a($x, $y)\n\t\t\t<- b($y, $0, $x)\n\t\x7d\n\x7d\n" ∧
      compileDocument "policy \"p\" \x7b\n\trules \x7b\n\t\t*a($x, $y)\n\t\t\t<- b($y, $0, $x)\n\t\x7d\n\x7d\n" =
        compileDocument "policy \"p\"\x7brules\x7b*a($x,$y)<-b($y,$0,$x)\x7d\x7d" := by
  let rule : Source.Rule := ⟨[], ⟨"a", [.var "x", .var "y"]⟩, [⟨"b", [.var "y", .var "0", .var "x"]⟩], []⟩
  let tree : Document := ⟨[⟨[], "p", 0, some ⟨[rule], []⟩, none⟩], []⟩
  have kinds : (Source.tokenize "policy \"p\"\x7brules\x7b*a($x,$y)<-b($y,$0,$x)\x7d\x7d").map
      (List.map Source.Token.kind) = .ok (tree.tokens ++ [.endOfDocument]) := by decide +kernel
  have ok : tree.WellFormed := by
    intro p hp
    obtain rfl := List.mem_singleton.mp hp
    refine ⟨fun b hb r hr => ?_, fun b hb => (by cases hb)⟩
    cases hb
    obtain rfl := List.mem_singleton.mp hr
    exact List.cons_ne_nil _ _
  have formatted := Source.formatDocument_of_tokens kinds ok
  have text : tree.text =
      "policy \"p\" \x7b\n\trules \x7b\n\t\t*a($x, $y)\n\t\t\t<- b($y, $0, $x)\n\t\x7d\n\x7d\n" := by decide +kernel
  rw [text] at formatted
  exact ⟨formatted, (compileDocument_format formatted).1⟩

end PolicyGate
