import PolicyGate.Proofs.Policy.Numbering
import PolicyGate.Proofs.Source.Respelling

/-!
# Variables may have any names

A document with other symbolic names for its variables is compiled to the same policies, or has the same
fault: `compileDocument_respelled`.
-/

namespace PolicyGate

open Source (Document IsWord isNumeric respelled onSymbolic)

section
variable {f : String → String} {names : List String}
  (symbolic : ∀ x ∈ names, isNumeric x.toList = false → IsWord (f x).toList ∧ isNumeric (f x).toList = false)
include symbolic

theorem isNumeric_onSymbolic {x : String} (hx : x ∈ names) :
    isNumeric (onSymbolic f x).toList = isNumeric x.toList := by
  unfold onSymbolic
  split
  · rfl
  · next h =>
    have h : isNumeric x.toList = false := by simpa using h
    rw [(symbolic x hx h).2, h]

theorem isRespelling_onSymbolic (injective : ∀ x ∈ names, ∀ y ∈ names, isNumeric x.toList = false →
      isNumeric y.toList = false → f x = f y → x = y) : Source.IsRespelling (onSymbolic f) names where
  numeric x _ hx := by rw [onSymbolic, if_pos hx]
  symbolic x hx hs := by rw [isNumeric_onSymbolic symbolic hx, hs]
  injective x hx y hy same := by
    have alike : isNumeric x.toList = isNumeric y.toList := by
      rw [← isNumeric_onSymbolic symbolic hx, same, isNumeric_onSymbolic symbolic hy]
    unfold onSymbolic at same
    rw [← alike] at same
    split at same
    · exact same
    · next h =>
      have h : isNumeric x.toList = false := by simpa using h
      exact injective x hx y hy h (alike ▸ h) same

theorem isWord_onSymbolic (words : ∀ x ∈ names, IsWord x.toList) :
    ∀ x ∈ names, IsWord (onSymbolic f x).toList := by
  intro x hx
  unfold onSymbolic
  split
  · exact words x hx
  · next h => exact (symbolic x hx (by simpa using h)).1

end

theorem isWord_of_ofText {document : String} {d : Document} (read : Document.ofText document = .ok d) :
    ∀ x ∈ d.vars, IsWord x.toList := by
  obtain ⟨ks, spells, -, written⟩ := Document.isTreeOf_of_ofText read
  intro x hx
  rw [← Source.tokenVars_of_writtenAs written] at hx
  obtain ⟨k, hk, hv⟩ := List.mem_filterMap.mp hx
  cases k <;> cases hv
  exact spells.written _ hk

/-- Other symbolic names for the variables, different for different ones, change nothing of what a document
compiles to, whether it has policies or a fault. -/
theorem compileDocument_respelled {document : String} {d : Document} (read : Document.ofText document = .ok d)
    {f : String → String}
    (symbolic : ∀ x ∈ d.vars, isNumeric x.toList = false →
      IsWord (f x).toList ∧ isNumeric (f x).toList = false)
    (injective : ∀ x ∈ d.vars, ∀ y ∈ d.vars, isNumeric x.toList = false → isNumeric y.toList = false →
      f x = f y → x = y) :
    compileDocument (respelled f document) = compileDocument document := by
  have tree : (d.rename (onSymbolic f)).IsTreeOf (respelled f document).toList := by
    rw [respelled, String.toList_ofList]
    exact (Document.isTreeOf_of_ofText read).respelled (isWord_onSymbolic symbolic (isWord_of_ofText read))
  rw [compileDocument_of_isTreeOf tree, compileDocument_of_ofText read,
    Document.numbered_rename (isRespelling_onSymbolic symbolic injective)]

theorem compileDocument_respelled_commented :
    compileDocument "policy \"p\"\x7brules\x7b*a($y1,$0)<-b($y1,$0,\"$x\")\x7d\x7d//$x" =
      compileDocument "policy \"p\"\x7brules\x7b*a($x,$0)<-b($x,$0,\"$x\")\x7d\x7d//$x" := by
  let rule : Source.Rule := ⟨[], ⟨"a", [.var "x", .var "0"]⟩,
    [⟨"b", [.var "x", .var "0", .literal (.string "$x")]⟩], []⟩
  let tree : Document := ⟨[⟨[], "p", 0, some ⟨[rule], []⟩, none⟩], ["//$x"]⟩
  have kinds : (Source.tokenize "policy \"p\"\x7brules\x7b*a($x,$0)<-b($x,$0,\"$x\")\x7d\x7d//$x").map
      (List.map Source.Token.kind) = .ok (tree.tokens ++ [.endOfDocument]) := by decide +kernel
  obtain ⟨d, read, same, -⟩ := compileDocument_of_tokens kinds (by decide)
  have vars : d.vars = ["x", "0", "x", "0"] := same
  have text : respelled (fun _ => "y1") "policy \"p\"\x7brules\x7b*a($x,$0)<-b($x,$0,\"$x\")\x7d\x7d//$x" =
      "policy \"p\"\x7brules\x7b*a($y1,$0)<-b($y1,$0,\"$x\")\x7d\x7d//$x" := by decide +kernel
  rw [← text]
  refine compileDocument_respelled read ?_ ?_
  · intro x _ _
    exact ⟨⟨by decide, List.all_eq_true.mp rfl⟩, rfl⟩
  · rw [vars]
    decide

end PolicyGate
