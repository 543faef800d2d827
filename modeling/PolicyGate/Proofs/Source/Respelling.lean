import PolicyGate.Proofs.Source.Assignments
import PolicyGate.Proofs.Source.Occurrences

/-!
# Other names for the variables of a text

The text in which the variable tokens have other names (`respelledText`) spells the renamed tree. While the
symbolic names can be told apart as before, they are given the same numbers: `Document.numbered_rename`.
-/

namespace PolicyGate.Source

variable {f : String → String}

/-! ## The text -/

def Scanned.respelling (f : String → String) (s : Scanned) : List Char :=
  match s.kind with
  | .var name => '$' :: (f name).toList
  | _ => s.spelling

/-- The blank or token that begins with `c`, with its other name, and the text behind it. Behind a fault of
the text nothing is changed. -/
def respelledFirst (f : String → String) (c : Char) (cs : List Char) : List Char × List Char :=
  if Text.isBlank c then ([c], cs)
  else
    match scan c cs with
    | .error _ => (c :: cs, [])
    | .ok s => (s.respelling f, s.rest)

theorem length_respelledFirst_le (f : String → String) (c : Char) (cs : List Char) :
    (respelledFirst f c cs).2.length ≤ cs.length := by
  unfold respelledFirst
  split
  · exact Nat.le_refl _
  split
  · exact Nat.zero_le _
  · next s hs =>
    obtain ⟨tiles, nonempty⟩ := scan_tiles hs
    have lengths := congrArg List.length tiles
    have positive := List.length_pos_iff.mpr nonempty
    rw [List.length_append, List.length_cons] at lengths
    show s.rest.length ≤ cs.length
    omega

def respelledText (f : String → String) (cs : List Char) : List Char :=
  match cs with
  | [] => []
  | c :: rest => (respelledFirst f c rest).1 ++ respelledText f (respelledFirst f c rest).2
termination_by cs.length
decreasing_by exact Nat.lt_succ_of_le (length_respelledFirst_le f c rest)

def onSymbolic (f : String → String) (name : String) : String :=
  if isNumeric name.toList then name else f name

def respelled (f : String → String) (document : String) : String :=
  String.ofList (respelledText (onSymbolic f) document.toList)

theorem respelledText_nil (f : String → String) : respelledText f [] = [] := by
  rw [respelledText.eq_def]

theorem respelledText_cons (c : Char) (cs : List Char) : respelledText f (c :: cs) =
    (respelledFirst f c cs).1 ++ respelledText f (respelledFirst f c cs).2 := by
  rw [respelledText.eq_def]

theorem respelledText_blank {c : Char} (hc : Text.isBlank c = true) (cs : List Char) :
    respelledText f (c :: cs) = c :: respelledText f cs := by
  rw [respelledText_cons, respelledFirst, if_pos hc]
  rfl

theorem respelledText_token {c : Char} {cs : List Char} {s : Scanned} (hc : Text.isBlank c = false)
    (h : scan c cs = .ok s) : respelledText f (c :: cs) = s.respelling f ++ respelledText f s.rest := by
  rw [respelledText_cons, respelledFirst, if_neg (by simp [hc]), h]

theorem spelling_of_var {c : Char} {cs : List Char} {s : Scanned} {name : String} (h : scan c cs = .ok s)
    (hk : s.kind = .var name) : s.spelling = '$' :: name.toList := by
  obtain ⟨ps, -, isPieces⟩ := pieces_scan h
  rw [IsPieces, hk] at isPieces
  exact isPieces.1

theorem head?_respelling {c : Char} {cs : List Char} {s : Scanned} (h : scan c cs = .ok s)
    (rest : List Char) : (s.respelling f ++ rest).head? = some c := by
  obtain ⟨tiles, nonempty⟩ := scan_tiles h
  obtain ⟨d, ds, spelled⟩ := List.exists_cons_of_ne_nil nonempty
  have first : c = d := by
    rw [spelled] at tiles
    exact (List.cons.inj tiles).1
  unfold Scanned.respelling
  split
  · next name hk =>
    have dollar := spelling_of_var h hk
    rw [spelled] at dollar
    rw [first, (List.cons.inj dollar).1]
    rfl
  · rw [spelled, first]
    rfl

theorem head?_respelledText (f : String → String) (cs : List Char) :
    (respelledText f cs).head? = cs.head? := by
  cases cs with
  | nil => rw [respelledText_nil]
  | cons c cs =>
    rw [respelledText_cons, respelledFirst]
    split
    · rfl
    split
    · rfl
    · next s hs => exact head?_respelling hs _

theorem Scans.respelling {spelling : List Char} {k : TokenKind} (h : Scans spelling k)
    (word : ∀ name, k.var? = some name → IsWord (f name).toList) (rest : List Char) :
    Scans (Scanned.respelling f ⟨k, spelling, rest⟩) (k.rename f) := by
  cases k with
  | var name =>
    have scans := scans_var (word name rfl)
    rw [String.ofList_toList] at scans
    exact scans
  | _ => exact h

theorem Spells.respelled {cs : List Char} {ks : List TokenKind} (h : Spells cs ks)
    (words : ∀ name ∈ tokenVars ks, IsWord (f name).toList) :
    Spells (respelledText f cs) (renameTokens f ks) := by
  induction h with
  | nil =>
    rw [respelledText_nil]
    exact .nil
  | blank hc _ ih =>
    rw [respelledText_blank hc]
    exact .blank hc (ih words)
  | @token spelling cs k ks hs ha _ ih =>
    obtain ⟨c, cs', rfl, hr⟩ := hs.reads
    obtain ⟨d, ds, he, hb⟩ := hs.isBlank_first
    cases he
    have word : ∀ name, k.var? = some name → IsWord (f name).toList := fun name hk =>
      words name (List.mem_filterMap.mpr ⟨k, List.mem_cons_self, hk⟩)
    have others : ∀ name ∈ tokenVars ks, IsWord (f name).toList := by
      intro name hn
      obtain ⟨l, hl, hv⟩ := List.mem_filterMap.mp hn
      exact words name (List.mem_filterMap.mpr ⟨l, List.mem_cons_of_mem k hl, hv⟩)
    rw [List.cons_append, respelledText_token hb (hr cs ha)]
    -- what stands behind a token begins as before, so it stays apart
    exact .token (hs.respelling word cs) ((apart_rename ha f).of_head? (head?_respelledText f cs)) (ih others)

theorem tokenVars_of_writtenAs {d : Document} {ks : List TokenKind}
    (h : d.WrittenAs noComments (withoutComments ks)) : tokenVars ks = d.vars := by
  have names := h.variableNames
  rw [d.variableNames_eq] at names
  exact (List.map_injective_iff.mpr (fun _ _ => String.toList_inj.mp) names).symm

theorem Document.IsTreeOf.respelled {d : Document} {text : List Char} (h : d.IsTreeOf text)
    (words : ∀ name ∈ d.vars, IsWord (f name).toList) : (d.rename f).IsTreeOf (respelledText f text) := by
  refine h.rename fun ks spells written => spells.respelled ?_
  rw [tokenVars_of_writtenAs written]
  exact words

/-! ## The numbers -/

/-- Numbers stay, symbolic names stay symbolic, and different names stay different. -/
structure IsRespelling (f : String → String) (names : List String) : Prop where
  numeric : ∀ x ∈ names, isNumeric x.toList = true → f x = x
  symbolic : ∀ x ∈ names, isNumeric x.toList = false → isNumeric (f x).toList = false
  injective : ∀ x ∈ names, ∀ y ∈ names, f x = f y → x = y

theorem IsRespelling.lookup_assignments {names : List String} (h : IsRespelling f names) {x : String}
    (hx : x ∈ names) : (assignments ((names.map f).map String.toList)).lookup (f x).toList =
      (assignments (names.map String.toList)).lookup x.toList := by
  -- names are texts in the tree and lists of characters in the table
  let g (n : List Char) : List Char := (f (String.ofList n)).toList
  have at_name (y : String) : g y.toList = (f y).toList := by simp [g]
  have chars : (names.map f).map String.toList = (names.map String.toList).map g := by
    simp [g, Function.comp_def]
  have injective : ∀ n ∈ names.map String.toList, ∀ m ∈ names.map String.toList, g n = g m → n = m := by
    intro n hn m hm same
    obtain ⟨y, hy, rfl⟩ := List.mem_map.mp hn
    obtain ⟨z, hz, rfl⟩ := List.mem_map.mp hm
    rw [at_name, at_name, String.toList_inj] at same
    exact congrArg String.toList (h.injective y hy z hz same)
  have table : assignments ((names.map String.toList).map g) =
      (assignments (names.map String.toList)).map (Prod.map g id) := by
    refine assignments_map ?_ ?_ injective
    · refine List.forall_mem_map.mpr fun y hy numeric => ?_
      rw [at_name, h.numeric y hy numeric]
    · refine List.forall_mem_map.mpr fun y hy symbolic => ?_
      rw [at_name]
      exact h.symbolic y hy symbolic
  rw [chars, table, ← at_name]
  refine lookup_map_injective fun e he => ?_
  exact injective e.1 (mem_of_mem_assignments he) x.toList (List.mem_map_of_mem hx)

theorem IsRespelling.nameIn_eq {names : List String} (h : IsRespelling f names) {x : String}
    (hx : x ∈ names) : nameIn (names.map f) (f x) = nameIn names x := by
  unfold nameIn numberedName
  rw [h.lookup_assignments hx]
  by_cases numeric : isNumeric x.toList = true
  · rw [lookup_numeric numeric, h.numeric x hx numeric]
  · obtain ⟨id, assigned⟩ := exists_assignment (List.mem_map_of_mem hx) (by simpa using numeric)
    rw [assigned]

/-- Under other names the variables of a tree are given the same numbers. -/
theorem Document.numbered_rename {d : Document} (h : IsRespelling f d.vars) :
    (d.rename f).numbered = d.numbered := by
  rw [numbered_eq_rename, numbered_eq_rename, vars_rename]
  exact d.rename_rename fun x hx => h.nameIn_eq hx

end PolicyGate.Source
