import PolicyGate.Proofs.Message.Leaves
import PolicyGate.Proofs.Message.Walk

/-!
# Columns

Reading one path of `columns` gives the atoms of the elements that have it (`get?_columns`). The columns
are complete just when the elements are aligned (`columns_complete_iff`), and then they are those of
`columnsOf` (`columns_perm`).
-/

namespace PolicyGate.Message

open Data (StringMap)

def atomsAt (path : String) (es : List (String × Atom)) : List Atom :=
  (es.filter fun e => e.1 = path).map Prod.snd

theorem atomsAt_cons (path : String) (e : String × Atom) (es : List (String × Atom)) :
    atomsAt path (e :: es) = if path = e.1 then e.2 :: atomsAt path es else atomsAt path es := by
  unfold atomsAt
  by_cases hk : path = e.1
  · rw [if_pos hk, List.filter_cons_of_pos (by simp [hk]), List.map_cons]
  · rw [if_neg hk, List.filter_cons_of_neg (by simpa using fun h => hk h.symm)]

theorem atomsAt_of_nodup {es : List (String × Atom)} (h : (paths es).Nodup) (path : String) :
    atomsAt path es = (es.lookup path).toList := by
  induction es with
  | nil => rfl
  | cons e es ih =>
    obtain ⟨p, a⟩ := e
    obtain ⟨hp, hes⟩ := List.nodup_cons.mp h
    rw [StringMap.lookup_cons, atomsAt_cons, ih hes]
    by_cases hk : path = p
    · subst hk
      rw [if_pos rfl, if_pos rfl, StringMap.lookup_eq_none_iff.mpr hp]
      rfl
    · rw [if_neg hk, if_neg hk]

theorem atomsAt_flatMap (path : String) (elements : List FactSet) :
    atomsAt path (elements.flatMap StringMap.entries) = elements.filterMap (StringMap.get? · path) := by
  induction elements with
  | nil => rfl
  | cons m elements ih =>
    have first : atomsAt path m.entries = (m.get? path).toList := atomsAt_of_nodup m.nodup_keys path
    have both : atomsAt path (m.entries ++ elements.flatMap StringMap.entries) =
        atomsAt path m.entries ++ atomsAt path (elements.flatMap StringMap.entries) := by
      rw [atomsAt, List.filter_append, List.map_append]
      rfl
    rw [List.flatMap_cons, both, first, ih, List.filterMap_cons]
    cases m.get? path with
    | none => rfl
    | some a => rfl

/-! ## Gathering -/

def gather (m : StringMap (List Atom)) (e : String × Atom) : StringMap (List Atom) :=
  m.set e.1 fun atoms => atoms.getD [] ++ [e.2]

-- `columns` looks at the dropped paths at each step, and here there are none.
theorem columns_eq (elements : List FactSet) :
    columns [] elements = (elements.flatMap StringMap.entries).foldl gather .empty :=
  rfl

theorem getD_foldl_gather (es : List (String × Atom)) (m : StringMap (List Atom)) (path : String) :
    ((es.foldl gather m).get? path).getD [] = (m.get? path).getD [] ++ atomsAt path es := by
  induction es generalizing m with
  | nil => simp [atomsAt]
  | cons e es ih =>
    rw [List.foldl_cons, ih, gather, StringMap.get?_set, atomsAt_cons]
    by_cases hk : path = e.1
    · simp [hk]
    · rw [if_neg hk, if_neg hk]

theorem foldl_gather_eq_none (es : List (String × Atom)) (m : StringMap (List Atom)) (path : String) :
    (es.foldl gather m).get? path = none ↔ m.get? path = none ∧ path ∉ paths es := by
  induction es generalizing m with
  | nil => simp [StringMap.keys]
  | cons e es ih =>
    rw [List.foldl_cons, ih, gather, StringMap.get?_set]
    by_cases hk : path = e.1
    · simp [hk, StringMap.keys]
    · rw [if_neg hk]
      simp [hk, StringMap.keys]

abbrev Hold (elements : List FactSet) (leaves : List (List (String × Atom))) : Prop :=
  List.Forall₂ (fun facts es => facts.entries.Perm es) elements leaves

theorem Hold.filterMap {elements : List FactSet} {leaves : List (List (String × Atom))}
    (h : Hold elements leaves) (path : String) :
    (elements.filterMap fun m => m.get? path) = leaves.filterMap (List.lookup path) := by
  induction h with
  | nil => rfl
  | @cons m es elements leaves first _ ih =>
    have same : m.get? path = es.lookup path := StringMap.lookup_perm m.nodup_keys first path
    rw [List.filterMap_cons, List.filterMap_cons, same, ih]

theorem Hold.nodup {elements : List FactSet} {leaves : List (List (String × Atom))}
    (h : Hold elements leaves) : ∀ es ∈ leaves, (paths es).Nodup := by
  induction h with
  | nil => simp
  | @cons m es elements leaves first _ ih =>
    exact List.forall_mem_cons.mpr ⟨(StringMap.Perm.keys first).nodup_iff.mp m.nodup_keys, ih⟩

theorem Hold.mem_paths {elements : List FactSet} {leaves : List (List (String × Atom))}
    (h : Hold elements leaves) (path : String) :
    path ∈ paths (elements.flatMap StringMap.entries) ↔ ∃ es ∈ leaves, path ∈ paths es := by
  induction h with
  | nil => simp [StringMap.keys]
  | @cons m es elements leaves first _ ih =>
    have both : path ∈ paths (m.entries ++ elements.flatMap StringMap.entries) ↔
        path ∈ paths m.entries ∨ path ∈ paths (elements.flatMap StringMap.entries) := by
      rw [paths, StringMap.keys, List.map_append, List.mem_append]
      rfl
    rw [List.flatMap_cons, both, ih, (StringMap.Perm.keys first).mem_iff]
    simp

theorem get?_columns {elements : List FactSet} {leaves : List (List (String × Atom))}
    (h : Hold elements leaves) {path : String} {atoms : List Atom} :
    (columns [] elements).get? path = some atoms ↔
      (∃ es ∈ leaves, path ∈ paths es) ∧ atoms = leaves.filterMap (List.lookup path) := by
  have values := getD_foldl_gather (elements.flatMap StringMap.entries) .empty path
  have absent := foldl_gather_eq_none (elements.flatMap StringMap.entries) .empty path
  rw [← columns_eq] at values absent
  rw [atomsAt_flatMap, h.filterMap] at values
  rw [h.mem_paths] at absent
  cases hc : (columns [] elements).get? path with
  | none =>
    have missing := (absent.mp hc).2
    simp [missing]
  | some found =>
    have present : ∃ es ∈ leaves, path ∈ paths es := by
      by_contra missing
      rw [absent.mpr ⟨rfl, missing⟩] at hc
      cases hc
    rw [hc] at values
    have same : found = leaves.filterMap (List.lookup path) := values
    rw [same, Option.some.injEq, eq_comm]
    exact ⟨fun h => ⟨present, h⟩, fun h => h.2⟩

/-! ## Complete columns -/

variable {elements : List FactSet} {leaves : List (List (String × Atom))}

theorem length_column_iff (path : String) :
    (leaves.filterMap (List.lookup path)).length = leaves.length ↔ ∀ es ∈ leaves, path ∈ paths es := by
  rw [List.filterMap_length_eq_length]
  refine forall₂_congr fun es _ => ?_
  rw [← not_iff_not, ← StringMap.lookup_eq_none_iff, Option.not_isSome_iff_eq_none]

theorem columns_complete_iff (h : Hold elements leaves) :
    (∀ column ∈ (columns [] elements).entries, column.2.length = leaves.length) ↔ Aligned leaves := by
  constructor
  · intro complete
    refine ⟨h.nodup, fun es hes fs hfs path hp => ?_⟩
    have column := (get?_columns h).mpr ⟨⟨es, hes, hp⟩, rfl⟩
    have length := complete _ (StringMap.get?_eq_some.mp column)
    exact (length_column_iff path).mp length fs hfs
  · rintro aligned ⟨path, atoms⟩ hc
    obtain ⟨⟨es, hes, hp⟩, rfl⟩ := (get?_columns h).mp (StringMap.get?_eq_some.mpr hc)
    exact (length_column_iff path).mpr fun fs hfs => aligned.same es hes fs hfs hp

theorem nodup_columnsOf (aligned : Aligned leaves) : (paths (columnsOf leaves)).Nodup := by
  cases leaves with
  | nil => exact List.nodup_nil
  | cons first rest =>
    have same : paths (columnsOf (first :: rest)) = paths first := by
      rw [columnsOf, paths, StringMap.keys, List.map_map]
      exact List.map_id _
    rw [same]
    exact aligned.distinct first List.mem_cons_self

theorem mem_columnsOf (aligned : Aligned leaves) {path : String} {atom : Atom} :
    (path, atom) ∈ columnsOf leaves ↔
      (∃ es ∈ leaves, path ∈ paths es) ∧ atom = .list (leaves.filterMap (List.lookup path)) := by
  cases leaves with
  | nil => simp [columnsOf]
  | cons first rest =>
    rw [columnsOf, List.mem_map]
    constructor
    · rintro ⟨p, hp, h⟩
      cases h
      exact ⟨⟨first, List.mem_cons_self, hp⟩, rfl⟩
    · rintro ⟨⟨es, hes, hp⟩, rfl⟩
      exact ⟨path, aligned.same es hes first List.mem_cons_self hp, rfl⟩

theorem columns_perm (h : Hold elements leaves) (aligned : Aligned leaves) :
    ((columns [] elements).entries.map fun column => (column.1, Atom.list column.2)).Perm
      (columnsOf leaves) := by
  have keys : paths ((columns [] elements).entries.map fun column => (column.1, Atom.list column.2)) =
      StringMap.keys (columns [] elements).entries := by
    rw [paths, StringMap.keys, List.map_map]
    rfl
  have nodup := StringMap.nodup_of_nodup_keys (keys ▸ StringMap.nodup_keys _)
  have nodup' := StringMap.nodup_of_nodup_keys (nodup_columnsOf aligned)
  refine (List.perm_ext_iff_of_nodup nodup nodup').mpr ?_
  rintro ⟨path, atom⟩
  rw [mem_columnsOf aligned, List.mem_map]
  constructor
  · rintro ⟨⟨p, atoms⟩, hc, e⟩
    cases e
    obtain ⟨present, rfl⟩ := (get?_columns h).mp (StringMap.get?_eq_some.mpr hc)
    exact ⟨present, rfl⟩
  · rintro ⟨present, rfl⟩
    have column := (get?_columns h).mpr ⟨present, rfl⟩
    exact ⟨_, StringMap.get?_eq_some.mp column, rfl⟩

theorem exists_hold (h : ∀ es ∈ leaves, (paths es).Nodup) : ∃ elements, Hold elements leaves := by
  induction leaves with
  | nil => exact ⟨[], .nil⟩
  | cons es leaves ih =>
    obtain ⟨hes, hleaves⟩ := List.forall_mem_cons.mp h
    obtain ⟨m, hm⟩ := StringMap.exists_entries hes
    obtain ⟨elements, rest⟩ := ih hleaves
    exact ⟨m :: elements, .cons hm rest⟩

end PolicyGate.Message
