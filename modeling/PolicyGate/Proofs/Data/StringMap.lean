import Mathlib.Data.List.Nodup
import PolicyGate.Data.StringMap

/-!
# Maps from strings as lists of entries

What is found at a key (`get?_set`, `get?_refine`, `get?_eq_some`), and maps with given entries: a list
without repeated keys is, up to order, the entries of exactly one map (`exists_entries`, `eq_of_perm`).
-/

namespace PolicyGate.Data.StringMap

variable {β : Type}

theorem lookup_cons (key p : String) (b : β) (rest : List (String × β)) :
    List.lookup key ((p, b) :: rest) = if key = p then some b else List.lookup key rest := by
  rw [List.lookup_cons]
  by_cases h : key = p
  · simp [h]
  · have hb : (key == p) = false := beq_false_of_ne h
    rw [hb, if_neg h]

theorem lookup_eq_none {key : String} {entries : List (String × β)} (h : ∀ e ∈ entries, key < e.1) :
    List.lookup key entries = none := by
  induction entries with
  | nil => rfl
  | cons e rest ih =>
    obtain ⟨he, hrest⟩ := List.forall_mem_cons.mp h
    have hne : key ≠ e.1 := fun heq => String.lt_irrefl key (heq ▸ he)
    rw [lookup_cons, if_neg hne, ih hrest]

theorem lookup_setInto {key : String} {value : Option β → β} {entries : List (String × β)}
    (h : entries.Pairwise (fun a b => a.1 < b.1)) (k : String) :
    List.lookup k (setInto key value entries) =
      if k = key then some (value (List.lookup key entries)) else List.lookup k entries := by
  induction entries with
  | nil => rw [setInto, lookup_cons]; rfl
  | cons e rest ih =>
    obtain ⟨p, b⟩ := e
    obtain ⟨hp, hrest⟩ := List.pairwise_cons.mp h
    unfold setInto
    by_cases hlt : key < p
    · have absent : List.lookup key ((p, b) :: rest) = none := by
        refine lookup_eq_none (List.forall_mem_cons.mpr ⟨hlt, fun e he => ?_⟩)
        exact String.lt_trans hlt (hp e he)
      rw [if_pos hlt, lookup_cons, absent]
    rw [if_neg hlt]
    by_cases hgt : p < key
    · have hne : key ≠ p := fun heq => String.lt_irrefl p (heq ▸ hgt)
      rw [if_pos hgt, lookup_cons, ih hrest, lookup_cons key, if_neg hne, lookup_cons k]
      by_cases hk : k = p
      · have hkk : k ≠ key := fun heq => hne (heq ▸ hk)
        rw [if_pos hk, if_pos hk, if_neg hkk]
      · rw [if_neg hk, if_neg hk]
    · have heq : p = key := String.le_antisymm (String.not_lt.mp hlt) (String.not_lt.mp hgt)
      rw [if_neg hgt, lookup_cons, lookup_cons key, lookup_cons k, if_pos heq.symm, heq]
      by_cases hk : k = key
      · rw [if_pos hk, if_pos hk]
      · rw [if_neg hk, if_neg hk, if_neg hk]

theorem get?_set (m : StringMap β) (key : String) (value : Option β → β) (k : String) :
    (m.set key value).get? k = if k = key then some (value (m.get? key)) else m.get? k :=
  lookup_setInto m.ascending k

/-! ## Entries -/

def keys (es : List (String × β)) : List String :=
  es.map Prod.fst

theorem nodup_keys (m : StringMap β) : (keys m.entries).Nodup := by
  refine List.pairwise_map.mpr (m.ascending.imp fun h e => ?_)
  rw [e] at h
  exact String.lt_irrefl _ h

theorem mem_keys {es : List (String × β)} {k : String} {b : β} (h : (k, b) ∈ es) : k ∈ keys es :=
  List.mem_map.mpr ⟨(k, b), h, rfl⟩

theorem lookup_eq_some {es : List (String × β)} (h : (keys es).Nodup) {k : String} {b : β} :
    es.lookup k = some b ↔ (k, b) ∈ es := by
  induction es with
  | nil => simp
  | cons e es ih =>
    obtain ⟨p, c⟩ := e
    obtain ⟨hp, hes⟩ := List.nodup_cons.mp h
    rw [lookup_cons, List.mem_cons, Prod.mk.injEq]
    by_cases hk : k = p
    · subst hk
      have absent : (k, b) ∉ es := fun hm => hp (mem_keys hm)
      simp [absent, eq_comm]
    · rw [if_neg hk, ih hes]
      simp [hk]

theorem lookup_eq_none_iff {es : List (String × β)} {k : String} :
    es.lookup k = none ↔ k ∉ keys es := by
  induction es with
  | nil => simp [keys]
  | cons e es ih =>
    rw [lookup_cons]
    by_cases hk : k = e.1
    · simp [hk, keys]
    · rw [if_neg hk, ih]
      simp [hk, keys]

theorem get?_eq_some {m : StringMap β} {k : String} {b : β} :
    m.get? k = some b ↔ (k, b) ∈ m.entries :=
  lookup_eq_some m.nodup_keys

theorem get?_eq_none {m : StringMap β} {k : String} : m.get? k = none ↔ k ∉ keys m.entries :=
  lookup_eq_none_iff

theorem get?_refine (m : StringMap β) (change : β → β) (keep : β → Bool) (k : String) :
    (m.refine change keep).get? k = ((m.get? k).map change).filter keep := by
  refine Option.ext fun b => ?_
  have entries : (m.refine change keep).entries =
      (m.entries.map fun e => (e.1, change e.2)).filter fun e => keep e.2 := rfl
  simp only [get?_eq_some, entries, List.mem_filter, List.mem_map, Prod.mk.injEq, Prod.exists,
    Option.filter_eq_some_iff, Option.map_eq_some_iff]
  constructor
  · rintro ⟨⟨_, c, hc, rfl, rfl⟩, hb⟩
    exact ⟨⟨c, hc, rfl⟩, hb⟩
  · rintro ⟨⟨c, hc, rfl⟩, hb⟩
    exact ⟨⟨k, c, hc, rfl, rfl⟩, hb⟩

theorem nodup_of_nodup_keys {es : List (String × β)} (h : (keys es).Nodup) : es.Nodup :=
  h.of_map

theorem Perm.keys {es fs : List (String × β)} (h : es.Perm fs) :
    (StringMap.keys es).Perm (StringMap.keys fs) :=
  h.map Prod.fst

theorem lookup_perm {es fs : List (String × β)} (hn : (keys es).Nodup) (h : es.Perm fs) (k : String) :
    es.lookup k = fs.lookup k := by
  have hn' : (keys fs).Nodup := (Perm.keys h).nodup_iff.mp hn
  refine Option.ext fun b => ?_
  rw [lookup_eq_some hn, lookup_eq_some hn', h.mem_iff]

theorem eq_of_perm {m m' : StringMap β} (h : m.entries.Perm m'.entries) : m = m' := by
  have asymm : ∀ a b : String × β, a ∈ m.entries → b ∈ m'.entries → a.1 < b.1 → b.1 < a.1 → a = b :=
    fun a b _ _ hab hba => absurd (String.lt_trans hab hba) (String.lt_irrefl _)
  have entries : m.entries = m'.entries := h.eq_of_pairwise asymm m.ascending m'.ascending
  cases m
  cases m'
  cases entries
  rfl

theorem set_perm {m : StringMap β} {key : String} {value : Option β → β} (h : m.get? key = none) :
    (m.set key value).entries.Perm (m.entries ++ [(key, value none)]) := by
  have hn : (keys (m.entries ++ [(key, value none)])).Nodup := by
    have absent := get?_eq_none.mp h
    rw [keys, List.map_append]
    refine List.nodup_append.mpr ⟨m.nodup_keys, List.nodup_singleton _, ?_⟩
    rintro k hk l hl rfl
    have hkey : k = key := List.mem_singleton.mp hl
    rw [hkey] at hk
    exact absent hk
  refine (List.perm_ext_iff_of_nodup (nodup_of_nodup_keys (nodup_keys _)) (nodup_of_nodup_keys hn)).mpr ?_
  rintro ⟨k, b⟩
  rw [← get?_eq_some, get?_set, List.mem_append, List.mem_singleton, Prod.mk.injEq, h]
  by_cases hk : k = key
  · subst hk
    have absent : (k, b) ∉ m.entries := fun hm => get?_eq_none.mp h (mem_keys hm)
    simp [absent, eq_comm]
  · rw [if_neg hk, get?_eq_some]
    simp [hk]

theorem exists_entries {es : List (String × β)} (h : (keys es).Nodup) :
    ∃ m : StringMap β, m.entries.Perm es := by
  induction es with
  | nil => exact ⟨.empty, .refl _⟩
  | cons e es ih =>
    obtain ⟨k, b⟩ := e
    obtain ⟨hk, hes⟩ := List.nodup_cons.mp h
    obtain ⟨m, hm⟩ := ih hes
    have absent : m.get? k = none := get?_eq_none.mpr fun hk' => hk ((Perm.keys hm).subset hk')
    refine ⟨m.set k fun _ => b, (set_perm absent).trans ?_⟩
    exact (List.perm_append_singleton _ _).trans (hm.cons _)

end PolicyGate.Data.StringMap
