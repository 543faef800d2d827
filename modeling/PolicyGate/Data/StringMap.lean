/-! # Maps from strings

Finite maps from strings to values, held in the ascending order of the keys. -/

namespace PolicyGate.Data

structure StringMap (β : Type) where
  entries : List (String × β)
  ascending : entries.Pairwise (fun a b => a.1 < b.1) := by simp
deriving Repr

namespace StringMap

variable {β : Type}

def empty : StringMap β where
  entries := []

instance : Inhabited (StringMap β) := ⟨empty⟩

def get? (m : StringMap β) (key : String) : Option β :=
  m.entries.lookup key

/-- Puts a value at a key of an ascending list; `value` is given what was there. -/
def setInto (key : String) (value : Option β → β) : List (String × β) → List (String × β)
  | [] => [(key, value none)]
  | (p, b) :: rest =>
    if key < p then (key, value none) :: (p, b) :: rest
    else if p < key then (p, b) :: setInto key value rest
    else (p, value (some b)) :: rest

theorem mem_setInto {key : String} {value : Option β → β} {entries : List (String × β)}
    {x : String × β} (h : x ∈ setInto key value entries) :
    x.1 = key ∨ ∃ y ∈ entries, y.1 = x.1 := by
  induction entries with
  | nil => simp [setInto] at h; simp [h]
  | cons e rest ih =>
    obtain ⟨p, b⟩ := e
    unfold setInto at h
    split at h
    · rcases List.mem_cons.1 h with rfl | h
      · exact .inl rfl
      · exact .inr ⟨x, h, rfl⟩
    split at h
    · rcases List.mem_cons.1 h with rfl | h
      · exact .inr ⟨_, List.mem_cons_self, rfl⟩
      · rcases ih h with h | ⟨y, hy, hyx⟩
        · exact .inl h
        · exact .inr ⟨y, List.mem_cons_of_mem _ hy, hyx⟩
    · rcases List.mem_cons.1 h with rfl | h
      · exact .inr ⟨(p, b), List.mem_cons_self, rfl⟩
      · exact .inr ⟨x, List.mem_cons_of_mem _ h, rfl⟩

theorem pairwise_setInto {key : String} {value : Option β → β} {entries : List (String × β)}
    (h : entries.Pairwise (fun a b => a.1 < b.1)) :
    (setInto key value entries).Pairwise (fun a b => a.1 < b.1) := by
  induction entries with
  | nil => simp [setInto]
  | cons e rest ih =>
    obtain ⟨p, b⟩ := e
    obtain ⟨hp, hrest⟩ := List.pairwise_cons.1 h
    unfold setInto
    split
    · next hlt =>
      refine List.pairwise_cons.2 ⟨?_, h⟩
      intro x hx
      rcases List.mem_cons.1 hx with rfl | hx
      · exact hlt
      · exact String.lt_trans hlt (hp x hx)
    split
    · next hlt =>
      refine List.pairwise_cons.2 ⟨?_, ih hrest⟩
      intro x hx
      rcases mem_setInto hx with hx | ⟨y, hy, hyx⟩
      · exact hx ▸ hlt
      · exact hyx ▸ hp y hy
    · exact List.pairwise_cons.2 ⟨fun x hx => hp x hx, hrest⟩

def set (m : StringMap β) (key : String) (value : Option β → β) : StringMap β where
  entries := setInto key value m.entries
  ascending := pairwise_setInto m.ascending

/-- Changes each value by `change`, and keeps the entries whose new value passes `keep`. -/
def refine (change : β → β) (keep : β → Bool) (m : StringMap β) : StringMap β where
  entries := (m.entries.map fun e => (e.1, change e.2)).filter fun e => keep e.2
  ascending := List.Pairwise.filter _ (List.pairwise_map.2 m.ascending)

end StringMap
end PolicyGate.Data
