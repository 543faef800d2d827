import PolicyGate.Text.Bytes

/-!
# Widths and the UTF-8 form

The width of a text is the number of bytes of its UTF-8 form (`width_toList`). Bytes are read as a text just
if they are its form (`ofBytes?_eq_some`).
-/

namespace PolicyGate.Text

/-! ## Widths -/

theorem foldl_utf8Size (n : Nat) (cs : List Char) :
    cs.foldl (fun n c => n + c.utf8Size) n = n + width cs := by
  unfold width
  induction cs generalizing n with
  | nil => rfl
  | cons c cs ih =>
    rw [List.foldl_cons, List.foldl_cons, ih, ih (0 + _)]
    omega

theorem width_cons (c : Char) (cs : List Char) : width (c :: cs) = c.utf8Size + width cs := by
  have := foldl_utf8Size c.utf8Size cs
  rw [← this]
  simp [width]

theorem width_append (cs ds : List Char) : width (cs ++ ds) = width cs + width ds := by
  induction cs with
  | nil => exact (Nat.zero_add _).symm
  | cons c cs ih => rw [List.cons_append, width_cons, width_cons, ih, Nat.add_assoc]

theorem width_pos {cs : List Char} (h : cs ≠ []) : 0 < width cs := by
  obtain ⟨c, cs, rfl⟩ := List.exists_cons_of_ne_nil h
  rw [width_cons]
  have := c.utf8Size_pos
  omega

theorem width_eq_length {cs : List Char} (h : ∀ c ∈ cs, c.utf8Size = 1) : width cs = cs.length := by
  induction cs with
  | nil => rfl
  | cons c cs ih =>
    obtain ⟨one, ones⟩ := List.forall_mem_cons.mp h
    rw [width_cons, one, ih ones, List.length_cons, Nat.add_comm]

/-! ## Bytes -/

theorem width_ofList (cs : List Char) : width cs = (String.ofList cs).utf8ByteSize := by
  induction cs with
  | nil => rfl
  | cons c cs ih =>
    rw [width_cons, ih, String.ofList_cons, String.utf8ByteSize_append, String.utf8ByteSize_singleton]

theorem width_toList (s : String) : width s.toList = (toBytes s).length := by
  rw [width_ofList, String.ofList_toList]
  rfl

theorem toBytes_append (s t : String) : toBytes (s ++ t) = toBytes s ++ toBytes t := by
  simp [toBytes]

theorem getElem?_toBytes_part {before part after : List Char} {k : Nat} (h : k < width part) :
    (toBytes (String.ofList (before ++ part ++ after)))[width before + k]? =
      (toBytes (String.ofList part))[k]? := by
  have length (cs : List Char) : (toBytes (String.ofList cs)).length = width cs := by
    rw [← width_toList, String.toList_ofList]
  rw [String.ofList_append, String.ofList_append, toBytes_append, toBytes_append, List.append_assoc,
    List.getElem?_append_right (by rw [length]; omega), length, Nat.add_sub_cancel_left,
    List.getElem?_append_left (by rw [length]; exact h)]

theorem ofBytes?_eq_some {bs : Bytes} {s : String} : ofBytes? bs = some s ↔ bs = toBytes s := by
  unfold ofBytes? String.fromUTF8?
  constructor
  · intro h
    split at h
    · cases h
      rfl
    · cases h
  · rintro rfl
    exact dif_pos s.isValidUTF8

end PolicyGate.Text
