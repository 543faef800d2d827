import PolicyGate.Keys.Trusted
import PolicyGate.Proofs.Files.Directory
import PolicyGate.Proofs.Text.Numerals
import PolicyGate.Proofs.Text.Runs
import PolicyGate.Proofs.Text.Utf8

/-!
# Files that hold a key

A key of 32 bytes is held by its bytes, or by their hexadecimal digits in any case with blanks around them
(`Keys.Holds`). The content of a file stands for such a key just if it holds it, and no other file passes for
one of a verifying key: `Keys.material_holds`.
-/

namespace PolicyGate

open Text

namespace Keys

variable {content key : Bytes}

/-- The content is a text of the digits of the key in any case, with blanks around them. -/
def HoldsDigits (content key : Bytes) : Prop :=
  ∃ before digits after : List Char, (∀ c ∈ before ++ after, isBlank c = true) ∧
    digits.map Char.toLower = Hex.encode key ∧
    content = toBytes (String.ofList (before ++ digits ++ after))

def Holds (content key : Bytes) : Prop :=
  content = key ∨ HoldsDigits content key

/-! ## Digits of a key -/

section
variable {digits : List Char} (h : digits.map Char.toLower = Hex.encode key)
include h

theorem length_digits : digits.length = 2 * key.length := by
  rw [← Hex.length_encode, ← h, List.length_map]

theorem toNat_digits : ∀ c ∈ digits, 48 ≤ c.toNat ∧ c.toNat ≤ 102 := by
  intro c hc
  have mem : c.toLower ∈ Hex.encode key := h ▸ List.mem_map_of_mem hc
  obtain ⟨n, hn, lower⟩ := Hex.exists_digit_of_mem_encode mem
  rcases Hex.digitValue?_range (Hex.digitValue?_eq_some.mpr ⟨hn, lower⟩) with h | h | h <;> omega

theorem isBlank_digits : ∀ c ∈ digits, isBlank c = false := by
  intro c hc
  obtain ⟨low, high⟩ := toNat_digits h c hc
  exact isBlank_of_toNat low (by omega)

theorem width_digits : width digits = 2 * key.length := by
  rw [← length_digits h]
  refine width_eq_length fun c hc => Char.utf8Size_eq_one_iff.mpr ?_
  have := (toNat_digits h c hc).2
  exact UInt32.le_iff_toNat_le.mpr (Nat.le_trans this (by decide))

end

/-! ## Content that holds a key -/

theorem width_trim_le (cs : List Char) : width (trim cs) ≤ width cs := by
  obtain ⟨before, after, parts, -⟩ := exists_trim cs
  calc width (trim cs) ≤ width (before ++ trim cs ++ after) := by
        rw [width_append, width_append]
        omega
    _ = width cs := by rw [← parts]

theorem material_short (h : content.length < hexLength) : material content = content := by
  unfold material
  split
  · next s read =>
    obtain rfl := ofBytes?_eq_some.mp read
    have short := width_trim_le s.toList
    rw [width_toList] at short
    exact if_neg (by omega)
  · rfl

theorem material_digits (size : key.length = 32) (h : HoldsDigits content key) : material content = key := by
  obtain ⟨before, digits, after, blank, lower, rfl⟩ := h
  obtain ⟨blankBefore, blankAfter⟩ := List.forall_mem_append.mp blank
  have width : width digits = hexLength := by
    rw [width_digits lower, size]
    rfl
  have nonempty : digits ≠ [] := by
    rintro rfl
    cases width
  have core : trim (before ++ digits ++ after) = digits :=
    trim_between nonempty blankBefore (isBlank_digits lower) blankAfter
  simp only [material, ofBytes?_eq_some.mpr rfl, String.toList_ofList, core, if_pos width,
    Hex.decode?_eq_some.mpr lower, Option.getD_some]

theorem material_eq_or (content : Bytes) :
    material content = content ∨ HoldsDigits content (material content) := by
  unfold material
  split
  · next s read =>
    simp only
    split
    · cases value : Hex.decode? (trim s.toList) with
      | none => exact .inl rfl
      | some key =>
        obtain ⟨before, after, parts, blank⟩ := exists_trim s.toList
        refine .inr ⟨before, trim s.toList, after, blank, Hex.decode?_eq_some.mp value, ?_⟩
        rw [← parts, String.ofList_toList]
        exact ofBytes?_eq_some.mp read
    · exact .inl rfl
  · exact .inl rfl

theorem material_eq_iff (size : key.length = 32) : material content = key ↔ Holds content key := by
  constructor
  · rintro rfl
    exact (material_eq_or content).imp Eq.symm id
  · rintro (rfl | digits)
    · exact material_short (by rw [size]; decide)
    · exact material_digits size digits

/-! ## Files of verifying keys -/

/-- The key of the file has the length of a key: it is taken, or refused for what its bytes are. -/
def HasKeyLength (files : Directory) (path : String) : Prop :=
  (∃ key, VerifyingKey.load files path = .ok key) ∨
    VerifyingKey.load files path = .error (.invalidKey path .notAPoint)

theorem hasKeyLength_iff {files : Directory} {path : String} :
    HasKeyLength files path ↔ ∃ content, files.read path = .ok content ∧ (material content).length = 32 := by
  unfold HasKeyLength VerifyingKey.load Directory.keyMaterial
  cases files.read path with
  | error fault => simp
  | ok content =>
    by_cases size : (material content).length = 32
    · cases point : VerifyingKey.ofBytes? (material content) <;> simp [size, point]
    · simp [size]

/-- A file stands for a key of 32 bytes just if it holds the key, and only the files that hold one have the
length of a key. -/
theorem material_holds :
    (∀ content key : Bytes, key.length = 32 → (material content = key ↔ Holds content key)) ∧
      ∀ (files : Directory) (path : String), HasKeyLength files path ↔
        ∃ content key, files.read path = .ok content ∧ key.length = 32 ∧ Holds content key := by
  refine ⟨fun content key => material_eq_iff, fun files path => ?_⟩
  rw [hasKeyLength_iff]
  constructor
  · rintro ⟨content, read, size⟩
    exact ⟨content, _, read, size, (material_eq_iff size).mp rfl⟩
  · rintro ⟨content, key, read, size, holds⟩
    refine ⟨content, read, ?_⟩
    rw [(material_eq_iff size).mpr holds, size]

theorem material_holds_blank :
    let key : Bytes := List.replicate 32 0x0A
    let content := toBytes "\u20030a0A0a0A0a0A0a0A0a0A0a0A0a0A0a0A0a0A0a0A0a0A0a0A0a0A0a0A0a0A0a0A\r\n"
    material key = key ∧ material content = key ∧
      HasKeyLength { files := ⟨[("k", content)], List.pairwise_singleton _ _⟩ } "k" := by
  intro key content
  have blanks : ∀ c ∈ ['\u2003'] ++ ['\r', '\n'], isBlank c = true := List.all_eq_true.mp rfl
  have holds : Holds content key :=
    .inr ⟨['\u2003'], (List.replicate 16 ['0', 'a', '0', 'A']).flatten, ['\r', '\n'], blanks, by decide, rfl⟩
  obtain ⟨stands, passes⟩ := material_holds
  refine ⟨(stands key key rfl).mpr (.inl rfl), (stands content key rfl).mpr holds, (passes _ _).mpr ?_⟩
  have found : Directory.find { files := ⟨[("k", content)], List.pairwise_singleton _ _⟩ } "k" =
      .ok (.file content) := by
    rw [Directory.find_name (by decide) (by decide) (by decide) (by decide)]
    decide +kernel
  exact ⟨content, key, Directory.read_eq_ok_iff.mpr found, rfl, holds⟩

end Keys
end PolicyGate
