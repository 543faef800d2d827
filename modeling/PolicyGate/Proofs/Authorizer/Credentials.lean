import PolicyGate.Proofs.Authorizer.Course
import PolicyGate.Proofs.Text.Base64Url
import PolicyGate.Proofs.Text.Runs

/-!
# Spellings of a credential

A credential is spelled by the base64 text of its bytes, with the filling, a part of it or none, between
blanks, and behind the word `Bearer` or not (`Credential.Spells`). Bytes are handed to the reader of tokens
just when the metadata hold one of their spellings, and then the text without word, blanks and filling is
their encoding: `handsOver_spelled`.
-/

namespace PolicyGate

open Text Base64Url

namespace Credential

/-! ## Values as text -/

def valueText (value : Bytes) : List Char :=
  value.map fun b => Char.ofNat b.toNat

def IsPrintable (c : Char) : Prop :=
  (0x20 ≤ c.toNat ∧ c.toNat ≤ 0x7E) ∨ c.toNat = 0x09

instance (c : Char) : Decidable (IsPrintable c) :=
  inferInstanceAs (Decidable (_ ∨ _))

theorem isPrintableByte_iff (b : UInt8) : isPrintableByte b = true ↔ IsPrintable (Char.ofNat b.toNat) := by
  have number : (Char.ofNat b.toNat).toNat = b.toNat := by
    have := b.toNat_lt
    have valid : b.toNat.isValidChar := .inl (by omega)
    rw [Char.ofNat, dif_pos valid]
    rfl
  unfold isPrintableByte IsPrintable
  rw [number]
  simp [UInt8.le_iff_toNat_le, ← UInt8.toNat_inj]

theorem all_isPrintableByte_iff (value : Bytes) :
    value.all isPrintableByte = true ↔ ∀ c ∈ valueText value, IsPrintable c := by
  rw [List.all_eq_true, valueText, List.forall_mem_map]
  exact forall_congr' fun b => imp_congr_right fun _ => isPrintableByte_iff b

theorem credentialBytes_eq_ok {value b : Bytes} :
    credentialBytes value = .ok b ↔ (∀ c ∈ valueText value, IsPrintable c) ∧
      credentialText (valueText value) ≠ [] ∧ decode? (credentialText (valueText value)) = some b := by
  have text : (value.map fun b => Char.ofNat b.toNat) = valueText value := rfl
  rw [← all_isPrintableByte_iff]
  unfold credentialBytes
  split
  · next printable =>
    rw [text]
    cases credentialText (valueText value) with
    | nil => simp
    | cons c cs => cases h : decode? (c :: cs) <;> simp [printable, h]
  · next hidden => simp [hidden]

/-! ## Spellings -/

/-- The text spells the bytes: their encoding with so much of its filling as there is, between spaces and
tabs, and behind the word `Bearer` or not. -/
def Spells (cs : List Char) (b : Bytes) : Prop :=
  ∃ word ∈ [[], bearerWord], ∃ before after : List Char, (∀ c ∈ before ++ after, c = ' ' ∨ c = '\t') ∧
    ∃ k ≤ room (encode b).length, cs = word ++ (before ++ (encode b ++ List.replicate k '=') ++ after)

theorem digit_visible : ∀ n < 64, IsPrintable (digit n) ∧ isBlank (digit n) = false := by decide

theorem filled_visible (b : Bytes) (k : Nat) :
    ∀ c ∈ encode b ++ List.replicate k '=', IsPrintable c ∧ isBlank c = false := by
  rw [List.forall_mem_append, encode_eq]
  refine ⟨List.forall_mem_map.mpr fun n hn => digit_visible n (sextets_lt b n hn), fun c hc => ?_⟩
  rw [List.eq_of_mem_replicate hc]
  decide

theorem isBlank_of_space {c : Char} (h : c = ' ' ∨ c = '\t') : IsPrintable c ∧ isBlank c = true := by
  rcases h with rfl | rfl <;> decide

theorem space_of_isBlank {c : Char} (printable : IsPrintable c) (blank : isBlank c = true) :
    c = ' ' ∨ c = '\t' := by
  have number : c.toNat = 0x20 ∨ c.toNat = 0x09 := by
    unfold IsPrintable at printable
    unfold isBlank at blank
    simp only [Bool.or_eq_true, Bool.and_eq_true, decide_eq_true_eq, beq_iff_eq] at blank
    omega
  rcases number with h | h
  · exact .inl (Char.ext (UInt32.toNat_inj.mp h))
  · exact .inr (Char.ext (UInt32.toNat_inj.mp h))

theorem encode_ne_nil {b : Bytes} (h : b ≠ []) : encode b ≠ [] := by
  intro none
  have read := decode?_encode b
  rw [none] at read
  exact h (Option.some.inj read).symm

/-- No encoding is mistaken for the word before an encoding: as base64, the word `Bearer` ends with bits that
are not zero. -/
theorem not_bearer {before after : List Char} {b : Bytes} {k : Nat} (few : k ≤ room (encode b).length)
    (blank : ∀ c ∈ before ++ after, isBlank c = true) :
    ¬bearerWord <+: before ++ (encode b ++ List.replicate k '=') ++ after := by
  rintro ⟨rest, same⟩
  cases before with
  | cons c before =>
    have first : 'B' = c := (List.cons.inj same).1
    have := blank c List.mem_cons_self
    rw [← first] at this
    cases this
  | nil =>
    have visible (c : Char) (hc : c ∈ encode b ++ List.replicate k '=') : (!isBlank c) = true := by
      rw [(filled_visible b k c hc).2]
      rfl
    have stop (c : Char) (hc : c ∈ after.head?) : (!isBlank c) = false := by
      rw [blank c (List.mem_of_mem_head? hc)]
      rfl
    have word : (bearerWord ++ rest).takeWhile (fun c => !isBlank c) = "Bearer".toList := rfl
    rw [same, List.nil_append, takeWhile_run visible stop] at word
    have read : decode? (encode b ++ List.replicate k '=') = some b := decode?_eq_some.mpr ⟨k, few, rfl⟩
    rw [word] at read
    cases read

theorem Spells.credentialText {cs : List Char} {b : Bytes} (h : Spells cs b) (nonempty : b ≠ []) :
    PolicyGate.credentialText cs ≠ [] ∧ decode? (PolicyGate.credentialText cs) = some b := by
  obtain ⟨word, hword, before, after, spaces, k, few, rfl⟩ := h
  have blank : ∀ c ∈ before ++ after, isBlank c = true := fun c hc => (isBlank_of_space (spaces c hc)).2
  have core : encode b ++ List.replicate k '=' ≠ [] := by
    simp [encode_ne_nil nonempty]
  have trimmed : trim (before ++ (encode b ++ List.replicate k '=') ++ after) =
      encode b ++ List.replicate k '=' :=
    trim_between core (fun c hc => blank c (List.mem_append_left _ hc))
      (fun c hc => (filled_visible b k c hc).2) fun c hc => blank c (List.mem_append_right _ hc)
  have text : PolicyGate.credentialText (word ++ (before ++ (encode b ++ List.replicate k '=') ++ after)) =
      encode b ++ List.replicate k '=' := by
    unfold PolicyGate.credentialText
    simp only [List.mem_cons, List.not_mem_nil, or_false] at hword
    rcases hword with rfl | rfl
    · rw [List.nil_append, if_neg (mt List.isPrefixOf_iff_prefix.mp (not_bearer few blank)), trimmed]
    · rw [if_pos (List.isPrefixOf_iff_prefix.mpr (List.prefix_append _ _)), List.drop_left, trimmed]
  rw [text]
  exact ⟨core, decode?_eq_some.mpr ⟨k, few, rfl⟩⟩

theorem Spells.printable {cs : List Char} {b : Bytes} (h : Spells cs b) : ∀ c ∈ cs, IsPrintable c := by
  obtain ⟨word, hword, before, after, spaces, k, few, rfl⟩ := h
  have bearer : bearerWord.all (fun c => decide (IsPrintable c)) = true := by decide
  have words : ∀ word ∈ [[], bearerWord], ∀ c ∈ word, IsPrintable c := by simpa using bearer
  have space (c : Char) (hc : c ∈ before ++ after) : IsPrintable c := (isBlank_of_space (spaces c hc)).1
  simp only [List.forall_mem_append] at space ⊢
  refine ⟨words word hword, ⟨space.1, ?_⟩, space.2⟩
  rw [← List.forall_mem_append]
  exact fun c hc => (filled_visible b k c hc).1

theorem spells_of_credentialText {cs : List Char} {b : Bytes} (printable : ∀ c ∈ cs, IsPrintable c)
    (h : decode? (credentialText cs) = some b) : Spells cs b := by
  have split : ∃ word ∈ [[], bearerWord], ∃ rest, cs = word ++ rest ∧ credentialText cs = trim rest := by
    unfold credentialText
    by_cases hp : bearerWord.isPrefixOf cs = true
    · obtain ⟨rest, rfl⟩ := List.isPrefixOf_iff_prefix.mp hp
      refine ⟨bearerWord, by simp, rest, rfl, ?_⟩
      rw [if_pos hp, List.drop_left]
    · exact ⟨[], by simp, cs, rfl, by rw [if_neg hp]⟩
  obtain ⟨word, hword, rest, rfl, text⟩ := split
  obtain ⟨before, after, parts, blank⟩ := exists_trim rest
  obtain ⟨k, few, core⟩ := decode?_eq_some.mp h
  refine ⟨word, hword, before, after, fun c hc => space_of_isBlank (printable c ?_) (blank c hc), k, few, ?_⟩
  · rw [parts]
    simp only [List.mem_append] at hc ⊢
    rcases hc with hc | hc
    · exact .inr (.inl (.inl hc))
    · exact .inr (.inr hc)
  · rw [← core, text, ← parts]

theorem credentialBytes_eq_ok_iff {value b : Bytes} :
    credentialBytes value = .ok b ↔ b ≠ [] ∧ Spells (valueText value) b := by
  rw [credentialBytes_eq_ok]
  constructor
  · rintro ⟨printable, nonempty, read⟩
    refine ⟨?_, spells_of_credentialText printable read⟩
    rintro rfl
    obtain ⟨k, few, core⟩ := decode?_eq_some.mp read
    obtain rfl : k = 0 := Nat.le_zero.mp few
    exact nonempty core
  · rintro ⟨nonempty, spells⟩
    exact ⟨spells.printable, spells.credentialText nonempty⟩

/-! ## The text besides word, blanks and filling -/

def bareText (value : Bytes) : List Char :=
  (credentialText (valueText value)).rdropWhile (· = '=')

theorem rdropWhile_filled (b : Bytes) (k : Nat) :
    (encode b ++ List.replicate k '=').rdropWhile (· = '=') = encode b := by
  have signs (c : Char) (hc : c ∈ List.replicate k '=') : decide (c = '=') = true := by
    rw [List.eq_of_mem_replicate hc]
    rfl
  have stop (c : Char) (hc : c ∈ (encode b).reverse.head?) : decide (c = '=') = false :=
    decide_eq_false (ne_filling_of_mem_encode (List.mem_reverse.mp (List.mem_of_mem_head? hc)))
  rw [List.rdropWhile, List.reverse_append, List.reverse_replicate, dropWhile_run signs stop,
    List.reverse_reverse]

theorem bareText_eq {value b : Bytes} (nonempty : b ≠ []) (h : Spells (valueText value) b) :
    bareText value = encode b := by
  obtain ⟨k, -, core⟩ := decode?_eq_some.mp (h.credentialText nonempty).2
  rw [bareText, core, rdropWhile_filled]

end Credential

/-! ## Bytes handed to the reader of tokens -/

/-- Whatever the tokens and the root key, it is these bytes that are read as the token of a call. -/
def Metadata.HandsOver (metadata : Metadata) (key : String) (b : Bytes) : Prop :=
  ∀ (τ κ ε : Type) (scheme : TokenScheme τ κ ε) (a : Authorizer κ), a.metadataKey = key →
    a.token scheme metadata = (scheme.decode b).mapError fun e => .malformedCredential (.undecodable e)

def byteTokens : TokenScheme Bytes Unit Unit where
  decode bytes := .ok bytes
  publicKey _ := .ok ()
  start _ _ := .ok ()
  addFact _ engine := (.ok (), engine)
  allow engine := (.ok (), engine)
  world _ := ""
  assertion _ := .ok none

theorem Metadata.handsOver_iff {metadata : Metadata} {key : String} {b : Bytes} :
    metadata.HandsOver key b ↔
      ∃ value, metadata.first? key = some value ∧ credentialBytes value = .ok b := by
  constructor
  · intro h
    have read : Authorizer.token { root := (), metadataKey := key } byteTokens metadata = .ok b :=
      h Bytes Unit Unit byteTokens _ rfl
    cases carried : metadata.first? key with
    | none =>
      simp only [Authorizer.token, carried] at read
      cases read
    | some value =>
      simp only [Authorizer.token, carried, TokenScheme.readCredential] at read
      cases spelled : credentialBytes value with
      | error fault =>
        rw [spelled] at read
        cases read
      | ok bytes =>
        rw [spelled] at read
        cases read
        exact ⟨value, rfl, spelled⟩
  · rintro ⟨value, carried, spelled⟩ τ κ ε scheme a rfl
    unfold Authorizer.token
    rw [carried]
    simp only [Authorizer.readCredential_of_spelled spelled]
    cases scheme.decode b <;> rfl

/-- The bytes handed over are those, at least one, that the value under the key spells. Without word, blanks
and filling the value is their encoding, so only values that differ in no more than these spell the same
bytes. -/
theorem handsOver_spelled (key : String) :
    (∀ (metadata : Metadata) (b : Bytes), metadata.HandsOver key b ↔
      ∃ value, metadata.first? key = some value ∧ b ≠ [] ∧ Credential.Spells (Credential.valueText value) b) ∧
    (∀ (value b : Bytes), b ≠ [] → Credential.Spells (Credential.valueText value) b →
      Credential.bareText value = encode b) ∧
    ∀ (value value' b b' : Bytes), b ≠ [] → Credential.Spells (Credential.valueText value) b →
      b' ≠ [] → Credential.Spells (Credential.valueText value') b' →
      (b = b' ↔ Credential.bareText value = Credential.bareText value') := by
  refine ⟨fun metadata b => ?_, fun value b => Credential.bareText_eq, ?_⟩
  · simp only [Metadata.handsOver_iff, Credential.credentialBytes_eq_ok_iff]
  · intro value value' b b' nonempty spells nonempty' spells'
    rw [Credential.bareText_eq nonempty spells, Credential.bareText_eq nonempty' spells', encode_inj]

theorem handsOver_spelled_bearer :
    let value := toBytes "Bearer \tZm8= "
    let bare := toBytes "Zm8"
    Metadata.HandsOver [("authorization", value)] "authorization" [0x66, 0x6F] ∧
      Metadata.HandsOver [("authorization", bare)] "authorization" [0x66, 0x6F] ∧
      Credential.bareText value = encode [0x66, 0x6F] ∧
      Credential.bareText value = Credential.bareText bare := by
  intro value bare
  have spelled : Credential.Spells (Credential.valueText value) [0x66, 0x6F] :=
    ⟨bearerWord, by decide, ['\t'], [' '], by simp, 1, by decide, by decide⟩
  have spelledBare : Credential.Spells (Credential.valueText bare) [0x66, 0x6F] :=
    ⟨[], by decide, [], [], by simp, 0, by decide, by decide⟩
  obtain ⟨handed, encoded, same⟩ := handsOver_spelled "authorization"
  have two : ([0x66, 0x6F] : Bytes) ≠ [] := by decide
  have textKey : Metadata.isTextKey "authorization" = true := by
    rw [Metadata.isTextKey, String.all_bool_eq]
    decide +kernel
  refine ⟨(handed _ _).mpr ⟨value, ?_, two, spelled⟩, (handed _ _).mpr ⟨bare, ?_, two, spelledBare⟩,
    encoded value _ two spelled, (same value bare _ _ two spelled two spelledBare).mp rfl⟩
  · rw [Metadata.first?, if_pos textKey]
    decide +kernel
  · rw [Metadata.first?, if_pos textKey]
    decide +kernel

end PolicyGate
