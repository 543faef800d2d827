import PolicyGate.Authorizer.Setup
import PolicyGate.Command.Settings
import PolicyGate.Proofs.Files.Directory

/-!
# Checking settings and starting under them

Settings pass the check of the companion tool just when a service can start under them, up to what each of
both leaves to the other: the check looks for a root key without reading it, and a root key may be read from
an empty file (`Settings.check_agrees`). The authorizer then does what the settings say.
-/

namespace PolicyGate

/-! ## Settings without fault -/

theorem toLower_of_isMetadataKeyChar {c : Char} (h : isMetadataKeyChar c = true) : c.toLower = c := by
  unfold Char.toLower
  split
  · next capital =>
    have bounds : 65 ≤ c.toNat ∧ c.toNat ≤ 90 := ⟨capital.1, capital.2⟩
    simp only [isMetadataKeyChar, Char.isDigit, Bool.or_eq_true, Bool.and_eq_true, decide_eq_true_eq,
      beq_iff_eq] at h
    obtain (((lower | ⟨_, digit⟩) | rfl) | rfl) | rfl := h
    · have above : 97 ≤ c.toNat := (Bool.and_eq_true_iff.mp lower).1 |> of_decide_eq_true
      omega
    · have below : c.toNat ≤ 57 := digit
      omega
    all_goals exact absurd bounds (by decide)
  · rfl

theorem asciiLower_of_isMetadataKey {key : String} (h : isMetadataKey key = true) : asciiLower key = key := by
  have chars : ∀ c ∈ key.toList, c.toLower = c := by
    simp only [isMetadataKey, Bool.and_eq_true, String.all_bool_eq, List.all_eq_true] at h
    exact fun c hc => toLower_of_isMetadataKeyChar (h.2 c hc)
  refine String.toList_injective ?_
  rw [asciiLower, String.toList_map, List.map_congr_left chars, List.map_id']

theorem Time.Period.toSpan?_eq_some {p : Period} (h : p.toSpan? ≠ none) : p.toSpan? = some ⟨p.nanoseconds⟩ := by
  unfold toSpan? at h ⊢
  split at h
  · next short => exact if_pos short
  · exact absurd rfl h

theorem AssertionSettings.freshness_of_fault? {s : AssertionSettings} (h : s.fault? = none) :
    s.freshness = .ok ⟨⟨s.clockSkew.nanoseconds⟩, ⟨s.validityWindow.nanoseconds⟩⟩ := by
  have window : s.validityWindow.toSpan? ≠ none := by grind [fault?]
  have skew : s.clockSkew.toSpan? ≠ none := by grind [fault?]
  rw [freshness, Time.Period.toSpan?_eq_some window, Time.Period.toSpan?_eq_some skew]

theorem Settings.parts_of_fault? {s : Settings} (h : s.fault? = none) :
    isMetadataKey s.metadataKey = true ∧ ∀ a, s.assertion = some a → a.fault? = none := by
  have key : isMetadataKey s.metadataKey = true := by grind [fault?]
  have assertion : s.assertion.bind AssertionSettings.fault? = none := by grind [fault?]
  exact ⟨key, Option.bind_eq_none_iff.mp assertion⟩

/-! ## Files and keys -/

theorem VerifyingKey.exists_load {files : Directory} {path : String} {content : Bytes}
    (read : files.read path = .ok content) (size : (Keys.material content).length = 32)
    (point : (Crypto.Ed25519.Point.decode? (Keys.material content)).isSome = true) :
    ∃ key, VerifyingKey.load files path = .ok key := by
  unfold VerifyingKey.load Directory.keyMaterial VerifyingKey.ofBytes?
  simp [read, size, point]

theorem Settings.check_eq_ok_iff {s : Settings} {files : Directory} :
    s.check files = .ok () ↔ s.fault? = none ∧ (∃ n, files.sizeOf s.rootPublicKeyPath = .ok (n + 1)) ∧
      ∀ a, s.assertion = some a → ∃ key, VerifyingKey.load files a.publicKeyPath = .ok key := by
  unfold check
  cases s.fault? with
  | some fault => simp
  | none =>
    cases files.sizeOf s.rootPublicKeyPath with
    | error fault => simp
    | ok size =>
      cases size with
      | zero => simp
      | succ n =>
        cases s.assertion with
        | none => simp
        | some a => cases key : VerifyingKey.load files a.publicKeyPath <;> simp [key]

namespace TrustedKeys

variable {τ κ ε : Type} {scheme : TokenScheme τ κ ε} {files : Directory}

theorem loadRoot_eq_ok_iff {path : String} {root : κ} : loadRoot scheme files path = .ok root ↔
    ∃ content, files.read path = .ok content ∧ scheme.publicKey (Keys.material content) = .ok root := by
  unfold loadRoot Directory.keyMaterial
  cases files.read path with
  | error fault => simp
  | ok content => cases root : scheme.publicKey (Keys.material content) <;> simp [root]

theorem loadAssertion_eq_ok_iff {a : AssertionSettings} {verifier : AssertionVerifier} :
    loadAssertion files a = .ok verifier ↔
      VerifyingKey.load files a.publicKeyPath = .ok verifier.key ∧ verifier.audience = a.audience := by
  obtain ⟨key, audience⟩ := verifier
  unfold loadAssertion
  cases VerifyingKey.load files a.publicKeyPath with
  | error e => simp
  | ok key => simp [eq_comm]

theorem load_eq_ok_iff {s : Settings} {keys : TrustedKeys κ} : load scheme files s = .ok keys ↔
    s.fault? = none ∧ loadRoot scheme files s.rootPublicKeyPath = .ok keys.root ∧
      Option.Rel (fun a verifier => loadAssertion files a = .ok verifier) s.assertion keys.assertion := by
  obtain ⟨root, assertion⟩ := keys
  unfold load
  cases s.fault? with
  | some fault => simp
  | none =>
    cases loadRoot scheme files s.rootPublicKeyPath with
    | error e => simp
    | ok root =>
      cases s.assertion with
      | none => cases assertion <;> simp
      | some a => cases verifier : loadAssertion files a <;> cases assertion <;> simp [verifier]

theorem exists_load {s : Settings} (valid : s.fault? = none) {root : κ}
    (loadedRoot : loadRoot scheme files s.rootPublicKeyPath = .ok root)
    (named : ∀ a, s.assertion = some a → ∃ key, VerifyingKey.load files a.publicKeyPath = .ok key) :
    ∃ keys, load scheme files s = .ok keys ∧ keys.root = root := by
  cases asks : s.assertion with
  | none =>
    refine ⟨⟨root, none⟩, load_eq_ok_iff.mpr ⟨valid, loadedRoot, ?_⟩, rfl⟩
    exact asks ▸ .none
  | some a =>
    obtain ⟨key, loaded⟩ := named a asks
    let verifier : AssertionVerifier := ⟨key, a.audience⟩
    have loadedAssertion : loadAssertion files a = .ok verifier := loadAssertion_eq_ok_iff.mpr ⟨loaded, rfl⟩
    refine ⟨⟨root, some verifier⟩, load_eq_ok_iff.mpr ⟨valid, loadedRoot, ?_⟩, rfl⟩
    exact asks ▸ .some loadedAssertion

end TrustedKeys

/-! ## Starting -/

/-- Assertions are checked as settings ask, against the key at the path that they name. -/
structure AssertionCheck.Follows (check : AssertionCheck) (files : Directory) (s : AssertionSettings) : Prop where
  key : VerifyingKey.load files s.publicKeyPath = .ok check.verifier.key
  audience : check.verifier.audience = s.audience
  clockSkew : check.freshness.clockSkew.nanoseconds = s.clockSkew.nanoseconds
  validityWindow : check.freshness.validityWindow.nanoseconds = s.validityWindow.nanoseconds

/-- An authorizer does what settings say. It asks for assertions just if the settings do. -/
structure Authorizer.Follows {κ : Type} (a : Authorizer κ) (files : Directory) (s : Settings) : Prop where
  metadataKey : a.metadataKey = s.metadataKey
  unsupportedFields : a.unsupportedFields = s.unsupportedFields
  assertions : Option.Rel (fun check settings => check.Follows files settings) a.assertions s.assertion

theorem Settings.assertionCheck_valid {s : Settings} (h : s.fault? = none) (verifier : AssertionVerifier) :
    ∃ check, s.assertionCheck verifier = .ok check ∧ check.verifier = verifier ∧
      ∀ a, s.assertion = some a → check.freshness.clockSkew.nanoseconds = a.clockSkew.nanoseconds ∧
        check.freshness.validityWindow.nanoseconds = a.validityWindow.nanoseconds := by
  unfold assertionCheck
  cases asks : s.assertion with
  | none => exact ⟨_, rfl, rfl, fun a none => by cases none⟩
  | some a =>
    simp only [AssertionSettings.freshness_of_fault? ((parts_of_fault? h).2 a asks)]
    refine ⟨_, rfl, rfl, fun b same => ?_⟩
    cases same
    exact ⟨rfl, rfl⟩

section

variable {τ κ ε : Type} {scheme : TokenScheme τ κ ε} {files : Directory} {s : Settings}

theorem Authorizer.exists_ofSettings (h : s.fault? = none) (keys : TrustedKeys κ) :
    ∃ a, ofSettings s keys = .ok a := by
  unfold ofSettings
  cases keys.assertion with
  | none => exact ⟨_, rfl⟩
  | some verifier =>
    obtain ⟨check, checks, -⟩ := Settings.assertionCheck_valid h verifier
    simp only [checks]
    exact ⟨_, rfl⟩

theorem Authorizer.follows_of_load {keys : TrustedKeys κ} (h : TrustedKeys.load scheme files s = .ok keys) :
    ∃ a, ofSettings s keys = .ok a ∧ a.root = keys.root ∧ a.Follows files s := by
  obtain ⟨valid, -, named⟩ := TrustedKeys.load_eq_ok_iff.mp h
  have key := asciiLower_of_isMetadataKey (Settings.parts_of_fault? valid).1
  unfold ofSettings
  match asks : s.assertion, holds : keys.assertion, named with
  | none, none, .none => exact ⟨_, rfl, rfl, key, rfl, asks ▸ .none⟩
  | some settings, some verifier, .some loaded =>
    obtain ⟨check, checks, rfl, freshness⟩ := Settings.assertionCheck_valid valid verifier
    obtain ⟨read, audience⟩ := TrustedKeys.loadAssertion_eq_ok_iff.mp loaded
    obtain ⟨skew, window⟩ := freshness settings asks
    simp only [checks]
    exact ⟨_, rfl, rfl, key, rfl, asks ▸ .some ⟨read, audience, skew, window⟩⟩

/-- The check of settings agrees with starting under them. Where it passes and the root key is accepted, the
keys are loaded and the authorizer does what the settings say; and where keys are loaded, the root key not
from an empty file, it passes and nothing else can keep the authorizer from being set up. -/
theorem Settings.check_agrees (scheme : TokenScheme τ κ ε) (files : Directory) (s : Settings) :
    (files.find s.rootPublicKeyPath ≠ .ok .folder → s.check files = .ok () →
      ∃ content, files.read s.rootPublicKeyPath = .ok content ∧
        ∀ root, scheme.publicKey (Keys.material content) = .ok root →
          ∃ keys a, TrustedKeys.load scheme files s = .ok keys ∧ keys.root = root ∧
            Authorizer.ofSettings s keys = .ok a ∧ a.root = root ∧ a.Follows files s) ∧
    ∀ keys content, TrustedKeys.load scheme files s = .ok keys →
      files.read s.rootPublicKeyPath = .ok content → content ≠ [] →
        s.check files = .ok () ∧ ∀ others : TrustedKeys κ, ∃ a, Authorizer.ofSettings s others = .ok a := by
  constructor
  · intro file checked
    obtain ⟨valid, ⟨n, size⟩, named⟩ := check_eq_ok_iff.mp checked
    obtain ⟨content, read⟩ := Directory.exists_read size file
    refine ⟨content, read, fun root accepted => ?_⟩
    have loadedRoot := TrustedKeys.loadRoot_eq_ok_iff.mpr ⟨content, read, accepted⟩
    obtain ⟨keys, loaded, rfl⟩ := TrustedKeys.exists_load valid loadedRoot named
    obtain ⟨a, made, sameRoot, follows⟩ := Authorizer.follows_of_load loaded
    exact ⟨keys, a, loaded, rfl, made, sameRoot, follows⟩
  · intro keys content loaded read nonempty
    obtain ⟨valid, -, named⟩ := TrustedKeys.load_eq_ok_iff.mp loaded
    refine ⟨check_eq_ok_iff.mpr ⟨valid, ?_, fun a asks => ?_⟩, Authorizer.exists_ofSettings valid⟩
    · have positive := List.length_pos_iff.mpr nonempty
      exact ⟨content.length - 1, by rw [Directory.sizeOf_of_read read, Nat.sub_add_cancel positive]⟩
    · match holds : keys.assertion, asks ▸ named with
      | some verifier, .some loadedAssertion =>
        exact ⟨verifier.key, (TrustedKeys.loadAssertion_eq_ok_iff.mp loadedAssertion).1⟩

end

def rawRoots : TokenScheme Unit Bytes Unit where
  decode _ := .ok ()
  publicKey bytes := if bytes = [] then .error (.invalidPublicKey "empty") else .ok bytes
  start _ _ := .ok ()
  addFact _ engine := (.ok (), engine)
  allow engine := (.ok (), engine)
  world _ := ""
  assertion _ := .ok none

theorem Settings.check_agrees_base :
    let digits := Text.toBytes "5866666666666666666666666666666666666666666666666666666666666666\n"
    let files : Directory := { files := ⟨[("k", digits), ("r", [0x2A])], by decide⟩ }
    let s : Settings := { rootPublicKeyPath := "r", metadataKey := "t"
                          assertion := some { publicKeyPath := "k", audience := "a" } }
    s.check files = .ok () ∧ ∃ keys a, TrustedKeys.load rawRoots files s = .ok keys ∧
      Authorizer.ofSettings s keys = .ok a ∧ a.root = [0x2A] ∧ a.Follows files s ∧
      ∀ others : TrustedKeys Bytes, ∃ b, Authorizer.ofSettings s others = .ok b := by
  intro digits files s
  have foundRoot : files.find "r" = .ok (.file [0x2A]) := by
    rw [Directory.find_name (by decide) (by decide) (by decide) (by decide)]
    decide +kernel
  have foundKey : files.find "k" = .ok (.file digits) := by
    rw [Directory.find_name (by decide) (by decide) (by decide) (by decide)]
    decide +kernel
  have readRoot := Directory.read_eq_ok_iff.mpr foundRoot
  have key : ∃ key, VerifyingKey.load files "k" = .ok key :=
    VerifyingKey.exists_load (Directory.read_eq_ok_iff.mpr foundKey) (by decide +kernel) (by decide +kernel)
  have word : isMetadataKey "t" = true := by
    rw [isMetadataKey, String.all_bool_eq]
    decide +kernel
  have sound : s.fault? = none := by
    rw [fault?, word]
    decide +kernel
  have checked : s.check files = .ok () := by
    refine check_eq_ok_iff.mpr ⟨sound, ⟨0, Directory.sizeOf_of_read readRoot⟩, ?_⟩
    rintro _ ⟨⟩
    exact key
  obtain ⟨passed, started⟩ := check_agrees rawRoots files s
  obtain ⟨content, read, accepted⟩ := passed (by rw [foundRoot]; simp) checked
  obtain rfl : [0x2A] = content := Except.ok.inj (readRoot.symm.trans read)
  have material : Keys.material [0x2A] = [0x2A] := by decide +kernel
  obtain ⟨keys, a, loaded, -, made, root, follows⟩ := accepted [0x2A] (by rw [material]; rfl)
  obtain ⟨again, others⟩ := started keys [0x2A] loaded readRoot (by decide)
  exact ⟨again, keys, a, loaded, made, root, follows, others⟩

end PolicyGate
