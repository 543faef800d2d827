import PolicyGate.Assertion.Verify
import PolicyGate.Authorizer.Token
import PolicyGate.Files.Directory
import PolicyGate.Keys.Material
import PolicyGate.Settings.Basic
import PolicyGate.Text.Escaped
/-! # Trusted keys

The keys that settings name are read once, before any call: the root key, and the key of signed
assertions where they are checked. -/

namespace PolicyGate

inductive KeyFault
  | wrongLength (found : Nat)
  | notAPoint
  | refused (e : TokenError)
deriving DecidableEq, Repr

def KeyFault.message : KeyFault → String
  | wrongLength found => "expected 32 bytes, found " ++ toString found
  | notAPoint => "signature error: Cannot decompress Edwards point"
  | refused e => e.message

inductive SetupError
  | invalidSettings (fault : SettingsFault)
  | unreadableKey (path : String) (fault : FileFault)
  | invalidKey (path : String) (fault : KeyFault)
deriving DecidableEq, Repr

def SetupError.unreadableKeyText (path : String) : String :=
  "failed to read key file " ++ Text.Escaped.pathText path

def SetupError.message : SetupError → String
  | invalidSettings fault => "invalid configuration: " ++ fault.message
  | unreadableKey path fault => unreadableKeyText path ++ ": " ++ fault.message
  | invalidKey path fault => "invalid key in " ++ Text.Escaped.pathText path ++ ": " ++ fault.message

def Directory.keyMaterial (files : Directory) (path : String) : Except SetupError Bytes :=
  match files.read path with
  | .ok content => .ok (Keys.material content)
  | .error fault => .error (.unreadableKey path fault)

def VerifyingKey.load (files : Directory) (path : String) : Except SetupError VerifyingKey :=
  match files.keyMaterial path with
  | .error e => .error e
  | .ok bytes =>
    if bytes.length ≠ 32 then .error (.invalidKey path (.wrongLength bytes.length))
    else
      match VerifyingKey.ofBytes? bytes with
      | some key => .ok key
      | none => .error (.invalidKey path .notAPoint)

structure TrustedKeys (κ : Type) where
  root : κ
  assertion : Option AssertionVerifier := none

namespace TrustedKeys

variable {τ κ ε : Type}

def loadRoot (scheme : TokenScheme τ κ ε) (files : Directory) (path : String) :
    Except SetupError κ :=
  match files.keyMaterial path with
  | .error e => .error e
  | .ok bytes =>
    match scheme.publicKey bytes with
    | .error e => .error (.invalidKey path (.refused e))
    | .ok root => .ok root

def loadAssertion (files : Directory) (s : AssertionSettings) :
    Except SetupError AssertionVerifier :=
  match VerifyingKey.load files s.publicKeyPath with
  | .error e => .error e
  | .ok key => .ok ⟨key, s.audience⟩

def load (scheme : TokenScheme τ κ ε) (files : Directory) (s : Settings) :
    Except SetupError (TrustedKeys κ) :=
  match s.fault? with
  | some fault => .error (.invalidSettings fault)
  | none =>
    match loadRoot scheme files s.rootPublicKeyPath with
    | .error e => .error e
    | .ok root =>
      match s.assertion with
      | none => .ok ⟨root, none⟩
      | some a =>
        match loadAssertion files a with
        | .error e => .error e
        | .ok verifier => .ok ⟨root, some verifier⟩

end TrustedKeys
end PolicyGate
