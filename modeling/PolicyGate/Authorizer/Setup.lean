import PolicyGate.Authorizer.Basic
import PolicyGate.Keys.Trusted
/-! # Setting up an authorizer

An authorizer is built from settings and the keys they name. -/

namespace PolicyGate

open Replay (Freshness)

def AssertionSettings.freshness (s : AssertionSettings) : Except SetupError Freshness :=
  match s.clockSkew.toSpan?, s.validityWindow.toSpan? with
  | none, _ => .error (.invalidSettings .skewOutOfRange)
  | some _, none => .error (.invalidSettings .windowOutOfRange)
  | some clockSkew, some validityWindow => .ok { clockSkew, validityWindow }

/-- How assertions are checked under settings. Keys may ask for assertions where the settings say
nothing about them; then the usual freshness holds. -/
def Settings.assertionCheck (s : Settings) (verifier : AssertionVerifier) :
    Except SetupError AssertionCheck :=
  match s.assertion with
  | none => .ok { verifier }
  | some a =>
    match a.freshness with
    | .error e => .error e
    | .ok freshness => .ok { verifier, freshness }

def Authorizer.ofSettings {κ : Type} (s : Settings) (keys : TrustedKeys κ) :
    Except SetupError (Authorizer κ) :=
  let plain : Authorizer κ := { root := keys.root, unsupportedFields := s.unsupportedFields }
  let a := plain.withMetadataKey s.metadataKey
  match keys.assertion with
  | none => .ok a
  | some verifier =>
    match s.assertionCheck verifier with
    | .error e => .error e
    | .ok check => .ok (a.withAssertions check)

end PolicyGate
