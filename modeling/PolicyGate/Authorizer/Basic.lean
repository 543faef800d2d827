import PolicyGate.Assertion.Verify
import PolicyGate.Authorizer.Credential
import PolicyGate.Message.Flatten
import PolicyGate.Replay.Check
import PolicyGate.Settings.Basic
/-! # Authorizers

An authorizer knows the root key, where calls carry their credential, and how assertions are checked. A
denied call tells its reason to the log; the caller learns no more than that it is not authorized. -/

namespace PolicyGate

open Replay (Freshness ReplayError)

/-- How assertions are checked: against a key and an audience, and for freshness. -/
structure AssertionCheck where
  verifier : AssertionVerifier
  freshness : Freshness := {}
deriving DecidableEq, Repr

structure Authorizer (κ : Type) where
  root : κ
  metadataKey : String := Settings.defaultMetadataKey
  unsupportedFields : UnsupportedFields := .reject
  assertions : Option AssertionCheck := none

def Authorizer.withMetadataKey {κ : Type} (a : Authorizer κ) (key : String) : Authorizer κ :=
  { a with metadataKey := asciiLower key }

def Authorizer.withAssertions {κ : Type} (a : Authorizer κ) (check : AssertionCheck) : Authorizer κ :=
  { a with assertions := some check }

inductive AssertionFault
  | unreadable (e : EngineError)
  | absent
  | rejected (e : AssertionError)
deriving DecidableEq, Repr

def AssertionFault.message : AssertionFault → String
  | unreadable e => e.message
  | absent => "token carries no signed assertion"
  | rejected e => e.message

inductive Denial
  | missingCredential (key : String)
  | malformedCredential (fault : CredentialFault)
  | untrustedCredential (e : TokenError)
  | notAuthorized (e : EngineError)
  | replayedNonce (e : ReplayError)
  | invalidAssertion (fault : AssertionFault)
  | underivable (e : FlattenError)
deriving DecidableEq, Repr

namespace Denial

def kind : Denial → String
  | missingCredential _ => "missing_credential"
  | malformedCredential _ => "malformed_credential"
  | untrustedCredential _ => "untrusted_credential"
  | notAuthorized _ => "not_authorized"
  | replayedNonce _ => "replayed_nonce"
  | invalidAssertion _ => "invalid_signed_assertion"
  | underivable _ => "fact_derivation"

def message (d : Denial) (reasons : Reasons := {}) : String :=
  match d with
  | missingCredential key => "no credential under metadata key '" ++ key ++ "'"
  | malformedCredential fault => "malformed credential: " ++ fault.message reasons
  | untrustedCredential e => "credential not signed by a trusted root: " ++ e.message
  | notAuthorized e => "request denied by policy: " ++ e.message
  | replayedNonce e => "signed assertion rejected by anti-replay check: " ++ e.message
  | invalidAssertion fault => "invalid signed assertion: " ++ fault.message
  | underivable e => "failed to derive request facts: " ++ e.message

end Denial

inductive StatusCode
  | permissionDenied
  | internal
  | invalidArgument
deriving DecidableEq, Repr

structure Status where
  code : StatusCode
  message : String
deriving DecidableEq, Repr

def Status.notAuthorized : Status where
  code := .permissionDenied
  message := "not authorized"

/-- What the caller sees of a denial. A request without facts is the service's own failure; all others
look alike. -/
def Denial.status : Denial → Status
  | underivable _ => ⟨.internal, "failed to process request"⟩
  | _ => .notAuthorized

inductive CallEvent
  | dropped (warning : DropWarning)
  | underivable (method : String) (e : FlattenError)
  | storeFailed (reason : String)
  | denied (method : String) (reason : Denial) (world : Option String)
deriving DecidableEq, Repr

/-- An allowed call, with the principal that its assertion vouches for. -/
structure Authorized where
  principal : Option String
deriving DecidableEq, Repr

/-- What a call leads to: its verdict, its log, the store after it, and the last state of its engine. -/
structure Outcome (σ ε : Type) where
  verdict : Except Denial Authorized
  log : List CallEvent
  store : σ
  engine : Option ε

end PolicyGate
