import PolicyGate.Replay.Store
import PolicyGate.Time.Rfc3339
/-! # The replay check

An assertion is fresh when it was signed at most the clock skew after now and at most the validity
window before now. A fresh assertion is accepted once: its nonce is recorded under the later of now and
the time of signing, so the record outlives every instant at which the assertion is still fresh. -/

namespace PolicyGate.Replay

open Time (Instant Span)

inductive ReplayError
  | fromTheFuture (signedAt : Instant)
  | expired (signedAt : Instant)
  | replayed (principal : String)
  | storeUnavailable (reason : String)
deriving DecidableEq, Repr

def ReplayError.message : ReplayError → String
  | fromTheFuture signedAt =>
    "assertion signed at " ++ signedAt.spacedText ++ " is in the future"
  | expired signedAt =>
    "assertion signed at " ++ signedAt.spacedText ++ " is older than the validity window"
  | replayed principal => "nonce already used by '" ++ principal ++ "'"
  | storeUnavailable reason => "nonce store unavailable: " ++ reason

/-- How far the time of signing may lie from now. -/
structure Freshness where
  clockSkew : Span := .ofSeconds 5
  validityWindow : Span := .ofSeconds 3600
deriving DecidableEq, Repr

namespace Freshness

def horizon (f : Freshness) (now : Instant) : Instant :=
  now.later f.clockSkew

def cutoff (f : Freshness) (now : Instant) : Instant :=
  now.earlier f.validityWindow

/-- Accepts a fresh nonce once, and gives the store with its record. -/
def check {σ : Type} (f : Freshness) (access : StoreAccess σ) (principal : String) (nonce : Bytes)
    (signedAt now : Instant) (store : σ) : Except ReplayError σ :=
  if f.horizon now < signedAt then .error (.fromTheFuture signedAt)
  else if signedAt < f.cutoff now then .error (.expired signedAt)
  else
    match access.get principal store with
    | .error reason => .error (.storeUnavailable reason)
    | .ok records =>
      if records.any fun r => f.cutoff now ≤ r.createdAt && r.nonce == nonce then
        .error (.replayed principal)
      else
        match access.insert ⟨principal, nonce, max now signedAt⟩ store with
        | .error reason => .error (.storeUnavailable reason)
        | .ok store => .ok store

end Freshness
end PolicyGate.Replay
