import PolicyGate.Authorizer.Call
/-! # Calls with handlers

A handler is run on the request of its call, as it arrived, once the call is authorized. Otherwise the
caller gets the status of the denial. -/

namespace PolicyGate

open Replay (StoreAccess)
open Time (Instant)

/-- What arrives with a call: its metadata and its request, which may be a stream. -/
structure Incoming (ρ : Type) where
  metadata : Metadata
  payload : ρ
deriving DecidableEq, Repr

variable {τ κ ε σ ρ β : Type} {m : Type → Type} [Monad m]

/-- Runs a handler behind the authorizer, to which only `known` is known of the request. -/
def Authorizer.intercept (a : Authorizer κ) (scheme : TokenScheme τ κ ε) (access : StoreAccess σ)
    (method : String) (known : Option Message) (request : Incoming ρ)
    (handler : Incoming ρ → m (Except Status β)) (now : Instant) (store : σ) :
    m (Except Status β) × Outcome σ ε :=
  let outcome := a.authorize scheme access request.metadata method known now store
  match outcome.verdict with
  | .error reason => (pure (.error reason.status), outcome)
  | .ok _ => (handler request, outcome)

def Authorizer.interceptUnary (a : Authorizer κ) (scheme : TokenScheme τ κ ε) (access : StoreAccess σ)
    (method : String) (view : ρ → Message) (request : Incoming ρ)
    (handler : Incoming ρ → m (Except Status β)) (now : Instant) (store : σ) :
    m (Except Status β) × Outcome σ ε :=
  a.intercept scheme access method (some (view request.payload)) request handler now store

def Authorizer.interceptStream (a : Authorizer κ) (scheme : TokenScheme τ κ ε) (access : StoreAccess σ)
    (method : String) (request : Incoming ρ) (handler : Incoming ρ → m (Except Status β)) (now : Instant)
    (store : σ) : m (Except Status β) × Outcome σ ε :=
  a.intercept scheme access method none request handler now store

end PolicyGate
