import PolicyGate.Authorizer.Handling
import PolicyGate.Demo.Message
/-! # The demo service

Each handler runs only once its call is authorized. Watching is a stream: of it only the method is known
beforehand. -/

namespace PolicyGate.Demo

open Replay (StoreAccess)
open Time (Instant)

/-- What a handler answers: a response, or a stream of so many responses. -/
inductive Reply
  | done
  | events (count : Nat)
deriving DecidableEq, Repr

def maxWatchEvents : Nat := 100

def Request.handle : Request → Except Status Reply
  | update _ none => .error ⟨.invalidArgument, "Missing entity"⟩
  | watch maxEvents => .ok (.events (max 1 (min maxEvents.toNat maxWatchEvents)))
  | _ => .ok .done

def Request.serve {τ κ ε σ : Type} (r : Request) (a : Authorizer κ) (scheme : TokenScheme τ κ ε)
    (access : StoreAccess σ) (metadata : Metadata) (now : Instant) (store : σ) :
    Except Status Reply × Outcome σ ε :=
  let handler (i : Incoming Request) : Id (Except Status Reply) := i.payload.handle
  match r with
  | watch _ => a.interceptStream scheme access r.method ⟨metadata, r⟩ handler now store
  | r => a.interceptUnary scheme access r.method Request.message ⟨metadata, r⟩ handler now store

end PolicyGate.Demo
