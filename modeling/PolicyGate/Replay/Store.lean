import PolicyGate.Data.StringMap
import PolicyGate.Text.Bytes
import PolicyGate.Time.Instant
/-! # Used nonces

Each accepted assertion leaves a record of its nonce. A store gives the records of a principal in the
order of their insertion. -/

namespace PolicyGate.Replay

open Time (Instant)
open Data (StringMap)

structure NonceRecord where
  principal : String
  nonce : Bytes
  createdAt : Instant
deriving DecidableEq, Repr

/-- What the replay check needs of a store with states `σ`. Both operations may fail with a reason. -/
structure StoreAccess (σ : Type) where
  get : String → σ → Except String (List NonceRecord)
  insert : NonceRecord → σ → Except String σ

/-- A store in memory: the records of each principal that has any. -/
structure NonceStore where
  records : StringMap (List NonceRecord) := .empty

namespace NonceStore

def empty : NonceStore := {}

instance : Inhabited NonceStore := ⟨empty⟩

def get (store : NonceStore) (principal : String) : List NonceRecord :=
  (store.records.get? principal).getD []

def insert (store : NonceStore) (r : NonceRecord) : NonceStore where
  records := store.records.set r.principal fun rs => rs.getD [] ++ [r]

def size (store : NonceStore) : Nat :=
  store.records.entries.foldl (fun n (_, rs) => n + rs.length) 0

def isEmpty (store : NonceStore) : Bool :=
  store.size == 0

/-- Forgets the records made before an instant, and principals without records. Also gives the number
of records forgotten, counted principal by principal. -/
def purge (store : NonceStore) (cutoff : Instant) : NonceStore × Nat :=
  let current (rs : List NonceRecord) := rs.filter fun r => cutoff ≤ r.createdAt
  let removed := store.records.entries.foldl (fun n (_, rs) => n + (rs.length - (current rs).length)) 0
  ({ records := store.records.refine current fun rs => !rs.isEmpty }, removed)

def access : StoreAccess NonceStore where
  get principal store := .ok (store.get principal)
  insert r store := .ok (store.insert r)

end NonceStore
end PolicyGate.Replay
