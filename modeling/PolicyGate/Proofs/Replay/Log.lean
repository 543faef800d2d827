import PolicyGate.Proofs.Replay.Purging

/-!
# The store as a log

A store in memory keeps its records by principal. It stands for one list of records in the order of their
insertion, from which a purge removes those made before its cutoff (`NonceStore.Holds`). Each operation
answers alike on both, and so does every run of operations: `answers_log`.
-/

namespace PolicyGate.Replay

open Time (Instant)

/-! ## Operations -/

inductive Operation
  | insert (r : NonceRecord)
  | get (principal : String)
  | purge (cutoff : Instant)
  | size
  | isEmpty
deriving DecidableEq, Repr

inductive Answer
  | done
  | records (rs : List NonceRecord)
  | count (n : Nat)
  | truth (b : Bool)
deriving DecidableEq, Repr

def NonceStore.perform (store : NonceStore) : Operation → NonceStore × Answer
  | .insert r => (store.insert r, .done)
  | .get principal => (store, .records (store.get principal))
  | .purge cutoff => ((store.purge cutoff).1, .count (store.purge cutoff).2)
  | .size => (store, .count store.size)
  | .isEmpty => (store, .truth store.isEmpty)

abbrev NonceLog := List NonceRecord

def NonceLog.perform (log : NonceLog) : Operation → NonceLog × Answer
  | .insert r => (log ++ [r], .done)
  | .get principal => (log, .records (log.filter fun r => r.principal = principal))
  | .purge cutoff =>
    (log.filter fun r => cutoff ≤ r.createdAt, .count (log.countP fun r => r.createdAt < cutoff))
  | .size => (log, .count log.length)
  | .isEmpty => (log, .truth log.isEmpty)

def answers {σ : Type} (perform : σ → Operation → σ × Answer) : σ → List Operation → List Answer
  | _, [] => []
  | state, op :: ops => (perform state op).2 :: answers perform (perform state op).1 ops

/-! ## Stores that hold a log -/

/-- The store gives each principal's records in the order of the log, and holds no others. -/
structure NonceStore.Holds (store : NonceStore) (log : NonceLog) : Prop where
  get_eq : ∀ p, store.get p = log.filter fun r => r.principal = p
  contents : store.contents.Perm log

namespace NonceStore.Holds

variable {store : NonceStore} {log : NonceLog}

theorem empty : NonceStore.empty.Holds [] where
  get_eq _ := rfl
  contents := .refl _

theorem size_eq (h : store.Holds log) : store.size = log.length := by
  rw [NonceStore.size_eq, h.contents.length_eq]

theorem isEmpty_eq (h : store.Holds log) : store.isEmpty = log.isEmpty := by
  rw [NonceStore.isEmpty, h.size_eq]
  cases log <;> rfl

theorem purge_count (h : store.Holds log) (cutoff : Instant) :
    (store.purge cutoff).2 = log.countP fun r => r.createdAt < cutoff := by
  rw [NonceStore.purge_count, h.contents.countP_eq]

theorem insert (h : store.Holds log) (r : NonceRecord) : (store.insert r).Holds (log ++ [r]) where
  get_eq p := by
    rw [get_insert, List.filter_append, h.get_eq p]
    by_cases hp : p = r.principal
    · simp [hp]
    · simp [hp, Ne.symm hp]
  contents := (store.contents_insert r).trans (h.contents.append_right [r])

theorem purge (h : store.Holds log) (cutoff : Instant) :
    (store.purge cutoff).1.Holds (log.filter fun r => cutoff ≤ r.createdAt) where
  get_eq p := by
    -- which records are a principal's and which are recent can be asked in either order
    rw [get_purge, h.get_eq p, List.filter_filter, List.filter_filter]
    simp only [Bool.and_comm]
  contents := by
    rw [contents_purge]
    exact h.contents.filter _

theorem perform (h : store.Holds log) (op : Operation) :
    (store.perform op).2 = (log.perform op).2 ∧ (store.perform op).1.Holds (log.perform op).1 := by
  cases op with
  | insert r => exact ⟨rfl, h.insert r⟩
  | get p => exact ⟨congrArg Answer.records (h.get_eq p), h⟩
  | purge cutoff => exact ⟨congrArg Answer.count (h.purge_count cutoff), h.purge cutoff⟩
  | size => exact ⟨congrArg Answer.count h.size_eq, h⟩
  | isEmpty => exact ⟨congrArg Answer.truth h.isEmpty_eq, h⟩

theorem answers_eq (h : store.Holds log) (ops : List Operation) :
    answers NonceStore.perform store ops = answers NonceLog.perform log ops := by
  induction ops generalizing store log with
  | nil => rfl
  | cons op ops ih =>
    obtain ⟨same, after⟩ := h.perform op
    simp only [answers]
    rw [same, ih after]

end NonceStore.Holds

/-- Every run of operations on a store that was empty at first is answered as by a log. -/
theorem answers_log (ops : List Operation) :
    answers NonceStore.perform .empty ops = answers NonceLog.perform [] ops :=
  NonceStore.Holds.empty.answers_eq ops

example :
    answers NonceStore.perform .empty
      [.insert ⟨"q", [1], ⟨5, 0, by decide⟩⟩, .insert ⟨"p", [2], ⟨9, 0, by decide⟩⟩,
        .insert ⟨"q", [3], ⟨7, 0, by decide⟩⟩, .purge ⟨6, 0, by decide⟩, .purge ⟨1, 0, by decide⟩,
        .get "q", .size, .isEmpty] =
      [.done, .done, .done, .count 1, .count 0, .records [⟨"q", [3], ⟨7, 0, by decide⟩⟩], .count 2,
        .truth false] := by
  rfl

end PolicyGate.Replay
