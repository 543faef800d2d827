import Mathlib.Data.List.Induction
import PolicyGate.Proofs.Data.StringMap
import PolicyGate.Proofs.Time.Order
import PolicyGate.Replay.Check

/-!
# The history of a replay check

A run of checks over a store in memory that was empty at first. The store holds just the records of the
checks that succeeded (`mem_get_storeAfter`), and the record of an accepted assertion lies within every
window in which the assertion is fresh, so it is accepted once: `accepts_iff_and_once`.
-/

namespace PolicyGate.Replay

open Time (Instant)

/-! ## The store in memory -/

theorem NonceStore.get_insert (store : NonceStore) (r : NonceRecord) (p : String) :
    (store.insert r).get p = if p = r.principal then store.get p ++ [r] else store.get p := by
  unfold NonceStore.get NonceStore.insert
  rw [Data.StringMap.get?_set]
  by_cases hp : p = r.principal
  · rw [if_pos hp, if_pos hp, hp]
    rfl
  · rw [if_neg hp, if_neg hp]

theorem NonceStore.mem_get_insert {store : NonceStore} {r r' : NonceRecord} {p : String} :
    r ∈ (store.insert r').get p ↔ r ∈ store.get p ∨ (r'.principal = p ∧ r = r') := by
  rw [get_insert]
  by_cases hp : p = r'.principal
  · simp [hp]
  · simp [hp, Ne.symm hp]

/-- All records, principal by principal. -/
def NonceStore.contents (store : NonceStore) : List NonceRecord :=
  store.records.entries.flatMap Prod.snd

theorem NonceStore.size_eq (store : NonceStore) : store.size = store.contents.length := by
  calc store.size = (store.records.entries.map fun e => e.2.length).sum := by
        rw [List.sum_eq_foldl, List.foldl_map]
        rfl
    _ = store.contents.length := List.length_flatMap.symm

theorem flatMap_setInto (key : String) (r : NonceRecord) (es : List (String × List NonceRecord)) :
    ((Data.StringMap.setInto key (fun rs => rs.getD [] ++ [r]) es).flatMap Prod.snd).Perm
      (es.flatMap Prod.snd ++ [r]) := by
  induction es with
  | nil => exact .refl _
  | cons e es ih =>
    obtain ⟨p, rs⟩ := e
    unfold Data.StringMap.setInto
    split
    · exact (List.perm_append_singleton r _).symm
    split
    · rw [List.flatMap_cons, List.flatMap_cons, List.append_assoc]
      exact ih.append_left rs
    · rw [List.flatMap_cons, List.flatMap_cons, Option.getD_some, List.append_assoc, List.append_assoc]
      exact List.perm_append_comm.append_left rs

/-- A new record stands behind those of its principal, and so perhaps before others. -/
theorem NonceStore.contents_insert (store : NonceStore) (r : NonceRecord) :
    (store.insert r).contents.Perm (store.contents ++ [r]) :=
  flatMap_setInto r.principal r store.records.entries

theorem NonceStore.size_insert (store : NonceStore) (r : NonceRecord) :
    (store.insert r).size = store.size + 1 := by
  rw [size_eq, size_eq, (store.contents_insert r).length_eq, List.length_append, List.length_singleton]

/-! ## One check -/

structure Attempt where
  principal : String
  nonce : Bytes
  signedAt : Instant
  now : Instant
deriving DecidableEq, Repr

def Attempt.record (a : Attempt) : NonceRecord :=
  ⟨a.principal, a.nonce, max a.now a.signedAt⟩

namespace Freshness

variable (f : Freshness)

def attempt (store : NonceStore) (a : Attempt) : Except ReplayError NonceStore :=
  f.check NonceStore.access a.principal a.nonce a.signedAt a.now store

def IsFresh (a : Attempt) : Prop :=
  a.signedAt ≤ a.now.later f.clockSkew ∧ a.now.earlier f.validityWindow ≤ a.signedAt

/-- The record is of the same nonce and lies within the window. -/
def Blocks (a : Attempt) (r : NonceRecord) : Prop :=
  r.nonce = a.nonce ∧ a.now.earlier f.validityWindow ≤ r.createdAt

def blocked (store : NonceStore) (a : Attempt) : Bool :=
  (store.get a.principal).any fun r => f.cutoff a.now ≤ r.createdAt && r.nonce == a.nonce

theorem blocked_iff {store : NonceStore} {a : Attempt} :
    f.blocked store a = true ↔ ∃ r ∈ store.get a.principal, f.Blocks a r := by
  simp only [blocked, List.any_eq_true, Bool.and_eq_true, beq_iff_eq]
  refine exists_congr fun r => and_congr_right fun _ => ?_
  exact ⟨fun h => ⟨h.2, of_decide_eq_true h.1⟩, fun h => ⟨decide_eq_true h.2, h.1⟩⟩

/-- A check looks at the store only for a record that blocks it, and adds one or leaves the store alone. -/
theorem attempt_eq (store : NonceStore) (a : Attempt) :
    f.attempt store a =
      if f.horizon a.now < a.signedAt then .error (.fromTheFuture a.signedAt)
      else if a.signedAt < f.cutoff a.now then .error (.expired a.signedAt)
      else if f.blocked store a then .error (.replayed a.principal)
      else .ok (store.insert a.record) := rfl

theorem attempt_ok {store store' : NonceStore} {a : Attempt} :
    f.attempt store a = .ok store' ↔
      f.IsFresh a ∧ (∀ r ∈ store.get a.principal, ¬ f.Blocks a r) ∧ store' = store.insert a.record := by
  rw [attempt_eq]
  split
  · next future =>
    constructor
    · intro h; cases h
    · rintro ⟨⟨h, _⟩, _⟩
      exact absurd future (not_lt.mpr h)
  next early =>
  split
  · next old =>
    constructor
    · intro h; cases h
    · rintro ⟨⟨_, h⟩, _⟩
      exact absurd old (not_lt.mpr h)
  next recent =>
  split
  · next blocked =>
    constructor
    · intro h; cases h
    · rintro ⟨_, free, _⟩
      obtain ⟨r, hr, blocks⟩ := f.blocked_iff.mp blocked
      exact absurd blocks (free r hr)
  · next free =>
    constructor
    · intro h
      cases h
      exact ⟨⟨not_lt.mp early, not_lt.mp recent⟩, fun r hr hb => free (f.blocked_iff.mpr ⟨r, hr, hb⟩), rfl⟩
    · rintro ⟨_, _, rfl⟩
      rfl

/-! ## Runs -/

/-- What a run makes true has been made true by one of its steps. -/
theorem iff_exists_prefix {α : Type} {P : List α → Prop} {made : List α → α → Prop} (start : ¬P [])
    (step : ∀ run x, P (run ++ [x]) ↔ P run ∨ made run x) (run : List α) :
    P run ↔ ∃ earlier x, earlier ++ [x] <+: run ∧ made earlier x := by
  induction run using List.reverseRecOn with
  | nil =>
    constructor
    · intro h; exact absurd h start
    · rintro ⟨earlier, x, h, _⟩
      simp at h
  | append_singleton run y ih =>
    rw [step, ih]
    constructor
    · rintro (⟨earlier, x, h, now⟩ | now)
      · exact ⟨earlier, x, h.trans (List.prefix_append _ _), now⟩
      · exact ⟨run, y, List.prefix_refl _, now⟩
    · rintro ⟨earlier, x, h, now⟩
      rcases List.prefix_concat_iff.mp h with h | h
      · obtain ⟨rfl, rfl⟩ : earlier = run ∧ x = y := by simpa using h
        exact .inr now
      · exact .inl ⟨earlier, x, h, now⟩

def next (store : NonceStore) (a : Attempt) : NonceStore :=
  match f.attempt store a with
  | .ok store' => store'
  | .error _ => store

def storeAfter (run : List Attempt) : NonceStore :=
  run.foldl f.next .empty

def Accepts (earlier : List Attempt) (a : Attempt) : Prop :=
  ∃ store, f.attempt (f.storeAfter earlier) a = .ok store

theorem storeAfter_snoc (run : List Attempt) (a : Attempt) :
    f.storeAfter (run ++ [a]) = f.next (f.storeAfter run) a := by
  rw [storeAfter, List.foldl_append]
  rfl

theorem mem_get_next (run : List Attempt) (a : Attempt) (p : String) (r : NonceRecord) :
    r ∈ (f.next (f.storeAfter run) a).get p ↔
      r ∈ (f.storeAfter run).get p ∨ (f.Accepts run a ∧ a.principal = p ∧ r = a.record) := by
  unfold next Accepts
  cases h : f.attempt (f.storeAfter run) a with
  | error e => simp
  | ok store =>
    obtain ⟨_, _, rfl⟩ := (f.attempt_ok).mp h
    have accepted : ∃ store,
        Except.ok ((f.storeAfter run).insert a.record) = (.ok store : Except ReplayError NonceStore) :=
      ⟨_, rfl⟩
    have principal : a.record.principal = a.principal := rfl
    simp only [NonceStore.get_insert, accepted, principal, true_and]
    by_cases hp : p = a.principal
    · rw [if_pos hp, List.mem_append, List.mem_singleton]
      simp [hp]
    · rw [if_neg hp]
      simp [Ne.symm hp]

theorem mem_get_storeAfter (run : List Attempt) (p : String) (r : NonceRecord) :
    r ∈ (f.storeAfter run).get p ↔
      ∃ earlier b, earlier ++ [b] <+: run ∧ f.Accepts earlier b ∧ b.principal = p ∧ r = b.record := by
  refine iff_exists_prefix (P := fun run => r ∈ (f.storeAfter run).get p) ?_ (fun run a => ?_) run
  · intro h; cases h
  · rw [storeAfter_snoc, mem_get_next]

/-- Every assertion that was accepted before and is fresh still blocks itself. -/
theorem blocks_of_same {a b : Attempt} (hf : f.IsFresh a) (hn : b.nonce = a.nonce)
    (hs : b.signedAt = a.signedAt) : f.Blocks a b.record := by
  refine ⟨hn, ?_⟩
  calc a.now.earlier f.validityWindow ≤ a.signedAt := hf.2
    _ = b.signedAt := hs.symm
    _ ≤ max b.now b.signedAt := le_max_right b.now b.signedAt

/-- Wherever a check stands in a run, it succeeds exactly when the assertion is fresh and no earlier
success for the same principal and nonce was recorded within the window; so no assertion is accepted
twice. -/
theorem accepts_iff_and_once (earlier : List Attempt) (a : Attempt) :
    (f.Accepts earlier a ↔
      a.signedAt ≤ a.now.later f.clockSkew ∧ a.now.earlier f.validityWindow ≤ a.signedAt ∧
        ∀ before b, before ++ [b] <+: earlier → f.Accepts before b → b.principal = a.principal →
          b.nonce = a.nonce → ¬ a.now.earlier f.validityWindow ≤ max b.now b.signedAt) ∧
    (f.Accepts earlier a → ∀ before b, before ++ [b] <+: earlier → f.Accepts before b →
      ¬ (b.principal = a.principal ∧ b.nonce = a.nonce ∧ b.signedAt = a.signedAt)) := by
  -- one check, said of the records in the store; the store is then said of the run
  have step : f.Accepts earlier a ↔
      f.IsFresh a ∧ ∀ r ∈ (f.storeAfter earlier).get a.principal, ¬ f.Blocks a r := by
    constructor
    · rintro ⟨store, h⟩
      obtain ⟨hf, hb, _⟩ := (f.attempt_ok).mp h
      exact ⟨hf, hb⟩
    · rintro ⟨hf, hb⟩
      exact ⟨_, (f.attempt_ok).mpr ⟨hf, hb, rfl⟩⟩
  constructor
  · rw [step]
    constructor
    · rintro ⟨hf, hb⟩
      refine ⟨hf.1, hf.2, fun before b hpre hacc hp hn hw => ?_⟩
      have mem := (f.mem_get_storeAfter earlier a.principal b.record).mpr ⟨before, b, hpre, hacc, hp, rfl⟩
      exact hb _ mem ⟨hn, hw⟩
    · rintro ⟨h1, h2, hb⟩
      refine ⟨⟨h1, h2⟩, fun r hr => ?_⟩
      obtain ⟨before, b, hpre, hacc, hp, rfl⟩ := (f.mem_get_storeAfter earlier a.principal r).mp hr
      rintro ⟨hn, hw⟩
      exact hb before b hpre hacc hp hn hw
  · rintro hacc before b hpre hacc' ⟨hp, hn, hs⟩
    obtain ⟨hf, hb⟩ := step.mp hacc
    have mem := (f.mem_get_storeAfter earlier a.principal b.record).mpr ⟨before, b, hpre, hacc', hp, rfl⟩
    exact hb _ mem (f.blocks_of_same hf hn hs)

end Freshness
end PolicyGate.Replay
