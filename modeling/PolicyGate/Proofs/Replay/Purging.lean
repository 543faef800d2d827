import PolicyGate.Proofs.Replay.History
import PolicyGate.Proofs.Time.Shifting

/-!
# Purging the store

A run of checks and purges is followed beside the same run without its purges. The purged store lacks only
records that no later window reaches (`Freshness.Trails`), so every check comes out alike:
`verdicts_of_purged`. A purge made inside a leap second can forget a record that a later window still
reaches: `leap_second_purge_readmits`.
-/

namespace PolicyGate.Replay

open Time (Instant)

/-! ## The purged store -/

theorem NonceStore.get_purge (store : NonceStore) (cutoff : Instant) (p : String) :
    (store.purge cutoff).1.get p = (store.get p).filter fun r => cutoff ≤ r.createdAt := by
  simp only [purge, get, Data.StringMap.get?_refine]
  cases store.records.get? p with
  | none => rfl
  | some rs =>
    rw [Option.map_some, Option.getD_some]
    -- a principal is dropped only when none of its records is left
    cases rs.filter fun r => cutoff ≤ r.createdAt with
    | nil => rfl
    | cons => rfl

theorem NonceStore.mem_get_purge (store : NonceStore) (cutoff : Instant) (p : String) (r : NonceRecord) :
    r ∈ (store.purge cutoff).1.get p ↔ r ∈ store.get p ∧ cutoff ≤ r.createdAt := by
  simp [get_purge]

theorem flatMap_filter_nonempty (es : List (String × List NonceRecord)) :
    (es.filter fun e => !e.2.isEmpty).flatMap Prod.snd = es.flatMap Prod.snd := by
  induction es with
  | nil => rfl
  | cons e es ih =>
    obtain ⟨p, rs⟩ := e
    cases rs with
    | nil =>
      rw [List.filter_cons_of_neg (by simp), ih]
      rfl
    | cons => rw [List.filter_cons_of_pos (by simp), List.flatMap_cons, ih, List.flatMap_cons]

theorem NonceStore.contents_purge (store : NonceStore) (cutoff : Instant) :
    (store.purge cutoff).1.contents = store.contents.filter fun r => cutoff ≤ r.createdAt := by
  simp only [contents, purge, Data.StringMap.refine]
  rw [flatMap_filter_nonempty, List.flatMap_map, List.filter_flatMap]

/-- Counted principal by principal, the records that a purge forgets are those made before the cutoff. -/
theorem NonceStore.purge_count (store : NonceStore) (cutoff : Instant) :
    (store.purge cutoff).2 = store.contents.countP fun r => r.createdAt < cutoff := by
  have forgotten (rs : List NonceRecord) :
      rs.length - (rs.filter fun r => cutoff ≤ r.createdAt).length =
        rs.countP fun r => r.createdAt < cutoff := by
    have parts := List.length_eq_countP_add_countP (fun r : NonceRecord => cutoff ≤ r.createdAt) (l := rs)
    simp only [decide_eq_true_eq, not_le] at parts
    rw [← List.countP_eq_length_filter]
    omega
  calc (store.purge cutoff).2
      = (store.records.entries.map fun e =>
          e.2.length - (e.2.filter fun r => cutoff ≤ r.createdAt).length).sum := by
        rw [List.sum_eq_foldl, List.foldl_map]
        rfl
    _ = (store.records.entries.map fun e => e.2.countP fun r => r.createdAt < cutoff).sum := by
        simp only [forgotten]
    _ = store.contents.countP fun r => r.createdAt < cutoff := List.countP_flatMap.symm

theorem NonceStore.size_purge (store : NonceStore) (cutoff : Instant) :
    (store.purge cutoff).1.size + (store.purge cutoff).2 = store.size := by
  have parts :=
    List.length_eq_countP_add_countP (fun r : NonceRecord => cutoff ≤ r.createdAt) (l := store.contents)
  simp only [decide_eq_true_eq, not_le] at parts
  rw [size_eq, size_eq, contents_purge, purge_count, ← List.countP_eq_length_filter, parts]

/-! ## Runs with purges -/

/-- A check, or a purge that is made now with a cutoff. -/
inductive Step
  | check (attempt : Attempt)
  | purge (now cutoff : Instant)
deriving DecidableEq, Repr

def Step.now : Step → Instant
  | check attempt => attempt.now
  | purge now _ => now

def Step.isCheck : Step → Bool
  | check _ => true
  | purge _ _ => false

namespace Freshness

variable (f : Freshness)

def verdict (store : NonceStore) (a : Attempt) : Except ReplayError Unit :=
  (f.attempt store a).map fun _ => ()

def verdicts : NonceStore → List Step → List (Except ReplayError Unit)
  | _, [] => []
  | store, .check a :: run => f.verdict store a :: verdicts (f.next store a) run
  | store, .purge _ cutoff :: run => verdicts (store.purge cutoff).1 run

/-! ## A store that lacks records of the past -/

/-- No check made from now on has the record in its window. -/
def IsPast (now : Instant) (r : NonceRecord) : Prop :=
  ∀ later, now ≤ later → r.createdAt < later.earlier f.validityWindow

/-- The kept store has every record of the full one that is not past, and no other. -/
structure Trails (now : Instant) (kept full : NonceStore) : Prop where
  subset : ∀ p, kept.get p ⊆ full.get p
  lacks : ∀ p, ∀ r ∈ full.get p, r ∈ kept.get p ∨ f.IsPast now r

variable {f} {now : Instant} {kept full : NonceStore}

theorem Trails.refl (now : Instant) (store : NonceStore) : f.Trails now store store where
  subset _ _ h := h
  lacks _ _ h := .inl h

theorem Trails.mono {later : Instant} (le : now ≤ later) (h : f.Trails now kept full) :
    f.Trails later kept full where
  subset := h.subset
  lacks p r hr := (h.lacks p r hr).imp_right fun past t ht => past t (le_trans le ht)

theorem Trails.blocks_iff {a : Attempt} (h : f.Trails a.now kept full) :
    (∃ r ∈ kept.get a.principal, f.Blocks a r) ↔ ∃ r ∈ full.get a.principal, f.Blocks a r := by
  constructor
  · rintro ⟨r, hr, blocks⟩
    exact ⟨r, h.subset _ hr, blocks⟩
  · rintro ⟨r, hr, blocks⟩
    rcases h.lacks _ r hr with hr | past
    · exact ⟨r, hr, blocks⟩
    · exact absurd blocks.2 (not_le.mpr (past a.now le_rfl))

theorem Trails.insert (h : f.Trails now kept full) (r : NonceRecord) :
    f.Trails now (kept.insert r) (full.insert r) where
  subset p x hx := by
    rw [NonceStore.mem_get_insert] at hx ⊢
    exact hx.imp_left fun hx => h.subset p hx
  lacks p x hx := by
    rw [NonceStore.mem_get_insert] at hx ⊢
    rcases hx with hx | new
    · exact (h.lacks p x hx).imp_left .inl
    · exact .inl (.inr new)

theorem Trails.purge (h : f.Trails now kept full) (window : 0 ≤ f.validityWindow.nanoseconds)
    (calm : ¬ now.InLeapSecond) {cutoff : Instant} (timely : cutoff ≤ now.earlier f.validityWindow) :
    f.Trails now (kept.purge cutoff).1 full where
  subset p r hr := h.subset p ((NonceStore.mem_get_purge ..).mp hr).1
  lacks p r hr := by
    rcases h.lacks p r hr with hr | past
    · by_cases current : cutoff ≤ r.createdAt
      · exact .inl ((NonceStore.mem_get_purge ..).mpr ⟨hr, current⟩)
      · refine .inr fun later le => ?_
        calc r.createdAt < cutoff := not_le.mp current
          _ ≤ now.earlier f.validityWindow := timely
          _ ≤ later.earlier f.validityWindow := Time.Instant.earlier_le_earlier calm le window
    · exact .inr past

/-! ## One check -/

theorem Trails.check {a : Attempt} (h : f.Trails a.now kept full) :
    f.verdict kept a = f.verdict full a ∧ f.Trails a.now (f.next kept a) (f.next full a) := by
  have same : f.blocked kept a = f.blocked full a := by
    rw [Bool.eq_iff_iff, blocked_iff, blocked_iff]
    exact h.blocks_iff
  unfold verdict next
  rw [attempt_eq, attempt_eq, same]
  split
  · exact ⟨rfl, h⟩
  split
  · exact ⟨rfl, h⟩
  split
  · exact ⟨rfl, h⟩
  · exact ⟨rfl, h.insert a.record⟩

/-! ## Whole runs -/

/-- Every purge is made outside leap seconds, and forgets nothing that the window of its time reaches. -/
def IsTimely (f : Freshness) (run : List Step) : Prop :=
  ∀ now cutoff, .purge now cutoff ∈ run →
    ¬ now.InLeapSecond ∧ cutoff ≤ now.earlier f.validityWindow

theorem Trails.verdicts_eq {run : List Step} (h : f.Trails now kept full)
    (window : 0 ≤ f.validityWindow.nanoseconds) (clock : (run.map Step.now).Pairwise (· ≤ ·))
    (begun : ∀ step ∈ run, now ≤ step.now) (timely : f.IsTimely run) :
    f.verdicts kept run = f.verdicts full (run.filter Step.isCheck) := by
  induction run generalizing now kept full with
  | nil => rfl
  | cons step run ih =>
    obtain ⟨first, rest⟩ := List.pairwise_cons.mp clock
    have begun' : ∀ later ∈ run, step.now ≤ later.now := fun later hl =>
      first _ (List.mem_map_of_mem hl)
    have timely' : f.IsTimely run := fun t c hm => timely t c (List.mem_cons_of_mem _ hm)
    have now_le : now ≤ step.now := begun step List.mem_cons_self
    cases step with
    | check a =>
      obtain ⟨same, after⟩ := (h.mono now_le).check
      rw [verdicts, same, ih after rest begun' timely']
      rfl
    | purge t cutoff =>
      obtain ⟨calm, cut⟩ := timely t cutoff List.mem_cons_self
      rw [verdicts, ih ((h.mono now_le).purge window calm cut) rest begun' timely']
      rfl

/-- Timely purges change no answer of any check, and every purge gives just the number of records that it
removes. -/
theorem verdicts_of_purged (f : Freshness) (store : NonceStore) (run : List Step)
    (window : 0 ≤ f.validityWindow.nanoseconds) (clock : (run.map Step.now).Pairwise (· ≤ ·))
    (timely : f.IsTimely run) :
    f.verdicts store run = f.verdicts store (run.filter Step.isCheck) ∧
      ∀ (held : NonceStore) (cutoff : Instant),
        (held.purge cutoff).1.size + (held.purge cutoff).2 = held.size := by
  refine ⟨?_, NonceStore.size_purge⟩
  exact (Trails.refl .earliest store).verdicts_eq window clock (fun _ _ => Instant.earliest_le _) timely

def calmRun : List Step :=
  [ .check ⟨"p", [1], ⟨10, 0, by decide⟩, ⟨10, 0, by decide⟩⟩,
    .purge ⟨20, 0, by decide⟩ ⟨15, 0, by decide⟩,
    .check ⟨"p", [1], ⟨20, 0, by decide⟩, ⟨20, 0, by decide⟩⟩ ]

theorem calmRun_verdicts :
    let f : Freshness := ⟨.ofSeconds 0, .ofSeconds 5⟩
    (0 ≤ f.validityWindow.nanoseconds ∧ (calmRun.map Step.now).Pairwise (· ≤ ·) ∧ f.IsTimely calmRun) ∧
    f.verdicts .empty calmRun = f.verdicts .empty (calmRun.filter Step.isCheck) ∧
      ∀ (held : NonceStore) (cutoff : Instant),
        (held.purge cutoff).1.size + (held.purge cutoff).2 = held.size := by
  intro f
  have timely : f.IsTimely calmRun := by
    intro now cutoff h
    obtain ⟨rfl, rfl⟩ : now = ⟨20, 0, by decide⟩ ∧ cutoff = ⟨15, 0, by decide⟩ := by
      simpa [calmRun] using h
    decide
  have clock : (calmRun.map Step.now).Pairwise (· ≤ ·) := by decide
  exact ⟨⟨by decide, clock, timely⟩, verdicts_of_purged f .empty calmRun (by decide) clock timely⟩

/-- A nonce is used at 00:00:59.2, and the store is purged in the middle of the leap second that follows.
The window of one second ends at 00:00:59.5 there, and at 00:00:59 when that second is over. -/
def leapRun : List Step :=
  [ .check ⟨"p", [1], ⟨59, 200000000, by decide⟩, ⟨59, 200000000, by decide⟩⟩,
    .check ⟨"q", [1], ⟨59, 900000000, by decide⟩, ⟨59, 1500000000, by decide⟩⟩,
    .purge ⟨59, 1500000000, by decide⟩ ⟨59, 500000000, by decide⟩,
    .check ⟨"p", [1], ⟨59, 200000000, by decide⟩, ⟨60, 0, by decide⟩⟩ ]

/-- A purge inside a leap second can forget a record that a later window still reaches. -/
theorem leap_second_purge_readmits :
    ¬ ∀ (f : Freshness) (store : NonceStore) (run : List Step),
      0 ≤ f.clockSkew.nanoseconds → 0 ≤ f.validityWindow.nanoseconds →
      (run.map Step.now).Pairwise (· ≤ ·) →
      (∀ now cutoff, .purge now cutoff ∈ run → cutoff ≤ now.earlier f.validityWindow) →
      f.verdicts store run = f.verdicts store (run.filter Step.isCheck) := by
  intro claim
  let f : Freshness := ⟨.ofSeconds 0, .ofSeconds 1⟩
  have purged : f.verdicts .empty leapRun = [.ok (), .ok (), .ok ()] := by rfl
  have unpurged : f.verdicts .empty (leapRun.filter Step.isCheck) =
      [.ok (), .ok (), .error (.replayed "p")] := by rfl
  have cutoffs : ∀ now cutoff, .purge now cutoff ∈ leapRun → cutoff ≤ now.earlier f.validityWindow := by
    intro now cutoff h
    obtain ⟨rfl, rfl⟩ : now = ⟨59, 1500000000, by decide⟩ ∧ cutoff = ⟨59, 500000000, by decide⟩ := by
      simpa [leapRun] using h
    decide
  have same := claim f .empty leapRun (by decide) (by decide) (by decide) cutoffs
  rw [purged, unpurged] at same
  simp at same

end Freshness
end PolicyGate.Replay
