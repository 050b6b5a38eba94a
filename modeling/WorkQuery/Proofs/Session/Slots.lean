import WorkQuery.Session.Cache
import Mathlib.Data.List.Induction

/-!
# WorkQuery.Proofs.Session.Slots

The cache as one slot for each session.

* `peek_put`, `peek_without`, `get_eq`, `get_fresh`, `invalidate_fst`, `mem_sessions`: what each
  operation says or does, in terms of `peek`.
* `peek_after_iff`: after any operations the slot of a session holds what its last `put` brought, if
  no `invalidate` came later, with the time of that `put`.
* `after_slots`: all that can be read of the cache after any operations.
-/

namespace WorkQuery
namespace Cache

variable {c : Cache} {s : SessionId} {entry : CacheEntry}

/-! ## Single operations -/

theorem peek_without (c : Cache) (s s' : SessionId) :
    (c.without s).peek s' = if s' = s then none else c.peek s' := by
  unfold peek without
  rw [List.find?_filter]
  split
  · next h =>
    subst h
    rw [List.find?_eq_none.mpr fun place _ => by simp]
    rfl
  · next h =>
    congr 2
    funext place
    by_cases hplace : place.1 = s'
    · simp [hplace, h]
    · simp [hplace]

theorem peek_invalidate (c : Cache) (s s' : SessionId) :
    (c.invalidate s).2.peek s' = if s' = s then none else c.peek s' :=
  peek_without c s s'

theorem peek_put (c : Cache) (s s' : SessionId) (made : CacheEntry) :
    (c.put s made).peek s' = if s' = s then some (c.stamp made) else c.peek s' := by
  have hput : (c.put s made).peek s' =
      if s = s' then some (c.stamp made) else (c.without s).peek s' := by
    unfold peek put
    by_cases h : s = s'
    · rw [List.find?_cons_of_pos (by simp [h]), if_pos h]
      rfl
    · rw [List.find?_cons_of_neg (by simp [h]), if_neg h]
  rw [hput, peek_without]
  by_cases h : s' = s
  · simp [h]
  · rw [if_neg (Ne.symm h), if_neg h, if_neg h]

theorem isExpired_iff : c.isExpired entry = true ↔
    0 < c.freshness.seconds ∧
      (Freshness.perSecond : Int) * c.freshness.seconds < ((c.now - entry.storedAt : Nat) : Int) := by
  unfold isExpired Freshness.isPast Freshness.limit? age
  by_cases h : 0 < c.freshness.seconds
  · obtain ⟨seconds, hseconds⟩ := Int.eq_ofNat_of_zero_le (Int.le_of_lt h)
    rw [if_pos h, hseconds, Int.toNat_natCast, ← Int.natCast_mul, Int.ofNat_lt]
    simp only [decide_eq_true_eq]
    rw [hseconds] at h
    exact (and_iff_right h).symm
  · rw [if_neg h]
    simp [h]

theorem get_eq (h : c.peek s = some entry) :
    c.get s = if c.isExpired entry then none else some entry := by
  rw [get, h]
  cases hexpired : c.isExpired entry with
  | true => simp [Option.filter, hexpired]
  | false => simp [Option.filter, hexpired]

theorem get_eq_some_iff :
    c.get s = some entry ↔ c.peek s = some entry ∧ c.isExpired entry = false := by
  rw [get, Option.filter_eq_some_iff]
  simp

/-- What is handed out is no older than the limit, if there is one. -/
theorem get_fresh (h : c.get s = some entry) : c.peek s = some entry ∧
    (0 < c.freshness.seconds →
      (c.now : Int) ≤ entry.storedAt + Freshness.perSecond * c.freshness.seconds) := by
  obtain ⟨hpeek, hexpired⟩ := get_eq_some_iff.mp h
  refine ⟨hpeek, fun hlimit => ?_⟩
  have hfresh : ¬ (0 < c.freshness.seconds ∧ (Freshness.perSecond : Int) * c.freshness.seconds <
      ((c.now - entry.storedAt : Nat) : Int)) := by
    rw [← isExpired_iff, hexpired]
    exact Bool.false_ne_true
  omega

theorem invalidate_fst : (c.invalidate s).1 = (c.peek s).isSome := by
  rw [invalidate, peek, Option.isSome_map, List.isSome_find?]

/-- The sessions that have an entry, each once. -/
def sessions (c : Cache) : List SessionId := c.places.map Prod.fst

theorem mem_sessions : s ∈ c.sessions ↔ (c.peek s).isSome = true := by
  simp [sessions, peek]

end Cache

/-! ## Operations in order -/

/-- What is done with a cache; entries to put were made at some time before. -/
inductive CacheOp where
  | put (s : SessionId) (made : CacheEntry)
  | invalidate (s : SessionId)
  | get (s : SessionId)
  | peek (s : SessionId)
  | status (s : SessionId)
  | size
  | wait (nanoseconds : Nat)

namespace CacheOp

/-- The session that an operation is on. -/
def session? : CacheOp → Option SessionId
  | .put s _ | .invalidate s | .get s | .peek s | .status s => some s
  | .size | .wait _ => none

/-- Whether the operation writes the slot of the session. -/
def writes (s : SessionId) : CacheOp → Bool
  | .put s' _ | .invalidate s' => s' == s
  | _ => false

def duration : CacheOp → Nat
  | .wait nanoseconds => nanoseconds
  | _ => 0

end CacheOp

/-- The time after the operations. -/
def timeAfter (now : Nat) (ops : List CacheOp) : Nat :=
  ops.foldl (fun time op => time + op.duration) now

theorem timeAfter_append (now : Nat) (earlier later : List CacheOp) :
    timeAfter now (earlier ++ later) = timeAfter (timeAfter now earlier) later :=
  List.foldl_append

/-- Time only moves forward. -/
theorem le_timeAfter (now : Nat) (ops : List CacheOp) : now ≤ timeAfter now ops := by
  induction ops generalizing now with
  | nil => exact Nat.le_refl now
  | cons op ops ih => exact Nat.le_trans (Nat.le_add_right now op.duration) (ih _)

/-- The entry is that of the last `put` on the session, stamped with the time of that `put`, and no
later operation writes the session's slot. -/
def LastPut (now : Nat) (s : SessionId) (ops : List CacheOp) (entry : CacheEntry) : Prop :=
  ∃ earlier made later, ops = earlier ++ .put s made :: later ∧
    (∀ op ∈ later, op.writes s = false) ∧ entry = ⟨made.results, timeAfter now earlier⟩

namespace Cache

/-- The cache after an operation; reading changes nothing. -/
def perform (c : Cache) : CacheOp → Cache
  | .put s made => c.put s made
  | .invalidate s => (c.invalidate s).2
  | .wait nanoseconds => c.advance nanoseconds
  | .get _ | .peek _ | .status _ | .size => c

/-- The cache after the operations, in order, on one that was empty. -/
def after (freshness : Freshness) (now : Nat) (ops : List CacheOp) : Cache :=
  ops.foldl perform { freshness, now }

variable {freshness : Freshness} {now : Nat} {ops : List CacheOp} {op : CacheOp}
  {c : Cache} {s : SessionId}

theorem after_concat : after freshness now (ops ++ [op]) = (after freshness now ops).perform op := by
  rw [after, List.foldl_append]
  rfl

theorem perform_now : (c.perform op).now = c.now + op.duration := by
  cases op <;> rfl

theorem perform_freshness : (c.perform op).freshness = c.freshness := by
  cases op <;> rfl

theorem after_now : (after freshness now ops).now = timeAfter now ops := by
  induction ops using List.reverseRecOn with
  | nil => rfl
  | append_singleton ops op ih =>
    rw [after_concat, perform_now, ih, timeAfter_append]
    rfl

theorem after_freshness : (after freshness now ops).freshness = freshness := by
  induction ops using List.reverseRecOn with
  | nil => rfl
  | append_singleton ops op ih => rw [after_concat, perform_freshness, ih]

theorem perform_peek (h : op.writes s = false) : (c.perform op).peek s = c.peek s := by
  cases op with
  | put s' made =>
    have hne : s ≠ s' := by
      rintro rfl
      simp [CacheOp.writes] at h
    rw [perform, peek_put, if_neg hne]
  | invalidate s' =>
    have hne : s ≠ s' := by
      rintro rfl
      simp [CacheOp.writes] at h
    rw [perform, peek_invalidate, if_neg hne]
  | get | peek | status | size | wait => rfl

end Cache

section LastPut

variable {now : Nat} {s : SessionId} {ops : List CacheOp} {op : CacheOp} {entry : CacheEntry}

/-- The last operation is the `put`, or it leaves the slot alone. -/
theorem lastPut_concat : LastPut now s (ops ++ [op]) entry ↔
    (∃ made, op = .put s made ∧ entry = ⟨made.results, timeAfter now ops⟩) ∨
      op.writes s = false ∧ LastPut now s ops entry := by
  constructor
  · rintro ⟨earlier, made, later, hops, hlater, rfl⟩
    rcases List.eq_nil_or_concat later with rfl | ⟨later, last, rfl⟩
    · obtain ⟨rfl, hop⟩ := List.append_inj' hops rfl
      exact .inl ⟨made, List.singleton_inj.mp hop, rfl⟩
    · rw [List.concat_eq_append, ← List.cons_append, ← List.append_assoc] at hops
      obtain ⟨rfl, hop⟩ := List.append_inj' hops rfl
      obtain rfl := List.singleton_inj.mp hop
      exact .inr ⟨hlater op (by simp), earlier, made, later, rfl,
        fun o ho => hlater o (by simp [ho]), rfl⟩
  · rintro (⟨made, rfl, rfl⟩ | ⟨hop, earlier, made, later, rfl, hlater, rfl⟩)
    · exact ⟨ops, made, [], rfl, by simp, rfl⟩
    · refine ⟨earlier, made, later ++ [op], by simp, fun o ho => ?_, rfl⟩
      rcases List.mem_append.mp ho with ho | ho
      · exact hlater o ho
      · rwa [List.mem_singleton.mp ho]

theorem LastPut.storedAt_le (h : LastPut now s ops entry) : entry.storedAt ≤ timeAfter now ops := by
  obtain ⟨earlier, made, later, rfl, -, rfl⟩ := h
  rw [timeAfter_append]
  exact le_timeAfter _ _

end LastPut

namespace Cache

variable {freshness : Freshness} {now : Nat} {ops : List CacheOp} {s : SessionId}
  {entry : CacheEntry}

theorem peek_after_iff :
    (after freshness now ops).peek s = some entry ↔ LastPut now s ops entry := by
  induction ops using List.reverseRecOn with
  | nil =>
    constructor
    · intro h
      cases h
    · rintro ⟨earlier, made, later, h, -⟩
      simp at h
  | append_singleton ops op ih =>
    rw [after_concat, lastPut_concat]
    by_cases hwrites : op.writes s = false
    · have hput : ∀ made, op ≠ .put s made := by
        rintro made rfl
        simp [CacheOp.writes] at hwrites
      simp [perform_peek hwrites, ih, hwrites, hput]
    · cases op with
      | put s' made =>
        obtain rfl : s' = s := by simpa [CacheOp.writes] using hwrites
        simp [perform, peek_put, stamp, after_now, hwrites, eq_comm]
      | invalidate s' =>
        obtain rfl : s' = s := by simpa [CacheOp.writes] using hwrites
        simp [perform, peek_invalidate, hwrites]
      | get | peek | status | size | wait => exact absurd rfl hwrites

/-- One slot for each session, with a limit of age: after any operations on an empty cache, in any
order, `peek` gives the entry of the last `put` that no `invalidate` has followed, with the time of
that `put`; `get` gives the same, but nothing if the limit is positive and the time since the `put`
exceeds it; `status` tells of the same entry and agrees with `get`; `invalidate` says whether there
was an entry; `size` counts the sessions that have one; and an operation on another session changes
none of that. -/
theorem after_slots (freshness : Freshness) (now : Nat) (ops : List CacheOp) :
    let c := after freshness now ops
    (∀ s entry, c.peek s = some entry ↔ LastPut now s ops entry) ∧
    (∀ s entry, c.peek s = some entry →
      let elapsed := timeAfter now ops - entry.storedAt
      entry.storedAt ≤ timeAfter now ops ∧
      c.get s = (if 0 < freshness.seconds ∧
        (Freshness.perSecond : Int) * freshness.seconds < (elapsed : Int) then none else some entry) ∧
      c.status s = some ⟨entry.results.items.length, elapsed, (c.get s).isNone,
        entry.results.description⟩) ∧
    (∀ s, c.peek s = none → c.get s = none ∧ c.status s = none) ∧
    (∀ s, (c.invalidate s).1 = (c.peek s).isSome) ∧
    (∃ sessions : List SessionId, sessions.Nodup ∧ c.size = sessions.length ∧
      ∀ s, s ∈ sessions ↔ (c.peek s).isSome = true) ∧
    ∀ op s s', op.session? = some s' → s ≠ s' →
      (c.perform op).peek s = c.peek s ∧ (c.perform op).get s = c.get s ∧
      (c.perform op).status s = c.status s := by
  intro c
  refine ⟨fun s entry => peek_after_iff, fun s entry h => ?_, fun s h => ?_, fun s => invalidate_fst,
    ⟨c.sessions, c.places_nodup, (List.length_map _).symm, fun s => mem_sessions⟩,
    fun op s s' hop hne => ?_⟩
  · have hget := get_eq h
    have hexpired : c.isExpired entry = true ↔ _ := isExpired_iff
    rw [show c.now = _ from after_now, show c.freshness = _ from after_freshness] at hexpired
    refine ⟨(peek_after_iff.mp h).storedAt_le, ?_, ?_⟩
    · rw [hget]
      exact if_congr hexpired rfl rfl
    · rw [status, h, Option.map_some, age, show c.now = _ from after_now, hget]
      cases c.isExpired entry <;> rfl
  · rw [get, status, h]
    exact ⟨rfl, rfl⟩
  · have hwrites : op.writes s = false := by
      cases op with
      | put | invalidate =>
        cases hop
        simpa [CacheOp.writes] using Ne.symm hne
      | get | peek | status | size | wait => rfl
    have hnow : (c.perform op).now = c.now := by
      cases op with
      | wait => cases hop
      | put | invalidate | get | peek | status | size => rfl
    have hpeek := perform_peek (c := c) hwrites
    have hsame : ∀ entry, (c.perform op).isExpired entry = c.isExpired entry := by
      intro entry
      rw [isExpired, isExpired, age, age, hnow, perform_freshness]
    refine ⟨hpeek, ?_, ?_⟩
    · rw [get, get, hpeek]
      simp only [hsame]
    · rw [status, status, hpeek]
      simp only [hsame, age, hnow]

/-- At the limit the entry is still there, with the time of its `put`. -/
example :
    let put := CacheOp.put ⟨1⟩ ⟨⟨[], none, none, "bugs"⟩, 5⟩
    ((after ⟨60⟩ 90 [put, .wait 60000000000]).get ⟨1⟩).map CacheEntry.storedAt = some 90 ∧
      ((after ⟨60⟩ 90 [put, .wait 60000000001]).get ⟨1⟩).isNone = true := by
  decide

end Cache
end WorkQuery
