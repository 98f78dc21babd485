import Mathlib.Data.Prod.Lex
import Mathlib.Data.String.Basic
import Mathlib.Order.WithBot
import Orbital.PulseWebhooks.MemoryRetryQueue
import Orbital.PulseWebhooks.RedisRetryQueue

/-! # Redis against the reference

A sorted set with its hash holds records under their ids, each with its score. As long
as no id is handed out a second time with another record while the first is still out,
the four keys hold what the two maps of the reference hold.
-/

namespace Orbital.PulseWebhooks

open Foundation

variable {Event Metadata Member : Type} [LinearOrder Member]

abbrev Held (Event Metadata : Type) :=
  String → Option (RetryRecord Event Metadata Millis × Millis)

namespace RecordCodec

variable (codec : RecordCodec Event Metadata Member)

omit [LinearOrder Member] in
theorem stringify_injective : Function.Injective codec.stringify := by
  intro left right same
  have read := congrArg codec.parse same
  rw [codec.parse_stringify, codec.parse_stringify] at read
  exact Option.some.inj read

def Stores (sorted : SortedSet Member Millis) (held : Held Event Metadata) : Prop :=
  ∀ member score, (member, score) ∈ sorted.entries ↔
    ∃ record, held record.id = some (record, score) ∧ member = codec.stringify record

def Indexes (index : InsertionMap String Member) (held : Held Event Metadata) : Prop :=
  ∀ id, index.get? id = (held id).map fun out => codec.stringify out.1

variable {codec} {sorted : SortedSet Member Millis} {index : InsertionMap String Member}
  {held : Held Event Metadata}

namespace Stores

variable {record : RetryRecord Event Metadata Millis} {score : Millis}

theorem mem (stores : codec.Stores sorted held) (isHeld : held record.id = some (record, score)) :
    (codec.stringify record, score) ∈ sorted.entries :=
  (stores _ _).mpr ⟨record, isHeld, rfl⟩

theorem mem_members (stores : codec.Stores sorted held)
    (isHeld : held record.id = some (record, score)) : codec.stringify record ∈ sorted.members :=
  SortedSet.mem_members.mpr ⟨score, stores.mem isHeld⟩

theorem remove (stores : codec.Stores sorted held)
    (isHeld : held record.id = some (record, score)) :
    codec.Stores (sorted.remove (codec.stringify record))
      (Function.update held record.id none) := by
  intro member otherScore
  rw [SortedSet.mem_remove, stores]
  constructor
  · rintro ⟨⟨other, otherHeld, rfl⟩, different⟩
    refine ⟨other, ?_, rfl⟩
    rw [Function.update_of_ne _ _ _, otherHeld]
    intro same
    rw [same, isHeld] at otherHeld
    cases otherHeld
    exact different rfl
  · rintro ⟨other, otherHeld, rfl⟩
    rw [Function.update_apply] at otherHeld
    split at otherHeld
    · cases otherHeld
    · rename_i different
      refine ⟨⟨other, otherHeld, rfl⟩, ?_⟩
      intro same
      exact different (congrArg _ (codec.stringify_injective same))

theorem add (stores : codec.Stores sorted held)
    (same : ∀ other score, held record.id = some (other, score) → other = record) (score : Millis) :
    codec.Stores (sorted.add (codec.stringify record) score)
      (Function.update held record.id (some (record, score))) := by
  intro member otherScore
  rw [SortedSet.mem_add, stores]
  constructor
  · rintro (equal | ⟨⟨other, otherHeld, rfl⟩, different⟩)
    · cases equal
      exact ⟨record, Function.update_self _ _ _, rfl⟩
    · refine ⟨other, ?_, rfl⟩
      rw [Function.update_of_ne _ _ _, otherHeld]
      intro sameId
      rw [sameId] at otherHeld
      exact different (congrArg codec.stringify (same other otherScore otherHeld))
  · rintro ⟨other, otherHeld, rfl⟩
    rw [Function.update_apply] at otherHeld
    split at otherHeld
    · cases otherHeld
      exact .inl rfl
    · rename_i different
      refine .inr ⟨⟨other, otherHeld, rfl⟩, ?_⟩
      intro equal
      exact different (congrArg _ (codec.stringify_injective equal))

end Stores

namespace Indexes

omit [LinearOrder Member] in
theorem set (indexes : codec.Indexes index held) (record : RetryRecord Event Metadata Millis)
    (score : Millis) :
    codec.Indexes (index.set record.id (codec.stringify record))
      (Function.update held record.id (some (record, score))) := by
  intro id
  rw [InsertionMap.get?_set, Function.update_apply]
  split
  · rfl
  · exact indexes id

omit [LinearOrder Member] in
theorem delete (indexes : codec.Indexes index held) (id : String) :
    codec.Indexes (index.delete id) (Function.update held id none) := by
  intro other
  rw [InsertionMap.get?_delete, Function.update_apply]
  split
  · rfl
  · exact indexes other

end Indexes

end RecordCodec

def Contents.waiting (contents : Contents Event Metadata) : Held Event Metadata :=
  fun id => (contents.queued id).map fun record => (record, record.nextRetryAt)

namespace Contents

variable {contents : Contents Event Metadata}

theorem waiting_eq_some {id : String} {record : RetryRecord Event Metadata Millis}
    {score : Millis} :
    contents.waiting id = some (record, score) ↔
      contents.queued id = some record ∧ score = record.nextRetryAt := by
  rw [waiting, Option.map_eq_some_iff]
  constructor
  · rintro ⟨found, waits, same⟩
    cases same
    exact ⟨waits, rfl⟩
  · rintro ⟨waits, rfl⟩
    exact ⟨record, waits, rfl⟩

theorem waiting_put (record : RetryRecord Event Metadata Millis) :
    (contents.put record).waiting =
      Function.update contents.waiting record.id (some (record, record.nextRetryAt)) := by
  funext id
  rw [waiting, put_queued, Function.update_apply, Function.update_apply]
  split <;> rfl

theorem waiting_drop (id : String) :
    (contents.drop id).waiting = Function.update contents.waiting id none := by
  funext other
  rw [waiting, drop_queued, Function.update_apply, Function.update_apply]
  split <;> rfl

end Contents

namespace RedisRetryQueue

structure Holds (codec : RecordCodec Event Metadata Member) (keys : RedisRetryQueue Member)
    (contents : Contents Event Metadata) : Prop where
  keyed : contents.Keyed
  queue : codec.Stores keys.queue contents.waiting
  index : codec.Indexes keys.index contents.waiting
  inFlight : codec.Stores keys.inFlight contents.inFlight
  inFlightIndex : codec.Indexes keys.inFlightIndex contents.inFlight

namespace Holds

variable {codec : RecordCodec Event Metadata Member} {keys : RedisRetryQueue Member}
  {contents : Contents Event Metadata}

theorem replaceQueued (holds : Holds codec keys contents)
    (record : RetryRecord Event Metadata Millis) :
    Holds codec (keys.replaceQueued record.id record.nextRetryAt (codec.stringify record))
      (contents.put record) where
  keyed := holds.keyed.put record
  queue := by
    rw [Contents.waiting_put, RedisRetryQueue.replaceQueued, holds.index]
    cases waits : contents.queued record.id with
    | none =>
        have none : contents.waiting record.id = none := Option.map_eq_none_iff.mpr waits
        rw [none]
        refine holds.queue.add ?_ _
        intro other score held
        rw [none] at held
        cases held
    | some old =>
        have held : contents.waiting record.id = some (old, old.nextRetryAt) :=
          Contents.waiting_eq_some.mpr ⟨waits, rfl⟩
        have id : old.id = record.id := holds.keyed.queued waits
        rw [held]
        rw [← id] at held
        have removed := holds.queue.remove held
        rw [id] at removed
        have gone : ∀ other score,
            Function.update contents.waiting record.id none record.id = some (other, score) →
              other = record := by
          intro other score held
          rw [Function.update_self] at held
          cases held
        have added := removed.add gone record.nextRetryAt
        rwa [Function.update_idem] at added
  index := by
    rw [Contents.waiting_put]
    exact holds.index.set record record.nextRetryAt
  inFlight := holds.inFlight
  inFlightIndex := holds.inFlightIndex

theorem ack (holds : Holds codec keys contents) (id : String) :
    Holds codec (keys.ack id) (contents.settle id) := by
  rw [RedisRetryQueue.ack, ackScript, holds.inFlightIndex]
  cases out : contents.inFlight id with
  | none =>
      rw [Contents.settle_of_none out]
      exact holds
  | some taken =>
      have key : taken.1.id = id := holds.keyed.inFlight out
      subst key
      exact {
        keyed := holds.keyed.settle _
        queue := holds.queue
        index := holds.index
        inFlight := holds.inFlight.remove out
        inFlightIndex := holds.inFlightIndex.delete _ }

variable {record : RetryRecord Event Metadata Millis}

variable {expiresAt nowMs : Millis} {ids : List String}

theorem settle_put (holds : Holds codec keys contents)
    (out : contents.inFlight record.id = some (record, expiresAt)) (nextRetryAt : Millis) :
    Holds codec
      ({ keys with
        inFlight := keys.inFlight.remove (codec.stringify record)
        inFlightIndex := keys.inFlightIndex.delete record.id }.replaceQueued record.id nextRetryAt
          (codec.stringify { record with nextRetryAt }))
      (contents.requeue record.id nextRetryAt) := by
  have settled := holds.ack record.id
  rw [RedisRetryQueue.ack, ackScript, holds.inFlightIndex, out] at settled
  rw [Contents.requeue_of_some out]
  exact settled.replaceQueued { record with nextRetryAt }

theorem nack (holds : Holds codec keys contents) (recordId : String)
    (requeueDelayMs : Option Millis) (now : Millis) :
    Holds codec (keys.nack codec recordId requeueDelayMs now)
      (contents.requeue recordId (now + requeueDelay requeueDelayMs)) := by
  rw [RedisRetryQueue.nack, holds.inFlightIndex]
  cases out : contents.inFlight recordId with
  | none =>
      rw [Contents.requeue_of_none out]
      exact holds
  | some taken =>
      rcases taken with ⟨record, expiresAt⟩
      have key : record.id = recordId := holds.keyed.inFlight out
      subst key
      have member := holds.inFlight.mem_members out
      dsimp only [Option.map_some]
      rw [codec.parse_stringify]
      dsimp only
      rw [requeueScript, holds.inFlightIndex, out]
      dsimp only [Option.map_some]
      rw [if_neg (fun different => different rfl), if_neg (fun absent => absent member)]
      exact holds.settle_put out _

theorem reclaimScript (holds : Holds codec keys contents)
    (out : contents.inFlight record.id = some (record, expiresAt)) (nowMs : Millis) :
    (keys.reclaimScript (codec.stringify record) record.id nowMs
        (codec.stringify { record with nextRetryAt := nowMs })).1 = 1 ∧
      Holds codec (keys.reclaimScript (codec.stringify record) record.id nowMs
        (codec.stringify { record with nextRetryAt := nowMs })).2
        (contents.requeue record.id nowMs) ∧
      (keys.reclaimScript (codec.stringify record) record.id nowMs
        (codec.stringify { record with nextRetryAt := nowMs })).2.inFlight.card <
        keys.inFlight.card := by
  have member := holds.inFlight.mem_members out
  have index : keys.inFlightIndex.get? record.id = some (codec.stringify record) := by
    rw [holds.inFlightIndex, out]
    rfl
  rw [RedisRetryQueue.reclaimScript, if_neg (fun absent => absent member), if_pos index]
  exact ⟨rfl, holds.settle_put out nowMs, SortedSet.card_remove_lt member⟩

theorem claimScript (holds : Holds codec keys contents)
    (waits : contents.queued record.id = some record)
    (same : ∀ out expiresAt, contents.inFlight record.id = some (out, expiresAt) → out = record)
    (expiresAt : Millis) :
    (keys.claimScript (codec.stringify record) record.id expiresAt).1 = 1 ∧
      Holds codec (keys.claimScript (codec.stringify record) record.id expiresAt).2
        (contents.claim record expiresAt) := by
  have held := Contents.waiting_eq_some.mpr ⟨waits, rfl⟩
  have member := holds.queue.mem_members held
  have index : keys.index.get? record.id = some (codec.stringify record) := by
    rw [holds.index, held]
    rfl
  rw [RedisRetryQueue.claimScript, if_neg (fun absent => absent member), if_pos index]
  refine ⟨rfl, ?_⟩
  exact {
    keyed := holds.keyed.claim record expiresAt
    queue := by
      have removed := holds.queue.remove held
      rwa [← Contents.waiting_drop] at removed
    index := by
      have deleted := holds.index.delete record.id
      rwa [← Contents.waiting_drop] at deleted
    inFlight := holds.inFlight.add same expiresAt
    inFlightIndex := holds.inFlightIndex.set record expiresAt }

theorem evictScript (holds : Holds codec keys contents)
    (waits : contents.queued record.id = some record) :
    (keys.evictScript (codec.stringify record) record.id).1 = 1 ∧
      Holds codec (keys.evictScript (codec.stringify record) record.id).2
        (contents.drop record.id) := by
  have held := Contents.waiting_eq_some.mpr ⟨waits, rfl⟩
  have member := holds.queue.mem_members held
  have index : keys.index.get? record.id = some (codec.stringify record) := by
    rw [holds.index, held]
    rfl
  rw [RedisRetryQueue.evictScript, if_neg (fun absent => absent member), if_pos index]
  refine ⟨rfl, ?_⟩
  exact {
    keyed := holds.keyed.drop record.id
    queue := by
      rw [Contents.waiting_drop]
      exact holds.queue.remove held
    index := by
      rw [Contents.waiting_drop]
      exact holds.index.delete record.id
    inFlight := holds.inFlight
    inFlightIndex := holds.inFlightIndex }

/-! ## Reclaiming -/

def Expired (contents : Contents Event Metadata) (nowMs : Millis) (id : String) : Prop :=
  ∃ record expiresAt, contents.inFlight id = some (record, expiresAt) ∧ expiresAt ≤ nowMs

theorem reclaimBatch {members : List Member} (nodup : members.Nodup) {progressed : Bool}
    (batch : ∀ member ∈ members, ∃ record expiresAt,
      contents.inFlight record.id = some (record, expiresAt) ∧ expiresAt ≤ nowMs ∧
        record.id ∉ ids ∧ member = codec.stringify record)
    (expired : ∀ id ∈ ids, Expired contents nowMs id)
    (holds : Holds codec keys (contents.reclaim nowMs ids)) :
    ∃ all, (∀ id ∈ all, Expired contents nowMs id) ∧
      Holds codec (RedisRetryQueue.reclaimBatch codec nowMs members progressed keys).2
        (contents.reclaim nowMs all) ∧
      (progressed ∨ members ≠ [] →
        (RedisRetryQueue.reclaimBatch codec nowMs members progressed keys).1) ∧
      (RedisRetryQueue.reclaimBatch codec nowMs members progressed keys).2.inFlight.card +
        members.length ≤ keys.inFlight.card := by
  induction members generalizing keys ids progressed with
  | nil =>
      refine ⟨ids, expired, holds, ?_, le_refl _⟩
      intro before
      exact before.resolve_right fun none => none rfl
  | cons member rest induction =>
      rcases batch member List.mem_cons_self with ⟨record, expiresAt, out, late, absent, rfl⟩
      rcases List.nodup_cons.mp nodup with ⟨once, restNodup⟩
      have stillOut := (Contents.reclaim_inFlight_of_not_mem nowMs absent).trans out
      rcases holds.reclaimScript stillOut nowMs with ⟨done, next, fewer⟩
      rw [Contents.reclaim_cons out absent] at next
      have others : ∀ later ∈ rest, ∃ record' expiresAt',
          contents.inFlight record'.id = some (record', expiresAt') ∧ expiresAt' ≤ nowMs ∧
            record'.id ∉ record.id :: ids ∧ later = codec.stringify record' := by
        intro later inside
        rcases batch later (List.mem_cons_of_mem _ inside) with
          ⟨other, otherExpiry, otherOut, otherLate, otherAbsent, rfl⟩
        refine ⟨other, otherExpiry, otherOut, otherLate, ?_, rfl⟩
        intro known
        rcases List.mem_cons.mp known with same | before
        · rw [same, out] at otherOut
          cases otherOut
          exact once inside
        · exact otherAbsent before
      have all : ∀ id ∈ record.id :: ids, Expired contents nowMs id := by
        intro id known
        rcases List.mem_cons.mp known with rfl | before
        · exact ⟨record, expiresAt, out, late⟩
        · exact expired id before
      rcases induction restNodup others all next with
        ⟨final, finalExpired, finalHolds, moved, count⟩
      rw [RedisRetryQueue.reclaimBatch, codec.parse_stringify]
      refine ⟨final, finalExpired, finalHolds, ?_, ?_⟩
      · intro _
        refine moved (.inl ?_)
        rw [done]
        exact Bool.or_true _
      · dsimp only
        rw [List.length_cons]
        omega

theorem reclaimLoop {rounds : Nat} (enough : keys.inFlight.card < rounds)
    (expired : ∀ id ∈ ids, Expired contents nowMs id)
    (holds : Holds codec keys (contents.reclaim nowMs ids)) :
    ∃ all, (∀ id ∈ all, Expired contents nowMs id) ∧
      Holds codec (RedisRetryQueue.reclaimLoop codec nowMs rounds keys)
        (contents.reclaim nowMs all) ∧
      ∀ entry ∈ (RedisRetryQueue.reclaimLoop codec nowMs rounds keys).inFlight.entries,
        nowMs < entry.2 := by
  induction rounds generalizing keys ids with
  | zero => exact absurd enough (Nat.not_lt_zero _)
  | succ rounds induction =>
      rw [RedisRetryQueue.reclaimLoop]
      cases range : keys.inFlight.rangeByScore nowMs scanBatchSize with
      | nil => exact ⟨ids, expired, holds, (SortedSet.rangeByScore_eq_nil (by decide)).mp range⟩
      | cons member rest =>
          have nodup : (keys.inFlight.rangeByScore nowMs scanBatchSize).Nodup :=
            SortedSet.nodup_rangeByScore nowMs scanBatchSize
          have batch : ∀ found ∈ member :: rest, ∃ record expiresAt,
              contents.inFlight record.id = some (record, expiresAt) ∧ expiresAt ≤ nowMs ∧
                record.id ∉ ids ∧ found = codec.stringify record := by
            intro found inside
            rw [← range] at inside
            rcases SortedSet.mem_rangeByScore inside with ⟨expiresAt, entry, late⟩
            rcases (holds.inFlight _ _).mp entry with ⟨record, out, rfl⟩
            rw [Contents.reclaim_inFlight] at out
            split at out
            · cases out
            · rename_i absent
              exact ⟨record, expiresAt, out, late, absent, rfl⟩
          rw [range] at nodup
          rcases reclaimBatch nodup batch expired holds with
            ⟨all, allExpired, next, moved, count⟩
          dsimp only
          rw [if_pos (moved (.inr (List.cons_ne_nil member rest)))]
          rw [List.length_cons] at count
          exact induction (by omega) allExpired next

theorem reclaimExpiredInFlight {queue : MemoryRetryQueue Event Metadata}
    (holds : Holds codec keys queue.contents) (nowMs : Millis) :
    Holds codec (keys.reclaimExpiredInFlight codec nowMs)
      (queue.reclaimExpiredInFlight nowMs).contents := by
  have start : Holds codec keys (queue.contents.reclaim nowMs []) := by
    rw [Contents.reclaim_nil]
    exact holds
  rcases reclaimLoop (Nat.lt_succ_self keys.inFlight.card)
      (fun _ none => absurd none List.not_mem_nil) start with ⟨all, expired, final, none⟩
  rw [MemoryRetryQueue.contents_reclaimExpiredInFlight holds.keyed]
  have same : queue.contents.reclaim nowMs all = queue.contents.reclaim nowMs
      (MemoryRetryQueue.expiredIds nowMs queue.inFlight.entries) := by
    refine Contents.reclaim_congr ?_
    intro id isOut
    rcases Option.ne_none_iff_exists'.mp isOut with ⟨⟨record, expiresAt⟩, out⟩
    rw [MemoryRetryQueue.mem_expiredIds out]
    constructor
    · intro inside
      rcases expired id inside with ⟨_, _, outToo, late⟩
      rw [out] at outToo
      cases outToo
      exact late
    · intro late
      by_contra absent
      have stillOut := (Contents.reclaim_inFlight_of_not_mem nowMs absent).trans out
      have key := holds.keyed.inFlight out
      subst key
      exact not_lt.mpr late (none _ (final.inFlight.mem stillOut))
  rw [← same]
  exact final

/-! ## Reading the queue -/

variable {queue : MemoryRetryQueue Event Metadata}

theorem entry_stored (holds : Holds codec keys queue.contents) {entry : Entry Event Metadata}
    (member : entry ∈ queue.queued.values) :
    (codec.stringify entry.record, entry.record.nextRetryAt) ∈ keys.queue.entries :=
  holds.queue.mem (Contents.waiting_eq_some.mpr
    ⟨MemoryRetryQueue.waits_of_mem_values holds.keyed member, rfl⟩)

theorem stored_entry (holds : Holds codec keys queue.contents) {member : Member}
    {score : Millis} (stored : (member, score) ∈ keys.queue.entries) :
    ∃ entry ∈ queue.queued.values, member = codec.stringify entry.record ∧
      score = entry.record.nextRetryAt := by
  rcases (holds.queue member score).mp stored with ⟨record, held, rfl⟩
  rcases Contents.waiting_eq_some.mp held with ⟨waits, rfl⟩
  rcases MemoryRetryQueue.exists_entry waits with ⟨entry, inside, rfl⟩
  exact ⟨entry, inside, rfl, rfl⟩

theorem size (holds : Holds codec keys queue.contents) : keys.size = queue.size := by
  have nodup : (queue.queued.entries.map fun item => codec.stringify item.2.record).Nodup := by
    refine List.Nodup.map_on ?_ (List.Nodup.of_map _ queue.queued.nodup)
    rintro ⟨leftId, left⟩ leftIn ⟨rightId, right⟩ rightIn same
    have leftFound := InsertionMap.get?_eq_some_iff.mpr leftIn
    have rightFound := InsertionMap.get?_eq_some_iff.mpr rightIn
    have leftKey := holds.keyed.queued (MemoryRetryQueue.contents_queued.mpr
      ⟨left, leftFound, rfl⟩)
    have rightKey := holds.keyed.queued (MemoryRetryQueue.contents_queued.mpr
      ⟨right, rightFound, rfl⟩)
    have ids : leftId = rightId := by
      rw [← leftKey, ← rightKey, codec.stringify_injective same]
    subst ids
    rw [leftFound] at rightFound
    cases rightFound
    rfl
  have perm : keys.queue.members.Perm
      (queue.queued.entries.map fun item => codec.stringify item.2.record) := by
    refine (List.perm_ext_iff_of_nodup keys.queue.nodup nodup).mpr ?_
    intro member
    constructor
    · intro inside
      rcases SortedSet.mem_members.mp inside with ⟨score, stored⟩
      rcases holds.stored_entry stored with ⟨entry, waiting, rfl, -⟩
      rcases List.mem_map.mp waiting with ⟨item, itemIn, rfl⟩
      exact List.mem_map.mpr ⟨item, itemIn, rfl⟩
    · intro inside
      rcases List.mem_map.mp inside with ⟨item, itemIn, rfl⟩
      exact SortedSet.mem_members.mpr
        ⟨_, holds.entry_stored (List.mem_map.mpr ⟨item, itemIn, rfl⟩)⟩
  have length := perm.length_eq
  rwa [SortedSet.members, List.length_map, List.length_map] at length

end Holds

/-! ## Calls that both answer alike -/

/-- The record `dequeue` would hand out is, among those due at the same time, also first
in the order of the text, and no other record is out under its id; the record
`evictNewest` would shed is the last in both orders. -/
def Agrees (codec : RecordCodec Event Metadata Member) (queue : MemoryRetryQueue Event Metadata) :
    Call Event Metadata → Prop
  | .dequeue nowMs =>
      ∀ first ∈ (queue.reclaimExpiredInFlight nowMs).due nowMs,
        MemoryRetryQueue.Earliest ((queue.reclaimExpiredInFlight nowMs).due nowMs) first →
        (∀ other ∈ (queue.reclaimExpiredInFlight nowMs).due nowMs,
          other.record.nextRetryAt = first.record.nextRetryAt →
            codec.stringify first.record ≤ codec.stringify other.record) ∧
        ∀ out ∈ (queue.reclaimExpiredInFlight nowMs).inFlight.get? first.record.id,
          out.record = first.record
  | .evictNewest =>
      ∀ last ∈ queue.queued.values, MemoryRetryQueue.Latest queue.queued.values last →
        ∀ other ∈ queue.queued.values, other.record.nextRetryAt = last.record.nextRetryAt →
          codec.stringify other.record ≤ codec.stringify last.record
  | _ => True

instance (codec : RecordCodec Event Metadata Member) (queue : MemoryRetryQueue Event Metadata)
    [DecidableEq Event] [DecidableEq Metadata] (call : Call Event Metadata) :
    Decidable (Agrees codec queue call) :=
  match call with
  | .dequeue _ => inferInstanceAs (Decidable (∀ _ ∈ _, _ → _ ∧ _))
  | .evictNewest => inferInstanceAs (Decidable (∀ _ ∈ _, _ → _))
  | .enqueue _ | .ack _ | .nack .. | .size _ => isTrue trivial

namespace Holds

variable {codec : RecordCodec Event Metadata Member} {keys : RedisRetryQueue Member}
  {queue : MemoryRetryQueue Event Metadata}

theorem enqueue (holds : Holds codec keys queue.contents)
    (record : RetryRecord Event Metadata (Option Millis)) (visibilityTimeoutMs : Millis) :
    ((machine codec visibilityTimeoutMs).step keys (.enqueue record)).1 =
        ((MemoryRetryQueue.machine visibilityTimeoutMs).step queue (.enqueue record)).1 ∧
      Holds codec ((machine codec visibilityTimeoutMs).step keys (.enqueue record)).2
        ((MemoryRetryQueue.machine visibilityTimeoutMs).step queue
          (.enqueue record)).2.contents := by
  rw [machine, MemoryRetryQueue.machine]
  dsimp only
  rw [RedisRetryQueue.enqueue, MemoryRetryQueue.enqueue]
  cases assertRecord record with
  | error error => exact ⟨rfl, holds⟩
  | ok accepted =>
      have put := holds.replaceQueued accepted
      rw [← MemoryRetryQueue.contents_setQueued] at put
      exact ⟨rfl, put⟩

theorem dequeue (holds : Holds codec keys queue.contents) (visibilityTimeoutMs : Millis)
    {nowMs : Millis} (agrees : Agrees codec queue (.dequeue nowMs)) :
    (keys.dequeue codec visibilityTimeoutMs nowMs).1 =
        (queue.dequeue visibilityTimeoutMs nowMs).1 ∧
      Holds codec (keys.dequeue codec visibilityTimeoutMs nowMs).2
        (queue.dequeue visibilityTimeoutMs nowMs).2.contents := by
  have reclaimed := holds.reclaimExpiredInFlight nowMs
  rw [RedisRetryQueue.dequeue]
  rcases queue.dequeue_cases visibilityTimeoutMs nowMs with
    ⟨taken, none⟩ | ⟨best, bestDue, first, taken, left⟩
  · have range : (keys.reclaimExpiredInFlight codec nowMs).queue.rangeByScore nowMs
        scanBatchSize = [] := by
      refine (SortedSet.rangeByScore_eq_nil (by decide)).mpr ?_
      rintro ⟨member, score⟩ stored
      rcases reclaimed.stored_entry stored with ⟨entry, waiting, -, rfl⟩
      by_contra early
      have due := MemoryRetryQueue.mem_due.mpr ⟨waiting, not_lt.mp early⟩
      rw [none] at due
      cases due
    rw [range, taken]
    exact ⟨rfl, reclaimed⟩
  · rcases MemoryRetryQueue.mem_due.mp bestDue with ⟨waiting, due⟩
    have stored := reclaimed.entry_stored waiting
    rcases agrees best bestDue first with ⟨textFirst, alone⟩
    cases range : (keys.reclaimExpiredInFlight codec nowMs).queue.rangeByScore nowMs
        scanBatchSize with
    | nil =>
        exact absurd ((SortedSet.rangeByScore_eq_nil (by decide)).mp range _ stored)
          (not_lt.mpr due)
    | cons member rest =>
        rcases SortedSet.head_rangeByScore range with ⟨score, memberStored, early, precedes⟩
        rcases reclaimed.stored_entry memberStored with ⟨entry, entryWaiting, rfl, rfl⟩
        have entryDue := MemoryRetryQueue.mem_due.mpr ⟨entryWaiting, early⟩
        have same : entry.record = best.record := by
          rcases precedes _ stored due with sooner | ⟨sameTime, text⟩
          · rcases first entry entryDue with later | ⟨sameTime, -⟩
            · exact absurd sooner (lt_asymm later)
            · exact absurd sameTime.symm sooner.ne
          · exact codec.stringify_injective
              (le_antisymm text (textFirst entry entryDue sameTime))
        have waits := MemoryRetryQueue.waits_of_mem_values reclaimed.keyed waiting
        have only : ∀ out expiresAt,
            (queue.reclaimExpiredInFlight nowMs).contents.inFlight best.record.id =
              some (out, expiresAt) → out = best.record := by
          intro out expiresAt isOut
          exact alone _ (MemoryRetryQueue.contents_inFlight.mp isOut)
        rcases reclaimed.claimScript waits only (nowMs + visibilityTimeoutMs) with ⟨done, next⟩
        rw [same, claimFirst, codec.parse_stringify, taken, left]
        dsimp only
        rw [if_neg (by rw [done]; exact Nat.one_ne_zero)]
        exact ⟨rfl, next⟩

theorem evictNewest (holds : Holds codec keys queue.contents)
    (agrees : Agrees codec queue .evictNewest) :
    (keys.evictNewest codec).1 = queue.evictNewest.1 ∧
      Holds codec (keys.evictNewest codec).2 queue.evictNewest.2.contents := by
  rw [RedisRetryQueue.evictNewest]
  rcases queue.evictNewest_cases with 
    ⟨taken, nothing⟩ | ⟨newest, member, latest, taken, left⟩
  · have empty : keys.queue.last = none := by
      rw [SortedSet.last_eq_none, List.eq_nil_iff_forall_not_mem]
      rintro ⟨member, score⟩ stored
      rcases holds.stored_entry stored with ⟨entry, waiting, -⟩
      rw [nothing] at waiting
      cases waiting
    rw [empty, taken]
    exact ⟨rfl, holds⟩
  · have stored := holds.entry_stored member
    cases last : keys.queue.last with
    | none =>
        rw [SortedSet.last_eq_none.mp last] at stored
        cases stored
    | some found =>
        rcases SortedSet.last_eq_some last with ⟨score, memberStored, precedes⟩
        rcases holds.stored_entry memberStored with ⟨entry, waiting, rfl, rfl⟩
        have same : entry.record = newest.record := by
          rcases precedes _ stored with sooner | ⟨sameTime, text⟩
          · rcases latest entry waiting with earlier | ⟨sameTime, -⟩
            · exact absurd sooner (lt_asymm earlier)
            · exact absurd sameTime.symm sooner.ne
          · exact codec.stringify_injective
              (le_antisymm (agrees newest member latest entry waiting sameTime.symm) text)
        have waits := MemoryRetryQueue.waits_of_mem_values holds.keyed member
        rcases holds.evictScript waits with ⟨done, next⟩
        rw [same, taken, left]
        dsimp only
        rw [codec.parse_stringify]
        dsimp only [Option.map_some, Option.getD_some]
        rw [if_neg (by rw [done]; exact Nat.one_ne_zero)]
        exact ⟨rfl, next⟩

end Holds

theorem holds_empty (codec : RecordCodec Event Metadata Member) :
    Holds codec empty (MemoryRetryQueue.empty : MemoryRetryQueue Event Metadata).contents where
  keyed := MemoryRetryQueue.contents_empty
  queue := by
    intro member score
    constructor
    · intro none
      cases none
    · rintro ⟨record, none, -⟩
      cases none
  index := fun _ => rfl
  inFlight := by
    intro member score
    constructor
    · intro none
      cases none
    · rintro ⟨record, none, -⟩
      cases none
  inFlightIndex := fun _ => rfl

theorem refines (codec : RecordCodec Event Metadata Member) (visibilityTimeoutMs : Millis) :
    Machine.Refines (machine codec visibilityTimeoutMs)
      (MemoryRetryQueue.machine visibilityTimeoutMs) (Agrees codec)
      (fun keys queue => Holds codec keys queue.contents) := by
  have step : ∀ {keys : RedisRetryQueue Member} {queue : MemoryRetryQueue Event Metadata}
      {call : Call Event Metadata}, Holds codec keys queue.contents → Agrees codec queue call →
      ((machine codec visibilityTimeoutMs).step keys call).1 =
          ((MemoryRetryQueue.machine visibilityTimeoutMs).step queue call).1 ∧
        Holds codec ((machine codec visibilityTimeoutMs).step keys call).2
          ((MemoryRetryQueue.machine visibilityTimeoutMs).step queue call).2.contents := by
    intro keys queue call holds agrees
    cases call with
    | enqueue record => exact holds.enqueue record visibilityTimeoutMs
    | dequeue nowMs =>
        rcases holds.dequeue visibilityTimeoutMs agrees with ⟨same, next⟩
        exact ⟨congrArg Answer.record same, next⟩
    | ack recordId =>
        refine ⟨rfl, ?_⟩
        have acked := holds.ack recordId
        rwa [← MemoryRetryQueue.contents_ack] at acked
    | nack recordId requeueDelayMs now =>
        refine ⟨rfl, ?_⟩
        have nacked := holds.nack recordId requeueDelayMs now
        rwa [← MemoryRetryQueue.contents_nack] at nacked
    | evictNewest =>
        rcases holds.evictNewest agrees with ⟨same, next⟩
        exact ⟨congrArg Answer.record same, next⟩
    | size now => exact ⟨congrArg Answer.count holds.size, holds⟩
  exact ⟨fun holds agrees => (step holds agrees).1, fun holds agrees => (step holds agrees).2⟩

/-- Under calls that meet the condition both give the same answers, and what was
acknowledged while nothing waited under its id is not handed out before it is enqueued
again. -/
theorem answers_as_memory (codec : RecordCodec Event Metadata Member)
    (visibilityTimeoutMs : Option Millis) (calls : List (Call Event Metadata))
    (agrees : (MemoryRetryQueue.machine (visibilityTimeout visibilityTimeoutMs)).Meets
      (Agrees codec) .empty calls) :
    (machine codec (visibilityTimeout visibilityTimeoutMs)).answers .empty calls =
      (MemoryRetryQueue.machine (visibilityTimeout visibilityTimeoutMs)).answers .empty calls ∧
    ∀ front id back, calls = front ++ .ack id :: back →
      ((MemoryRetryQueue.machine (visibilityTimeout visibilityTimeoutMs)).after .empty
        front).queued.get? id = none →
      (∀ record, .enqueue record ∈ back → record.id ≠ id) →
      ∀ record, .record (some record) ∈
        (machine codec (visibilityTimeout visibilityTimeoutMs)).answers
          ((machine codec (visibilityTimeout visibilityTimeoutMs)).after .empty
            (front ++ [.ack id])) back → record.id ≠ id := by
  have refines := refines codec (visibilityTimeout visibilityTimeoutMs)
  have start : Holds codec empty
      (MemoryRetryQueue.empty : MemoryRetryQueue Event Metadata).contents := holds_empty codec
  refine ⟨refines.answers start agrees, ?_⟩
  intro front id back split unqueued unwritten record handed
  have regrouped : front ++ .ack id :: back = (front ++ [.ack id]) ++ back := by
    rw [List.append_assoc]
    rfl
  rw [split, regrouped, Machine.meets_append] at agrees
  rw [refines.answers (refines.after start agrees.1) agrees.2, Machine.after_append] at handed
  have keyed := MemoryRetryQueue.keyed_after (visibilityTimeout visibilityTimeoutMs) front
    start.keyed
  refine MemoryRetryQueue.never_handed_out _
    (MemoryRetryQueue.keyed_after _ [.ack id] keyed) ?_ ?_ _ handed record rfl
  · exact MemoryRetryQueue.absent_ack unqueued
  · intro call member
    cases call with
    | enqueue record => exact unwritten record member
    | _ => trivial

/-! ## A record that comes back -/

abbrev Fields :=
  String ×ₗ String ×ₗ ℕ ×ₗ Millis ×ₗ WithBot String ×ₗ WithBot Millis

def fieldCodec : RecordCodec Unit Empty Fields where
  stringify := fun record => toLex (record.id, toLex (record.url, toLex (record.attempt,
    toLex (record.nextRetryAt, toLex (record.lastError, record.createdAt)))))
  parse := fun fields => some {
    id := fields.1
    event := ()
    url := fields.2.1
    attempt := fields.2.2.1
    nextRetryAt := fields.2.2.2.1
    lastError := fields.2.2.2.2.1
    createdAt := fields.2.2.2.2.2
    metadata := none }
  parse_stringify := by
    rintro ⟨id, event, url, attempt, nextRetryAt, lastError, createdAt, metadata⟩
    cases metadata with
    | none => rfl
    | some metadata => cases metadata

def attemptAt (attempt : Nat) (nextRetryAt : Millis) : RetryRecord Unit Empty (Option Millis) where
  id := "retry"
  event := ()
  url := "https://example.com/hook"
  attempt := attempt
  nextRetryAt := some nextRetryAt
  lastError := none
  createdAt := none
  metadata := none

def reenqueued : List (Call Unit Empty) :=
  [.enqueue (attemptAt 2 100), .dequeue 100, .enqueue (attemptAt 3 200), .dequeue 200,
    .ack "retry", .dequeue 40000]

/-- The acknowledged record comes back, due when it was given up on. -/
theorem acknowledged_comes_back :
    ((machine fieldCodec (visibilityTimeout none)).answers .empty reenqueued).getLast? =
        some (.record (some { attemptAt 2 100 with nextRetryAt := 40000 })) ∧
      ((MemoryRetryQueue.machine (visibilityTimeout none)).answers .empty reenqueued).getLast? =
        some (.record none) := by
  decide +kernel

def settled : List (Call Unit Empty) :=
  [.enqueue (attemptAt 2 100), .dequeue 100, .nack "retry" (some 1000) 150, .size 150,
    .dequeue 1200, .dequeue 40000, .ack "retry", .evictNewest, .dequeue 90000]

theorem settled_as_memory :
    (machine fieldCodec (visibilityTimeout none)).answers .empty settled =
      (MemoryRetryQueue.machine (visibilityTimeout none)).answers .empty settled :=
  (answers_as_memory fieldCodec none settled (by decide +kernel)).1

end RedisRetryQueue

end Orbital.PulseWebhooks
