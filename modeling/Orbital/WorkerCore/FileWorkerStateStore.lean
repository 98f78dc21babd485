import Orbital.AbiRegistry.HostedAbiRegistryClient
import Orbital.Foundation.Overlap
import Orbital.Foundation.WellFormedText
import Orbital.WorkerCore.WorkerStateStore

/-! # `worker-core/src/FileWorkerStateStore.ts`

The state of a worker is one file, which is named after the worker. A call reads the file,
makes a new state of what it has read, writes it to a temporary file and renames that. Other
calls go on between the read and the rename.
-/

namespace Orbital.WorkerCore.WorkerStateStore

open Foundation
open AbiRegistry (hasLoneSurrogate loneSurrogateAfter)
open AbiRegistry.HostedAbiRegistryClient (encodeUriComponent isUnreserved upperHexUnit)

namespace FileWorkerStateStore

/-! ## The name of a file -/

/-- A worker id with a lone surrogate has no file: the call rejects. -/
def safeFilename (workerId : JsString) : Option JsString :=
  (encodeUriComponent workerId).map fun encoded => encoded ++ js ".json"

theorem wellFormed_of_surrogates {text : JsString} (paired : hasLoneSurrogate text = false) :
    WellFormed text := by
  rw [hasLoneSurrogate] at paired
  induction text using List.twoStepInduction with
  | nil => exact .nil
  | singleton unit =>
      rw [loneSurrogateAfter, Bool.or_eq_false_iff, Bool.or_eq_false_iff] at paired
      exact .cons (by simpa using paired.1.1) (by simpa using paired.1.2) .nil
  | cons_cons unit next rest induction inductionToo =>
      rw [loneSurrogateAfter, Bool.or_eq_false_iff, Bool.or_eq_false_iff] at paired
      rcases paired with ⟨⟨highs, lows⟩, inRest⟩
      cases isHigh : unit.isHighSurrogate with
      | true =>
          have isLow : next.isLowSurrogate = true := by
            rw [isHigh] at highs
            simpa using highs
          have notHigh : next.isHighSurrogate = false := by
            rw [CodeUnit.isLowSurrogate, Bool.and_eq_true, decide_eq_true_eq,
              decide_eq_true_eq] at isLow
            rw [CodeUnit.isHighSurrogate, Bool.and_eq_false_iff, decide_eq_false_iff_not,
              decide_eq_false_iff_not]
            omega
          rw [isHigh, loneSurrogateAfter, notHigh, Bool.or_eq_false_iff] at inRest
          exact .pair isHigh isLow (induction inRest.2)
      | false =>
          rw [isHigh] at inRest
          exact .cons isHigh (by simpa using lows) (inductionToo next inRest)

def component (byte : UInt8) : JsString :=
  if isUnreserved byte then [UInt16.ofNat byte.toNat]
  else [0x25, upperHexUnit (byte.toNat / 16), upperHexUnit (byte.toNat % 16)]

theorem upperHexUnit_injective {first second : Nat} (small : first < 16) (smallToo : second < 16)
    (same : upperHexUnit first = upperHexUnit second) : first = second := by
  have digits : ∀ first second : Fin 16,
      upperHexUnit first = upperHexUnit second → first = second := by decide
  exact congrArg Fin.val (digits ⟨first, small⟩ ⟨second, smallToo⟩ same)

variable {first second : UInt8}

theorem unit_injective (same : UInt16.ofNat first.toNat = UInt16.ofNat second.toNat) :
    first = second := by
  have bound := UInt8.toNat_lt first
  have boundToo := UInt8.toNat_lt second
  have codes := congrArg UInt16.toNat same
  rw [UInt16.toNat_ofNat', UInt16.toNat_ofNat', Nat.mod_eq_of_lt (by omega),
    Nat.mod_eq_of_lt (by omega)] at codes
  exact UInt8.toNat_inj.mp codes

theorem component_injective {front back : JsString}
    (same : component first ++ front = component second ++ back) :
    first = second ∧ front = back := by
  have bound := UInt8.toNat_lt first
  have boundToo := UInt8.toNat_lt second
  have percent : ∀ byte : UInt8, isUnreserved byte = true → UInt16.ofNat byte.toNat ≠ 0x25 := by
    intro byte unreserved isPercent
    have isByte : byte = 0x25 := unit_injective isPercent
    rw [isByte] at unreserved
    revert unreserved
    decide
  rw [component, component] at same
  by_cases unreserved : isUnreserved first = true
  · rw [if_pos unreserved] at same
    by_cases unreservedToo : isUnreserved second = true
    · rw [if_pos unreservedToo] at same
      exact ⟨unit_injective (List.cons.inj same).1, (List.cons.inj same).2⟩
    · rw [if_neg unreservedToo] at same
      exact absurd (List.cons.inj same).1 (percent first unreserved)
  · rw [if_neg unreserved] at same
    by_cases unreservedToo : isUnreserved second = true
    · rw [if_pos unreservedToo] at same
      exact absurd (List.cons.inj same).1.symm (percent second unreservedToo)
    · rw [if_neg unreservedToo] at same
      rcases List.cons.inj (List.cons.inj same).2 with ⟨high, rest⟩
      rcases List.cons.inj rest with ⟨low, tails⟩
      have highs := upperHexUnit_injective (by omega) (by omega) high
      have lows := upperHexUnit_injective (by omega) (by omega) low
      refine ⟨UInt8.toNat_inj.mp ?_, tails⟩
      omega

theorem flatMap_component_injective {first second : Bytes}
    (same : first.flatMap component = second.flatMap component) : first = second := by
  have isCons : ∀ byte rest, component byte ++ rest ≠ [] := by
    intro byte rest
    rw [component]
    split <;> simp
  induction first generalizing second with
  | nil =>
      cases second with
      | nil => rfl
      | cons byte rest => exact absurd same.symm (isCons byte _)
  | cons byte rest induction =>
      cases second with
      | nil => exact absurd same (isCons byte _)
      | cons other others =>
          rcases component_injective same with ⟨rfl, tails⟩
          rw [induction tails]

theorem safeFilename_injective {first second file : JsString}
    (name : safeFilename first = some file) (nameToo : safeFilename second = some file) :
    first = second := by
  have encoded : ∀ {workerId : JsString}, safeFilename workerId = some file →
      hasLoneSurrogate workerId = false ∧
        file = (utf8 workerId).flatMap component ++ js ".json" := by
    intro workerId isName
    rw [safeFilename, encodeUriComponent] at isName
    split at isName
    · cases isName
    · rename_i paired
      exact ⟨by simpa using paired, (Option.some.inj isName).symm⟩
  rcases encoded name with ⟨paired, text⟩
  rcases encoded nameToo with ⟨pairedToo, textToo⟩
  have bytes := flatMap_component_injective (List.append_cancel_right (text.symm.trans textToo))
  exact WellFormed.utf8_inj (wellFormed_of_surrogates paired) (wellFormed_of_surrogates pairedToo)
    bytes

/-! ## The calls -/

/-- What the calls share: the files by their names. The calls whose states were renamed to
their files are the history of the run, which no branch reads. -/
structure Disk where
  directory : InsertionMap JsString WorkerState
  renamed : List Call

inductive Outcome
  | resolves (now : JsString)
  | rejects

inductive Response
  | returns (state : WorkerState)
  | saves (state : WorkerState)
  | throws (error : StoreError)

/-- Where a call is: it waits for the read, or for all that ends with the rename. -/
inductive Phase
  | reading (file : JsString)
  | saving (file : JsString) (existing : Option WorkerState) (state : WorkerState)
  | saved (state : WorkerState)
  | resolved (state : WorkerState)
  | rejected

open MemoryWorkerStateStore (registered withRecord withClaim withoutClaim) in
def respond (now : JsString) : Call → Option WorkerState → Response
  | .registerWorker _ _ _, some existing => .returns existing
  | .registerWorker workerId registeredAt metadata, none =>
      .saves (registered now workerId registeredAt metadata)
  | .appendFireRecord _ record, some existing =>
      .saves { withRecord record existing with updatedAt := now }
  | .writeClaim _ claim, some existing =>
      .saves { withClaim claim existing with updatedAt := now }
  | .releaseClaim _ windowId, some existing =>
      .saves { withoutClaim windowId existing with updatedAt := now }
  | call, none => .throws (.notRegistered call.workerId)

def start (disk : Disk) (call : Call) : Disk × Phase :=
  match safeFilename call.workerId with
  | some file => (disk, .reading file)
  | none => (disk, .rejected)

def Disk.rename (disk : Disk) (file : JsString) (call : Call) (state : WorkerState) : Disk where
  directory := disk.directory.set file state
  renamed := disk.renamed ++ [call]

def proceed (disk : Disk) (call : Call) : Phase → Outcome → Option (Disk × Phase)
  | .reading file, .resolves now =>
      let existing := disk.directory.get? file
      match respond now call existing with
      | .returns state => some (disk, .resolved state)
      | .saves state => some (disk, .saving file existing state)
      | .throws _ => some (disk, .rejected)
  | .saving file _ state, .resolves _ => some (disk.rename file call state, .saved state)
  | .reading _, .rejects => some (disk, .rejected)
  | .saving _ _ _, .rejects => some (disk, .rejected)
  | .saved state, _ => some (disk, .resolved state)
  | .resolved _, _ | .rejected, _ => none

def tasks : Tasks Disk Call Phase Outcome Empty where
  start := start
  proceed := proceed
  change := fun disk _ => disk

abbrev State := Overlap Disk Call Phase

abbrev Event := Tasks.Event Call Outcome Empty

def opened (directory : InsertionMap JsString WorkerState) : State :=
  Tasks.opened ⟨directory, []⟩

end FileWorkerStateStore

end Orbital.WorkerCore.WorkerStateStore

/-! ## What state files keep

Of the calls that have resolved, a file keeps every fire record once, and every claim that was
written and neither replaced nor released since, as long as no call renames a state that it
made without having read them.
-/

namespace Orbital.WorkerCore.WorkerStateStore

open Foundation

namespace Call

def changes : Call → Bool
  | registerWorker _ _ _ => false
  | appendFireRecord _ _ | writeClaim _ _ | releaseClaim _ _ => true

def window? : Call → Option JsString
  | registerWorker _ _ _ | appendFireRecord _ _ => none
  | writeClaim _ claim => some claim.windowId
  | releaseClaim _ windowId => some windowId

def record? (workerId : JsString) : Call → Option WorkerFireRecord
  | registerWorker _ _ _ => none
  | appendFireRecord other record => if other = workerId then some record else none
  | writeClaim _ _ | releaseClaim _ _ => none

end Call

def recordsOf (workerId : JsString) (calls : List Call) : List WorkerFireRecord :=
  calls.filterMap (Call.record? workerId)

def Standing (renamed : List Call) (workerId : JsString) (claim : WorkerClaimRecord) : Prop :=
  ∃ front back, renamed = front ++ .writeClaim workerId claim :: back ∧
    ∀ later ∈ back, later.workerId = workerId → later.window? ≠ some claim.windowId

namespace FileWorkerStateStore

def historyOf (state : Option WorkerState) : List WorkerFireRecord :=
  (state.map WorkerState.fireHistory).getD []

def claimsOf (state : Option WorkerState) : List WorkerClaimRecord :=
  (state.map WorkerState.activeClaims).getD []

def Phase.state? : Phase → Option WorkerState
  | .reading _ | .saving _ _ _ => none
  | .saved state => some state
  | .resolved state => some state
  | .rejected => none

def finished (calls : List (Call × Phase)) : List Call :=
  (Machine.answered Phase.state? calls).map Prod.fst

/-- The files hold every fire record of the calls that have finished once, behind those they
held before, and every claim that stands. -/
structure Kept (directory : InsertionMap JsString WorkerState) (current : State) : Prop where
  history : ∀ {workerId file : JsString}, safeFilename workerId = some file →
    (historyOf (current.shared.directory.get? file)).Perm
      (historyOf (directory.get? file) ++ recordsOf workerId (finished current.calls))
  claims : ∀ {workerId file : JsString} {claim : WorkerClaimRecord},
    safeFilename workerId = some file → Standing current.shared.renamed workerId claim →
      claim ∈ claimsOf (current.shared.directory.get? file)
  renamed : (current.shared.renamed.filter Call.changes).Perm
    ((finished current.calls).filter Call.changes)

def Phase.Ended : Phase → Prop
  | .reading _ | .saving _ _ _ | .saved _ => False
  | .resolved _ | .rejected => True

/-- A call has read all that its file must not lose: the history, and every claim that stands,
but for that of the call's own window. -/
structure HasRead (disk : Disk) (file : JsString) (call : Call) (existing : Option WorkerState) :
    Prop where
  history : (historyOf existing).Perm (historyOf (disk.directory.get? file))
  claims : ∀ claim, Standing disk.renamed call.workerId claim →
    call.window? ≠ some claim.windowId → claim ∈ claimsOf existing

/-- No call renames what it made without having read all that the file must not lose. -/
def Undisturbed (current : State) : Event → Prop
  | .proceed index (.resolves _) =>
      ∀ call file existing state, current.calls[index]? = some (call, .saving file existing state) →
        HasRead current.shared file call existing
  | _ => True

/-! ## One rename -/

variable {now : JsString} {call : Call} {existing : Option WorkerState} {state : WorkerState}

theorem respond_returns (returns : respond now call existing = .returns state) :
    call.changes = false := by
  cases call with
  | registerWorker workerId registeredAt metadata => rfl
  | appendFireRecord workerId record | writeClaim workerId claim | releaseClaim workerId windowId =>
      cases existing <;> cases returns

theorem respond_history (saves : respond now call existing = .saves state) :
    state.fireHistory = historyOf existing ++ recordsOf call.workerId [call] := by
  cases call with
  | registerWorker workerId registeredAt metadata =>
      cases existing with
      | none =>
          cases saves
          rfl
      | some existing => cases saves
  | appendFireRecord workerId record =>
      cases existing with
      | none => cases saves
      | some existing =>
          cases saves
          simp [recordsOf, Call.record?, Call.workerId, historyOf,
            MemoryWorkerStateStore.withRecord]
  | writeClaim workerId claim | releaseClaim workerId windowId =>
      cases existing with
      | none => cases saves
      | some existing =>
          cases saves
          exact (List.append_nil _).symm

variable {claim : WorkerClaimRecord} {workerId : JsString} {disk : Disk}

theorem respond_claims (saves : respond now call existing = .saves state)
    (other : call.window? ≠ some claim.windowId) :
    claim ∈ state.activeClaims ↔ claim ∈ claimsOf existing := by
  cases call with
  | registerWorker workerId registeredAt metadata =>
      cases existing with
      | none =>
          cases saves
          rfl
      | some existing => cases saves
  | appendFireRecord workerId record =>
      cases existing with
      | none => cases saves
      | some existing =>
          cases saves
          rfl
  | writeClaim workerId written =>
      cases existing with
      | none => cases saves
      | some existing =>
          cases saves
          have different : written.windowId ≠ claim.windowId := fun same =>
            other (congrArg some same)
          show claim ∈ existing.activeClaims.filter (·.windowId ≠ written.windowId) ++ [written] ↔
            claim ∈ existing.activeClaims
          rw [List.mem_append, List.mem_filter, List.mem_singleton, decide_eq_true_iff]
          constructor
          · rintro (⟨inside, _⟩ | rfl)
            · exact inside
            · exact absurd rfl different
          · exact fun inside => Or.inl ⟨inside, different.symm⟩
  | releaseClaim workerId windowId =>
      cases existing with
      | none => cases saves
      | some existing =>
          cases saves
          have different : windowId ≠ claim.windowId := fun same => other (congrArg some same)
          show claim ∈ existing.activeClaims.filter (·.windowId ≠ windowId) ↔
            claim ∈ existing.activeClaims
          rw [List.mem_filter, decide_eq_true_iff]
          exact ⟨And.left, fun inside => ⟨inside, different.symm⟩⟩

theorem respond_writeClaim
    (saves : respond now (.writeClaim workerId claim) existing = .saves state) :
    claim ∈ state.activeClaims := by
  cases existing with
  | none => cases saves
  | some existing =>
      cases saves
      exact List.mem_append_right _ List.mem_cons_self

theorem standing_append {renamed : List Call} :
    Standing (renamed ++ [call]) workerId claim ↔ call = .writeClaim workerId claim ∨
      (Standing renamed workerId claim ∧
        (call.workerId = workerId → call.window? ≠ some claim.windowId)) := by
  constructor
  · rintro ⟨front, back, split, since⟩
    rcases List.eq_nil_or_concat back with rfl | ⟨before, last, rfl⟩
    · exact Or.inl (List.singleton_inj.mp (List.append_inj' split rfl).2)
    · rw [List.concat_eq_append] at split since
      have joined : renamed ++ [call] =
          (front ++ .writeClaim workerId claim :: before) ++ [last] := by
        rw [split, List.append_assoc]
        rfl
      rcases List.append_inj' joined rfl with ⟨rfl, isLast⟩
      rw [List.singleton_inj.mp isLast]
      refine Or.inr ⟨⟨front, before, rfl, ?_⟩, ?_⟩
      · exact fun later inside => since later (List.mem_append_left _ inside)
      · exact since last (List.mem_append_right _ List.mem_cons_self)
  · rintro (rfl | ⟨⟨front, back, rfl, since⟩, apart⟩)
    · exact ⟨renamed, [], rfl, fun later never => absurd never List.not_mem_nil⟩
    · refine ⟨front, back ++ [call], by simp, ?_⟩
      intro later member
      rcases List.mem_append.mp member with inside | isLast
      · exact since later inside
      · rw [List.mem_singleton.mp isLast]
        exact apart

structure Held (directory : InsertionMap JsString WorkerState) (disk : Disk) : Prop where
  history : ∀ {workerId file : JsString}, safeFilename workerId = some file →
    (historyOf (disk.directory.get? file)).Perm
      (historyOf (directory.get? file) ++ recordsOf workerId disk.renamed)
  claims : ∀ {workerId file : JsString} {claim : WorkerClaimRecord},
    safeFilename workerId = some file → Standing disk.renamed workerId claim →
      claim ∈ claimsOf (disk.directory.get? file)

variable {directory : InsertionMap JsString WorkerState} {disk : Disk} {file : JsString}

theorem recordsOf_append (workerId : JsString) (front back : List Call) :
    recordsOf workerId (front ++ back) = recordsOf workerId front ++ recordsOf workerId back :=
  List.filterMap_append

theorem recordsOf_other (other : call.workerId ≠ workerId) : recordsOf workerId [call] = [] := by
  cases call with
  | registerWorker registered registeredAt metadata => rfl
  | appendFireRecord appended record =>
      rw [recordsOf, List.filterMap_cons_none]
      · rfl
      · exact if_neg other
  | writeClaim claimed claim | releaseClaim released windowId => rfl

theorem Held.rename (held : Held directory disk) (name : safeFilename call.workerId = some file)
    (saves : respond now call existing = .saves state) (read : HasRead disk file call existing) :
    Held directory (disk.rename file call state) where
  history := by
    intro workerId other nameToo
    rw [Disk.rename, InsertionMap.get?_set, recordsOf_append]
    by_cases same : other = file
    · subst same
      have worker := safeFilename_injective name nameToo
      subst worker
      rw [if_pos rfl, historyOf, Option.map_some, Option.getD_some, respond_history saves,
        ← List.append_assoc]
      exact (read.history.trans (held.history name)).append_right _
    · have different : call.workerId ≠ workerId := by
        intro worker
        rw [worker, nameToo] at name
        exact same (Option.some.inj name)
      rw [if_neg same, recordsOf_other different, List.append_nil]
      exact held.history nameToo
  claims := by
    intro workerId other claim nameToo stands
    rw [Disk.rename, InsertionMap.get?_set]
    rw [Disk.rename] at stands
    by_cases same : other = file
    · subst same
      have worker := safeFilename_injective name nameToo
      subst worker
      rw [if_pos rfl]
      rcases standing_append.mp stands with isWrite | ⟨stood, apart⟩
      · rw [isWrite] at saves
        exact respond_writeClaim saves
      · exact (respond_claims saves (apart rfl)).mpr (read.claims claim stood (apart rfl))
    · rw [if_neg same]
      rcases standing_append.mp stands with isWrite | ⟨stood, _⟩
      · rw [isWrite, Call.workerId, nameToo] at name
        exact absurd (Option.some.inj name) same
      · exact held.claims nameToo stood

theorem Held.not_rename (held : Held directory disk)
    (name : safeFilename call.workerId = some file)
    (saves : respond now call existing = .saves state)
    (unread : ¬ HasRead disk file call existing) :
    ¬ Held directory (disk.rename file call state) := by
  intro after
  apply unread
  constructor
  · have history := after.history name
    rw [Disk.rename, InsertionMap.get?_set_same, recordsOf_append, historyOf, Option.map_some,
      Option.getD_some, respond_history saves, ← List.append_assoc,
      List.perm_append_right_iff] at history
    exact history.trans (held.history name).symm
  · intro claim stands other
    have inside := after.claims name (standing_append.mpr (Or.inr ⟨stands, fun _ => other⟩))
    rw [Disk.rename, InsertionMap.get?_set_same] at inside
    exact (respond_claims saves other).mp inside

/-! ## Runs -/

structure Sound (current : State) : Prop where
  reading : ∀ {index : Nat} {call : Call} {file : JsString},
    current.calls[index]? = some (call, .reading file) →
      safeFilename call.workerId = some file
  saving : ∀ {index : Nat} {call : Call} {file : JsString} {existing : Option WorkerState}
    {state : WorkerState}, current.calls[index]? = some (call, .saving file existing state) →
      safeFilename call.workerId = some file ∧ ∃ now, respond now call existing = .saves state
  renamed : (current.shared.renamed.filter Call.changes).Perm
    ((finished current.calls).filter Call.changes)

theorem sound_opened (directory : InsertionMap JsString WorkerState) :
    Sound (opened directory) where
  reading := fun never => by cases never
  saving := fun never => by cases never
  renamed := .refl _

theorem recordsOf_changes (workerId : JsString) (calls : List Call) :
    recordsOf workerId (calls.filter Call.changes) = recordsOf workerId calls := by
  rw [recordsOf, recordsOf, List.filterMap_filter]
  apply List.filterMap_congr
  intro call _
  cases call with
  | registerWorker registered registeredAt metadata | appendFireRecord appended record
  | writeClaim claimed claim | releaseClaim released windowId => rfl

theorem kept_iff {current : State} (sound : Sound current) :
    Kept directory current ↔ Held directory current.shared := by
  have records : ∀ workerId, (recordsOf workerId current.shared.renamed).Perm
      (recordsOf workerId (finished current.calls)) := by
    intro workerId
    rw [← recordsOf_changes, ← recordsOf_changes workerId (finished current.calls)]
    exact sound.renamed.filterMap _
  constructor
  · intro kept
    exact ⟨fun name => (kept.history name).trans ((records _).symm.append_left _), kept.claims⟩
  · intro held
    exact ⟨fun name => (held.history name).trans ((records _).append_left _), held.claims,
      sound.renamed⟩

variable {current next : State} {event : Event} {index : Nat} {phase later : Phase}

theorem finished_set_of_same (found : current.calls[index]? = some (call, phase))
    (same : later.state? = phase.state?) :
    finished (current.calls.set index (call, later)) = finished current.calls := by
  rw [finished, finished, Machine.answered_set_of_same found same]

theorem finished_set_of_new (found : current.calls[index]? = some (call, phase))
    (waits : phase.state? = none) (ends : later.state? = some state) :
    (finished (current.calls.set index (call, later))).Perm (call :: finished current.calls) :=
  (Machine.answered_set_of_new found waits ends).map Prod.fst

theorem sound_start (sound : Sound current) (call : Call) :
    Sound ⟨(start current.shared call).1,
      current.calls ++ [(call, (start current.shared call).2)]⟩ := by
  have begins : (start current.shared call).1 = current.shared ∧
      ((start current.shared call).2 = .rejected ∨ ∃ file,
        safeFilename call.workerId = some file ∧
          (start current.shared call).2 = .reading file) := by
    rw [start]
    cases name : safeFilename call.workerId with
    | none => exact ⟨rfl, Or.inl rfl⟩
    | some file => exact ⟨rfl, Or.inr ⟨file, rfl, rfl⟩⟩
  rcases begins with ⟨disk, phase⟩
  have unfinished : (start current.shared call).2.state? = none := by
    rcases phase with phase | ⟨file, _, phase⟩
    · rw [phase]
      rfl
    · rw [phase]
      rfl
  constructor
  · intro index other file found
    rcases Tasks.found_append found with inside | ⟨_, same⟩
    · exact sound.reading inside
    · rcases Prod.mk.inj same with ⟨rfl, isReading⟩
      rcases phase with phase | ⟨named, name, phase⟩
      · rw [phase] at isReading
        cases isReading
      · rw [phase] at isReading
        cases isReading
        exact name
  · intro index other file existing state found
    rcases Tasks.found_append found with inside | ⟨_, same⟩
    · exact sound.saving inside
    · rcases Prod.mk.inj same with ⟨rfl, isSaving⟩
      rcases phase with phase | ⟨named, name, phase⟩
      · rw [phase] at isSaving
        cases isSaving
      · rw [phase] at isSaving
        cases isSaving
  · rw [disk]
    have same : finished (current.calls ++ [(call, (start current.shared call).2)]) =
        finished current.calls := by
      rw [finished, Machine.answered_append, Machine.answered_cons, unfinished, finished]
      simp [Machine.answered]
    rw [same]
    exact sound.renamed

theorem sound_moved (sound : Sound current) (reading : ∀ file, later ≠ .reading file)
    (saving : ∀ file existing state, later = .saving file existing state →
      safeFilename call.workerId = some file ∧ ∃ now, respond now call existing = .saves state)
    (renamed : (disk.renamed.filter Call.changes).Perm
      ((finished (current.calls.set index (call, later))).filter Call.changes)) :
    Sound ⟨disk, current.calls.set index (call, later)⟩ where
  reading := by
    intro place other file found
    rcases Tasks.found_set found with ⟨_, inside⟩ | ⟨_, same⟩
    · exact sound.reading inside
    · exact absurd (Prod.mk.inj same).2.symm (reading file)
  saving := by
    intro place other file existing state found
    rcases Tasks.found_set found with ⟨_, inside⟩ | ⟨_, same⟩
    · exact sound.saving inside
    · rcases Prod.mk.inj same with ⟨rfl, isSaving⟩
      exact saving file existing state isSaving.symm
  renamed := renamed

theorem sound_proceed (sound : Sound current) {outcome : Outcome}
    (found : current.calls[index]? = some (call, phase))
    (proceeds : proceed current.shared call phase outcome = some (disk, later)) :
    Sound ⟨disk, current.calls.set index (call, later)⟩ ∧
      ((disk = current.shared ∧ Undisturbed current (.proceed index outcome)) ∨
        ∃ file existing state now time,
        phase = .saving file existing state ∧ outcome = .resolves time ∧
          safeFilename call.workerId = some file ∧ respond now call existing = .saves state ∧
            disk = current.shared.rename file call state) := by
  have undisturbed : (∀ file existing state, phase ≠ .saving file existing state) →
      Undisturbed current (.proceed index outcome) := by
    intro other
    cases outcome with
    | rejects => exact trivial
    | resolves time =>
        intro callToo file existing state foundToo
        rw [found] at foundToo
        exact absurd (Prod.mk.inj (Option.some.inj foundToo)).2 (other file existing state)
  have unchanged : later.state? = phase.state? →
      (current.shared.renamed.filter Call.changes).Perm
        ((finished (current.calls.set index (call, later))).filter Call.changes) := by
    intro same
    rw [finished_set_of_same found same]
    exact sound.renamed
  cases phase with
  | reading file =>
      cases outcome with
      | rejects =>
          cases proceeds
          exact ⟨sound_moved sound (by simp) (by simp) (unchanged rfl),
            Or.inl ⟨rfl, undisturbed (by simp)⟩⟩
      | resolves now =>
          rw [proceed] at proceeds
          split at proceeds
          · rename_i state returns
            cases proceeds
            refine ⟨sound_moved sound (by simp) (by simp) ?_,
              Or.inl ⟨rfl, undisturbed (by simp)⟩⟩
            have finishes := (finished_set_of_new found rfl
              (rfl : (Phase.resolved state).state? = some state)).filter Call.changes
            rw [List.filter_cons_of_neg (by simp [respond_returns returns])] at finishes
            exact sound.renamed.trans finishes.symm
          · rename_i state saves
            cases proceeds
            refine ⟨sound_moved sound (by simp) ?_ (unchanged rfl),
            Or.inl ⟨rfl, undisturbed (by simp)⟩⟩
            intro other existing made same
            cases same
            exact ⟨sound.reading found, now, saves⟩
          · cases proceeds
            exact ⟨sound_moved sound (by simp) (by simp) (unchanged rfl),
            Or.inl ⟨rfl, undisturbed (by simp)⟩⟩
  | saving file existing state =>
      cases outcome with
      | rejects =>
          cases proceeds
          exact ⟨sound_moved sound (by simp) (by simp) (unchanged rfl), Or.inl ⟨rfl, trivial⟩⟩
      | resolves time =>
          cases proceeds
          rcases sound.saving found with ⟨name, now, saves⟩
          refine ⟨sound_moved sound (by simp) (by simp) ?_,
            Or.inr ⟨file, existing, state, now, time, rfl, rfl, name, saves, rfl⟩⟩
          have finishes := (finished_set_of_new found rfl
            (rfl : (Phase.saved state).state? = some state)).filter Call.changes
          have adds := (List.perm_append_singleton call current.shared.renamed).filter Call.changes
          refine (adds.trans ?_).trans finishes.symm
          rw [List.filter_cons, List.filter_cons]
          split
          · exact sound.renamed.cons call
          · exact sound.renamed
  | saved state =>
      cases proceeds
      exact ⟨sound_moved sound (by simp) (by simp) (unchanged rfl),
            Or.inl ⟨rfl, undisturbed (by simp)⟩⟩
  | resolved state | rejected => cases proceeds

theorem sound_moves (sound : Sound current) (moves : tasks.Moves current event next) :
    Sound next := by
  cases moves with
  | start call => exact sound_start sound call
  | proceed found proceeds => exact (sound_proceed sound found proceeds).1
  | change change => cases change

theorem held_moves (sound : Sound current) (held : Held directory current.shared)
    (moves : tasks.Moves current event next) :
    Held directory next.shared ↔ Undisturbed current event := by
  cases moves with
  | start call =>
      have same : (start current.shared call).1 = current.shared := by
        rw [start]
        split <;> rfl
      show Held directory (start current.shared call).1 ↔ True
      rw [same]
      exact iff_of_true held trivial
  | @proceed index outcome call phase later disk found proceeds =>
      rcases (sound_proceed sound found proceeds).2 with
        ⟨rfl, undisturbed⟩ | ⟨file, existing, state, now, time, rfl, rfl, name, saves, rfl⟩
      · exact iff_of_true held undisturbed
      · constructor
        · intro after other fileToo existingToo stateToo foundToo
          rw [found] at foundToo
          cases foundToo
          by_contra unread
          exact held.not_rename name saves unread after
        · intro undisturbed
          exact held.rename name saves (undisturbed call file existing state found)
  | change change => cases change

/-! ## What the files keep -/

def Phase.cut : Phase → Phase
  | .reading _ | .saving _ _ _ => .rejected
  | .saved state => .resolved state
  | .resolved state => .resolved state
  | .rejected => .rejected

theorem cut_short (current : State) :
    ∃ later final, Trace (Takes tasks.step) current later final ∧
      (∀ entry ∈ final.calls, entry.2.Ended) ∧
        ∀ directory, Kept directory final → Kept directory current := by
  have ends : ∀ (call : Call) (phase : Phase), phase.cut = phase ∨
      ∃ outcome, proceed current.shared call phase outcome = some (current.shared, phase.cut) := by
    intro call phase
    cases phase with
    | reading file | saving file existing state | saved state => exact Or.inr ⟨.rejects, rfl⟩
    | resolved state | rejected => exact Or.inl rfl
  rcases @Tasks.drives _ _ _ _ _ tasks _ _ ends current.calls with ⟨later, trace⟩
  have same : finished (current.calls.map (Prod.map id Phase.cut)) = finished current.calls := by
    rw [finished, finished, Machine.answered_map_of_same]
    intro phase
    cases phase <;> rfl
  refine ⟨later, _, trace, ?_, ?_⟩
  · intro entry member
    rcases List.mem_map.mp member with ⟨⟨call, phase⟩, _, rfl⟩
    cases phase <;> exact trivial
  · intro directory kept
    rcases kept with ⟨history, claims, renamed⟩
    rw [same] at history renamed
    exact ⟨history, claims, renamed⟩

theorem held_opened (directory : InsertionMap JsString WorkerState) :
    Held directory ⟨directory, []⟩ where
  history := by
    intro workerId file name
    rw [recordsOf, List.filterMap_nil, List.append_nil]
  claims := by
    rintro workerId file claim name ⟨front, back, never, _⟩
    cases front <;> cases never

theorem kept_run {events : List Event} {final : State}
    (trace : Trace (Guarded Undisturbed (Takes tasks.step)) (opened directory) events final) :
    Sound final ∧ Held directory final.shared := by
  refine Tasks.invariant (motive := fun current => Sound current ∧ Held directory current.shared)
    ?_ trace ⟨sound_opened directory, held_opened directory⟩
  intro current event next holds undisturbed moves
  exact ⟨sound_moves holds.1 moves, (held_moves holds.1 holds.2 moves).mpr undisturbed⟩

/-- Two workers never share a file. The files keep what they are to keep in every state that a
run reaches whose steps all meet the condition, and behind the first step that does not meet it
all calls can end so that something is lost. -/
theorem keeps_history (directory : InsertionMap JsString WorkerState) :
    (∀ {first second file : JsString}, safeFilename first = some file →
      safeFilename second = some file → first = second) ∧
    ∀ {events : List Event} {current : State},
      Trace (Guarded Undisturbed (Takes tasks.step)) (opened directory) events current →
        Kept directory current ∧
        ∀ {event : Event} {next : State}, Takes tasks.step current event next →
          ¬ Undisturbed current event →
            ∃ later final, Trace (Takes tasks.step) next later final ∧
              (∀ entry ∈ final.calls, entry.2.Ended) ∧ ¬ Kept directory final := by
  refine ⟨safeFilename_injective, ?_⟩
  intro events current trace
  rcases kept_run trace with ⟨sound, held⟩
  refine ⟨(kept_iff sound).mpr held, ?_⟩
  intro event next taken disturbed
  have moves := (Tasks.moves_iff _).mp taken
  have lost : ¬ Kept directory next := by
    rw [kept_iff (sound_moves sound moves), held_moves sound held moves]
    exact disturbed
  rcases cut_short next with ⟨later, final, rest, ended, same⟩
  exact ⟨later, final, rest, ended, fun kept => lost (same directory kept)⟩

theorem undisturbed_of_waiting {current : State} {index : Nat} {outcome : Outcome}
    {entry : Call × Phase} (found : current.calls[index]? = some entry)
    (waits : ∀ file existing state, entry.2 ≠ .saving file existing state) :
    Undisturbed current (.proceed index outcome) := by
  cases outcome with
  | rejects => trivial
  | resolves now =>
      intro call file existing state saving
      rw [found] at saving
      cases saving
      exact absurd rfl (waits file existing state)

theorem undisturbed_of_read {current : State} {index : Nat} {now file : JsString} {call : Call}
    {existing : Option WorkerState} {state : WorkerState}
    (found : current.calls[index]? = some (call, .saving file existing state))
    (last : existing = current.shared.directory.get? file)
    (claimed : ∀ other ∈ current.shared.renamed, ∀ claim,
      other = .writeClaim call.workerId claim → claim ∈ claimsOf existing) :
    Undisturbed current (.proceed index (.resolves now)) := by
  intro _ _ _ _ saving
  rw [found] at saving
  cases saving
  refine ⟨by rw [last], ?_⟩
  rintro claim ⟨front, back, renamed, -⟩ _
  refine claimed (.writeClaim call.workerId claim) ?_ claim rfl
  rw [renamed]
  exact List.mem_append_right _ List.mem_cons_self

/-- Each of three calls reads behind the rename of the one before. -/
theorem kept_in_turn : let worker := js "payroll"
    let record : WorkerFireRecord := ⟨js "09:00", js "10:00", js "09:00", .leaf .null⟩
    let claim : WorkerClaimRecord := ⟨js "w", worker, js "09:00", js "10:00"⟩
    let directory := InsertionMap.empty.set (js "payroll.json")
      (MemoryWorkerStateStore.registered (js "08:00") worker none none)
    let goOn := fun index => (Tasks.Event.proceed index (.resolves (js "09:00")) : Event)
    ∃ final, Trace (Guarded Undisturbed (Takes tasks.step)) (opened directory)
        [.start (.appendFireRecord worker record), goOn 0, goOn 0, .start (.writeClaim worker claim),
          goOn 1, goOn 0, goOn 1, .start (.appendFireRecord worker record), goOn 2, goOn 1,
          goOn 2] final ∧
      historyOf (final.shared.directory.get? (js "payroll.json")) = [record, record] ∧
        Kept directory final := by
  intro worker record claim directory goOn
  have run : ∃ final, Trace (Guarded Undisturbed (Takes tasks.step)) (opened directory)
      [.start (.appendFireRecord worker record), goOn 0, goOn 0, .start (.writeClaim worker claim),
        goOn 1, goOn 0, goOn 1, .start (.appendFireRecord worker record), goOn 2, goOn 1,
        goOn 2] final ∧
      historyOf (final.shared.directory.get? (js "payroll.json")) = [record, record] := by
    refine ⟨_, .cons ⟨trivial, rfl⟩ (.cons ⟨undisturbed_of_waiting rfl nofun, rfl⟩
      (.cons ⟨undisturbed_of_read rfl rfl nofun, rfl⟩ (.cons ⟨trivial, rfl⟩
      (.cons ⟨undisturbed_of_waiting rfl nofun, rfl⟩ (.cons ⟨undisturbed_of_waiting rfl nofun, rfl⟩
      (.cons ⟨undisturbed_of_read rfl rfl ?_, rfl⟩ (.cons ⟨trivial, rfl⟩
      (.cons ⟨undisturbed_of_waiting rfl nofun, rfl⟩ (.cons ⟨undisturbed_of_waiting rfl nofun, rfl⟩
      (.single ⟨undisturbed_of_read rfl rfl ?_, rfl⟩)))))))))), rfl⟩
    · exact List.forall_mem_singleton.mpr nofun
    · refine List.forall_mem_cons.mpr ⟨nofun, List.forall_mem_singleton.mpr ?_⟩
      intro other same
      cases same
      exact List.mem_cons_self
  rcases run with ⟨final, trace, history⟩
  exact ⟨final, trace, history, ((keeps_history directory).2 trace).1⟩

/-- Two calls that read before either renames: the second rename loses the first record. -/
theorem overlapping_appends :
    ¬ ∀ (directory : InsertionMap JsString WorkerState) (events : List Event) (final : State),
      Trace (Takes tasks.step) (opened directory) events final →
        (∀ entry ∈ final.calls, entry.2.Ended) → Kept directory final := by
  intro keeps
  let worker := js "payroll"
  let record : WorkerFireRecord := ⟨js "09:00", js "10:00", js "09:00", .leaf .null⟩
  let state := MemoryWorkerStateStore.registered (js "08:00") worker none none
  let written : WorkerState :=
    { MemoryWorkerStateStore.withRecord record state with updatedAt := js "09:00" }
  let directory : InsertionMap JsString WorkerState :=
    InsertionMap.empty.set (js "payroll.json") state
  let goOn := fun index => (Tasks.Event.proceed index (.resolves (js "09:00")) : Event)
  let events : List Event := [.start (.appendFireRecord worker record),
    .start (.appendFireRecord worker record), goOn 0, goOn 1, goOn 0, goOn 1, goOn 0, goOn 1]
  have run : ∃ final, Trace (Takes tasks.step) (opened directory) events final ∧
      final.shared.directory.get? (js "payroll.json") = some written ∧
        final.calls = List.replicate 2 (.appendFireRecord worker record, .resolved written) :=
    ⟨_, trace_of_runEvents rfl, rfl, rfl⟩
  rcases run with ⟨final, trace, file, calls⟩
  have kept := keeps directory events final trace (by
    intro entry member
    rw [calls] at member
    rw [(List.mem_replicate.mp member).2]
    exact trivial)
  have name : safeFilename worker = some (js "payroll.json") := rfl
  have history := (kept.history name).length_eq
  rw [file, calls] at history
  cases history

end FileWorkerStateStore

end Orbital.WorkerCore.WorkerStateStore
