import Mathlib.Data.List.Basic
import Orbital.Foundation.Trace

/-! # The check of the network

The constructor of `EventEngine.ts` asks the RPC of an engine for its network, and
`start` compares the answer with the configured network. The answer also goes to
`SorobanRpcClient.cachedNetwork`, which all engines of the process share; `start` looks
there first. `check` and `verify` are the parts of `start` and
`runAfterNetworkVerified` that compare.
-/

namespace Orbital.PulseCore.EventEngine

open Orbital.Foundation

inductive Network
  | mainnet
  | testnet
  deriving DecidableEq

/-- `NETWORK_PASSPHRASES`. -/
def Network.passphrase : Network → String
  | .mainnet => "Public Global Stellar Network ; September 2015"
  | .testnet => "Test SDF Network ; September 2015"

structure SorobanNetworkInfo where
  passphrase : String
  protocolVersion : Option Nat
  deriving DecidableEq

/-- The promise `sorobanNetworkReady`. A failed probe resolves to `none`. -/
inductive Probe
  /-- The engine has no RPC. -/
  | absent
  | pending
  | settled (info : Option SorobanNetworkInfo)
  deriving DecidableEq

structure NetworkedEngine where
  network : Network
  probe : Probe
  isRunning : Bool
  stopGeneration : Nat
  deriving DecidableEq

inductive CheckOutcome
  /-- The subscriber is started with what is known about the network. -/
  | passed (info : Option SorobanNetworkInfo)
  /-- `start` has thrown, or a mismatch found later has stopped the engine. -/
  | rejected (actual : String)
  /-- The engine was stopped before the probe settled. -/
  | abandoned
  deriving DecidableEq

structure StartAttempt where
  engine : Nat
  cached : Option SorobanNetworkInfo
  generation : Nat
  outcome : Option CheckOutcome
  deriving DecidableEq

def CheckOutcome.succeeded : CheckOutcome → Option Bool
  | .passed _ => some true
  | .rejected _ => some false
  | .abandoned => none

def StartAttempt.succeeded (attempt : StartAttempt) : Option Bool :=
  attempt.outcome.bind CheckOutcome.succeeded

structure NetworkProcess where
  cachedNetwork : Option SorobanNetworkInfo
  engines : List NetworkedEngine
  attempts : List StartAttempt
  deriving DecidableEq

namespace NetworkProcess

def initial : NetworkProcess where
  cachedNetwork := none
  engines := []
  attempts := []

/-! ## Calls -/

def construct (process : NetworkProcess) (network : Network) (soroban : Bool) : NetworkProcess :=
  { process with
    engines := process.engines ++ [{
      network
      probe := if soroban then .pending else .absent
      isRunning := false
      stopGeneration := 0 }] }

/-- The engine's `getNetwork()` puts its answer into the cache. -/
def probeSettles (process : NetworkProcess) (index : Nat) (info : Option SorobanNetworkInfo) :
    NetworkProcess :=
  { process with
    cachedNetwork := info <|> process.cachedNetwork
    engines := process.engines.modify index fun engine => { engine with probe := .settled info } }

def check (network : Network) : Option SorobanNetworkInfo → CheckOutcome
  | none => .passed none
  | some info =>
      if info.passphrase = network.passphrase then .passed (some info)
      else .rejected info.passphrase

def rejects : CheckOutcome → Bool
  | .rejected _ => true
  | _ => false

def outcomeAtStart (engine : NetworkedEngine) : Option SorobanNetworkInfo → Option CheckOutcome
  | some info => some (check engine.network (some info))
  | none => if engine.probe = .absent then some (.passed none) else none

def start (process : NetworkProcess) (index : Nat) (engine : NetworkedEngine) : NetworkProcess :=
  if engine.isRunning then process
  else
    { process with
      engines := process.engines.modify index fun engine =>
        { engine with
          isRunning := !(outcomeAtStart engine process.cachedNetwork).any rejects }
      attempts := process.attempts ++ [{
        engine := index
        cached := process.cachedNetwork
        generation := engine.stopGeneration
        outcome := outcomeAtStart engine process.cachedNetwork }] }

def stop (process : NetworkProcess) (index : Nat) : NetworkProcess :=
  { process with
    engines := process.engines.modify index fun engine =>
      { engine with isRunning := false, stopGeneration := engine.stopGeneration + 1 } }

def settle (process : NetworkProcess) (number : Nat) (attempt : StartAttempt)
    (outcome : CheckOutcome) : NetworkProcess :=
  { process with
    attempts := process.attempts.set number { attempt with outcome := some outcome } }

/-- The callback of `runAfterNetworkVerified`. -/
def verify (process : NetworkProcess) (number : Nat) (attempt : StartAttempt)
    (engine : NetworkedEngine) (info : Option SorobanNetworkInfo) : NetworkProcess :=
  if engine.stopGeneration ≠ attempt.generation then process.settle number attempt .abandoned
  else if rejects (check engine.network info) then
    (process.settle number attempt (check engine.network info)).stop attempt.engine
  else process.settle number attempt (check engine.network info)

/-! ## Steps -/

inductive Event
  | construct (network : Network) (soroban : Bool)
  | probeSettles (index : Nat) (info : Option SorobanNetworkInfo)
  | start (index : Nat)
  | verify (number : Nat)
  | stop (index : Nat)
  | streamEnds (index : Nat)
  | setCachedNetwork (info : Option SorobanNetworkInfo)

def verifyStep (process : NetworkProcess) (number : Nat) : Option NetworkProcess :=
  match process.attempts[number]? with
  | none => none
  | some attempt =>
      match attempt.outcome, process.engines[attempt.engine]? with
      | none, some engine =>
          match engine.probe with
          | .settled info => some (process.verify number attempt engine info)
          | _ => none
      | _, _ => none

def step (process : NetworkProcess) : Event → Option NetworkProcess
  | .construct network soroban => some (process.construct network soroban)
  | .probeSettles index info =>
      if (process.engines[index]?).any fun engine => engine.probe = .pending then
        some (process.probeSettles index info)
      else none
  | .start index => (process.engines[index]?).map fun engine => process.start index engine
  | .verify number => process.verifyStep number
  | .stop index => some (process.stop index)
  | .streamEnds index =>
      some { process with
        engines := process.engines.modify index fun engine => { engine with isRunning := false } }
  | .setCachedNetwork info => some { process with cachedNetwork := info }

abbrev Run (events : List Event) (final : NetworkProcess) : Prop :=
  Trace (Takes step) initial events final

/-! ## What the outcomes rest on -/

structure Evolves (engine later : NetworkedEngine) : Prop where
  network : later.network = engine.network
  absent : engine.probe = .absent → later.probe = .absent
  settled : ∀ info, engine.probe = .settled info → later.probe = .settled info

variable {engine : NetworkedEngine} {attempt : StartAttempt} {index : Nat}

variable {later : NetworkedEngine} {change : NetworkedEngine → NetworkedEngine}
  {info : Option SorobanNetworkInfo} {number : Nat}

theorem Evolves.of_same (network : later.network = engine.network)
    (probe : later.probe = engine.probe) : Evolves engine later where
  network := network
  absent := probe.trans
  settled := fun _ => probe.trans

def Explains (engine : NetworkedEngine) (attempt : StartAttempt) : Prop :=
  match attempt.cached with
  | some info => attempt.outcome = some (check engine.network (some info))
  | none =>
      attempt.outcome = none ∨ attempt.outcome = some .abandoned ∨
        engine.probe = .absent ∧ attempt.outcome = some (.passed none) ∨
        ∃ info, engine.probe = .settled info ∧
          attempt.outcome = some (check engine.network info)

theorem Explains.evolve (explains : Explains engine attempt) (evolves : Evolves engine later) :
    Explains later attempt := by
  unfold Explains at explains ⊢
  rw [evolves.network]
  split
  · rename_i info cached
    simpa [cached] using explains
  · rename_i cached
    rw [cached] at explains
    rcases explains with waits | abandoned | ⟨absent, passed⟩ | ⟨info, settled, checked⟩
    · exact .inl waits
    · exact .inr (.inl abandoned)
    · exact .inr (.inr (.inl ⟨evolves.absent absent, passed⟩))
    · exact .inr (.inr (.inr ⟨info, evolves.settled info settled, checked⟩))

def Explained (process : NetworkProcess) : Prop :=
  ∀ attempt ∈ process.attempts, ∃ engine, process.engines[attempt.engine]? = some engine ∧
    Explains engine attempt

variable {process next : NetworkProcess}

theorem initial_explained : Explained initial :=
  fun _ member => absurd member List.not_mem_nil

theorem Explained.evolve (holds : Explained process)
    (evolve : ∀ (index : Nat) engine, process.engines[index]? = some engine →
      ∃ later, next.engines[index]? = some later ∧ Evolves engine later)
    (explained : ∀ attempt ∈ next.attempts, attempt ∉ process.attempts →
      ∃ engine, next.engines[attempt.engine]? = some engine ∧ Explains engine attempt) :
    Explained next := by
  intro attempt member
  by_cases before : attempt ∈ process.attempts
  · rcases holds attempt before with ⟨engine, found, explains⟩
    rcases evolve attempt.engine engine found with ⟨later, foundLater, evolves⟩
    exact ⟨later, foundLater, explains.evolve evolves⟩
  · exact explained attempt member before

theorem evolve_modify
    (evolves : ∀ engine, process.engines[index]? = some engine → Evolves engine (change engine))
    (other : Nat) (engine : NetworkedEngine) (found : process.engines[other]? = some engine) :
    ∃ later, (process.engines.modify index change)[other]? = some later ∧
      Evolves engine later := by
  rw [List.getElem?_modify, found]
  by_cases same : index = other
  · subst other
    exact ⟨change engine, by simp, evolves engine found⟩
  · exact ⟨engine, by simp [same], .of_same rfl rfl⟩

theorem Explained.modify (holds : Explained process)
    (evolves : ∀ engine, process.engines[index]? = some engine → Evolves engine (change engine))
    (cachedNetwork : Option SorobanNetworkInfo) :
    Explained { process with
      cachedNetwork
      engines := process.engines.modify index change } :=
  holds.evolve (evolve_modify evolves) fun _ member isNew => absurd member isNew

theorem Explained.construct (holds : Explained process) (network : Network) (soroban : Bool) :
    Explained (process.construct network soroban) := by
  refine holds.evolve ?_ fun _ member isNew => absurd member isNew
  intro index engine found
  refine ⟨engine, ?_, .of_same rfl rfl⟩
  have inside := (List.getElem?_eq_some_iff.mp found).1
  rw [NetworkProcess.construct, List.getElem?_append_left inside]
  exact found

theorem Explained.probeSettles (holds : Explained process)
    (pending : (process.engines[index]?).any (fun engine => engine.probe = .pending) = true) :
    Explained (process.probeSettles index info) := by
  apply holds.modify
  intro engine found
  have isPending : engine.probe = .pending := by simpa [found] using pending
  exact {
    network := rfl
    absent := fun absent => nomatch isPending.symm.trans absent
    settled := fun _ settled => nomatch isPending.symm.trans settled }

theorem Explained.stop (holds : Explained process) (index : Nat) :
    Explained (process.stop index) := by
  apply holds.modify
  exact fun _ _ => .of_same rfl rfl

theorem explains_start (engine : NetworkedEngine) (attempt : StartAttempt)
    (isOutcome : attempt.outcome = outcomeAtStart engine attempt.cached) :
    Explains engine attempt := by
  unfold Explains
  rw [isOutcome]
  split
  · rename_i info cached
    rw [cached]
    rfl
  · rename_i cached
    rw [cached, outcomeAtStart]
    split
    · rename_i absent
      exact .inr (.inr (.inl ⟨absent, rfl⟩))
    · exact .inl rfl

theorem Explained.start (holds : Explained process)
    (found : process.engines[index]? = some engine) : Explained (process.start index engine) := by
  rw [NetworkProcess.start]
  split
  · exact holds
  · have evolves : ∀ before, process.engines[index]? = some before →
        Evolves before { before with
          isRunning := !(outcomeAtStart before process.cachedNetwork).any rejects } :=
      fun _ _ => .of_same rfl rfl
    have evolve := evolve_modify evolves
    refine holds.evolve evolve ?_
    intro attempt member isNew
    have isLast := (List.mem_append.mp member).resolve_left isNew
    rw [List.mem_singleton.mp isLast]
    rcases evolve index engine found with ⟨later, foundLater, evolves⟩
    exact ⟨later, foundLater, (explains_start engine _ rfl).evolve evolves⟩

theorem Explained.settle (holds : Explained process) {outcome : CheckOutcome}
    (isAttempt : process.attempts[number]? = some attempt) (waits : attempt.outcome = none)
    (found : process.engines[attempt.engine]? = some engine) (isOutcome : outcome = .abandoned ∨
      ∃ info, engine.probe = .settled info ∧ outcome = check engine.network info) :
    Explained (process.settle number attempt outcome) := by
  refine holds.evolve (fun _ engine found => ⟨engine, found, .of_same rfl rfl⟩) ?_
  intro other member isNew
  rcases List.mem_or_eq_of_mem_set member with before | isSettled
  · exact absurd before isNew
  · rw [isSettled]
    refine ⟨engine, found, ?_⟩
    rcases holds attempt (List.mem_of_getElem? isAttempt) with ⟨same, foundToo, explains⟩
    cases found.symm.trans foundToo
    unfold Explains at explains ⊢
    cases cached : attempt.cached with
    | some info =>
        rw [cached] at explains
        cases waits.symm.trans explains
    | none =>
        rcases isOutcome with rfl | ⟨info, settled, rfl⟩
        · exact .inr (.inl rfl)
        · exact .inr (.inr (.inr ⟨info, settled, rfl⟩))

theorem Explained.verifyStep (holds : Explained process)
    (taken : process.verifyStep number = some next) : Explained next := by
  rw [NetworkProcess.verifyStep] at taken
  split at taken
  · cases taken
  · rename_i attempt isAttempt
    split at taken
    · rename_i engine waits found
      split at taken
      · rename_i info settled
        cases taken
        rw [verify]
        split
        · exact holds.settle isAttempt waits found (.inl rfl)
        · split
          · exact (holds.settle isAttempt waits found (.inr ⟨info, settled, rfl⟩)).stop _
          · exact holds.settle isAttempt waits found (.inr ⟨info, settled, rfl⟩)
      · cases taken
    · cases taken

theorem Explained.step (holds : Explained process) {event : Event}
    (taken : process.step event = some next) : Explained next := by
  cases event with
  | construct network soroban =>
      cases taken
      exact holds.construct network soroban
  | probeSettles index info =>
      simp only [NetworkProcess.step] at taken
      split at taken
      · rename_i pending
        cases taken
        exact holds.probeSettles pending
      · cases taken
  | start index =>
      rcases Option.map_eq_some_iff.mp taken with ⟨engine, found, rfl⟩
      exact holds.start found
  | verify number => exact holds.verifyStep taken
  | stop index =>
      cases taken
      exact holds.stop index
  | streamEnds index =>
      cases taken
      apply holds.modify
      exact fun _ _ => .of_same rfl rfl
  | setCachedNetwork info =>
      cases taken
      exact holds

/-! ## Runs -/

/-- The engine's own RPC has reported the network the engine is configured for. -/
def matchesOwn (network : Network) (report : Option SorobanNetworkInfo) : Bool :=
  report.any fun info => info.passphrase = network.passphrase

/-- The condition on the cache before `start`: it is empty, and the own probe does not
fail; or it matches the engine's network exactly if the own RPC does. -/
def seesOwn (network : Network) (report cached : Option SorobanNetworkInfo) : Bool :=
  match cached with
  | none => report.isSome
  | some info => decide (info.passphrase = network.passphrase) == matchesOwn network report

theorem succeeded_check {network : Network}
    (checked : attempt.outcome = some (check network info)) :
    attempt.succeeded = some (info.all fun info => info.passphrase = network.passphrase) := by
  rw [StartAttempt.succeeded, checked, Option.bind_some]
  cases info with
  | none => rfl
  | some info =>
      rw [check]
      split
      · rename_i same
        simp [same, CheckOutcome.succeeded]
      · rename_i different
        simp [different, CheckOutcome.succeeded]

/-- In every run a check of the network comes out as the engine's own RPC has it
exactly if the cache was empty or agreed with that RPC. -/
theorem network_check_iff (events : List Event) (final : NetworkProcess) (run : Run events final)
    (attempt : StartAttempt) (isAttempt : attempt ∈ final.attempts) (engine : NetworkedEngine)
    (isEngine : final.engines[attempt.engine]? = some engine)
    (report : Option SorobanNetworkInfo) (hasReported : engine.probe = .settled report)
    (succeeded : Bool) (isDecided : attempt.succeeded = some succeeded) :
    (succeeded = true ↔ matchesOwn engine.network report = true) ↔
      seesOwn engine.network report attempt.cached = true := by
  have explained : Explained final :=
    run.invariant (motive := Explained) (fun _ _ _ holds taken => holds.step taken)
      initial_explained
  rcases explained attempt isAttempt with ⟨same, found, explains⟩
  cases isEngine.symm.trans found
  unfold Explains at explains
  unfold seesOwn
  cases cached : attempt.cached with
  | some info =>
      rw [cached] at explains
      have decided := isDecided.symm.trans (succeeded_check explains)
      rw [Option.some.inj decided, Option.all_some, beq_iff_eq]
      exact Bool.eq_iff_iff.symm
  | none =>
      rw [cached] at explains
      rcases explains with waits | abandoned | ⟨absent, _⟩ | ⟨info, settled, checked⟩
      · rw [StartAttempt.succeeded, waits] at isDecided
        cases isDecided
      · rw [StartAttempt.succeeded, abandoned] at isDecided
        cases isDecided
      · cases hasReported.symm.trans absent
      · cases hasReported.symm.trans settled
        have decided := isDecided.symm.trans (succeeded_check checked)
        rw [Option.some.inj decided, matchesOwn]
        cases report with
        | none | some info => simp

def reports (network : Network) : Option SorobanNetworkInfo :=
  some { passphrase := network.passphrase, protocolVersion := none }

/-- Two engines start before either RPC has answered. -/
theorem network_check_iff_two_networks :
    ∃ final attempt,
      Run [.construct .mainnet true, .construct .testnet true, .start 0, .start 1,
        .probeSettles 0 (reports .mainnet), .verify 0, .probeSettles 1 (reports .testnet),
        .verify 1] final ∧
      final.attempts[1]? = some attempt ∧ attempt.succeeded = some true ∧
      matchesOwn .testnet (reports .testnet) = true := by
  have run : Run [.construct .mainnet true, .construct .testnet true, .start 0, .start 1,
      .probeSettles 0 (reports .mainnet), .verify 0, .probeSettles 1 (reports .testnet),
      .verify 1] _ := trace_of_runEvents rfl
  refine ⟨_, _, run, rfl, rfl, ?_⟩
  exact ((network_check_iff _ _ run _ (List.mem_cons_of_mem _ List.mem_cons_self) _ rfl _ rfl _
    rfl).mpr rfl).mp rfl

/-- The RPC of the first engine has answered before the second engine starts. Both RPCs
report the network of their engine. -/
theorem cache_rejects_other_network :
    ∃ final : NetworkProcess,
      Run [.construct .mainnet true, .construct .testnet true,
        .probeSettles 1 (reports .testnet), .probeSettles 0 (reports .mainnet), .start 1]
        final ∧
      (final.engines[1]?).map NetworkedEngine.probe = some (.settled (reports .testnet)) ∧
      final.attempts.map StartAttempt.outcome =
        [some (.rejected Network.mainnet.passphrase)] :=
  ⟨_, trace_of_runEvents rfl, rfl, rfl⟩

end NetworkProcess

end Orbital.PulseCore.EventEngine
