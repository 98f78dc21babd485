import Orbital.PulseWebhooks.PrivateIp
import Orbital.PulseWebhooks.WebhookDelivery.Operations

/-! # Where an attempt connects to

The host of a URL is checked when the attempt begins, the answers of the resolver when they
come in, and `fetch` is called after both. A name is looked up again when the connection is
opened; the pinned dispatcher answers with the address that was checked.
-/

namespace Orbital.PulseWebhooks

open Foundation

variable {Event Queue : Type}

/-- The checks of `private-ip.ts`. `hostname` is `new URL(url).hostname`, if it is a URL. -/
def WebhookConfig.checked (config : WebhookConfig Event Queue)
    (hostname : String → Option String) : WebhookConfig Event Queue :=
  { config with
    hostname := fun url => (hostname url).map normalizeHostname
    isLoopbackHostname := PulseWebhooks.isLoopbackHostname
    isIpLiteral := PulseWebhooks.isIpLiteral
    isBlockedIp := isPrivateIpLiteral }

/-- The `address` next to the error of `validateResolvedHostname`. -/
def WebhookConfig.resolvedAddress (config : WebhookConfig Event Queue) (url : String)
    (addresses : Option (List String)) : Option String :=
  if (config.hostname url).any config.isIpLiteral then none
  else addresses.bind List.head?

/-- The address a connection to a host is opened to. An IP literal is connected to as it is;
a name is looked up by the pinned dispatcher, if there is one, and else by the system. -/
def connectTo (host : String) (pinned : Option String) (systemLookup : String) : String :=
  if isIpLiteral host then host else pinned.getD systemLookup

structure Connection where
  host : String
  addresses : Option (List String)
  address : String
  deriving DecidableEq

/-- A literal that was checked, or one of several answers that were all checked. -/
def Connection.Checked (connection : Connection) : Prop :=
  isPrivateIpLiteral connection.address = false ∧
    if isIpLiteral connection.host then connection.address = connection.host
    else ∃ addresses, connection.addresses = some addresses ∧
      connection.address ∈ addresses ∧
      ∀ address ∈ addresses, isPrivateIpLiteral address = false

namespace WebhookDelivery

variable (config : WebhookConfig Event Queue) (state : WebhookDelivery Event Queue)

/-- The connection that a step opens: an attempt that goes on behind its lookup and calls
`fetch`. -/
def connection (systemLookup : String) : DeliveryEvent Event → Option Connection
  | .resume index (.resolved addresses) =>
      match state.tasks[index]? with
      | some (.attempting _ job attempt .resolving) =>
          match state.continueAttempt config job attempt .resolving (.resolved addresses) with
          | some (_, .fetching) => (config.hostname job.url).map fun host =>
              { host, addresses
                address := connectTo host (config.resolvedAddress job.url addresses)
                  systemLookup }
          | _ => none
      | _ => none
  | _ => none

/-- An attempt behind `validateUrl`. -/
def Task.Validated (config : WebhookConfig Event Queue) : Task Event → Prop
  | .attempting _ job _ .validating | .attempting _ job _ .resolving =>
      config.validateUrl job.url = none
  | _ => True

/-- Every attempt that is under way has passed the check of its URL. -/
def Validated (config : WebhookConfig Event Queue) (state : WebhookDelivery Event Queue) : Prop :=
  ∀ task ∈ state.tasks, Task.Validated config task

variable {config state} {next : WebhookDelivery Event Queue}

namespace Validated

theorem of_tasks (same : next.tasks = state.tasks) (validated : Validated config state) :
    Validated config next := by
  intro task member
  rw [same] at member
  exact validated task member

theorem push {task : Task Event} (passed : Task.Validated config task)
    (validated : Validated config state) : Validated config (state.push task) := by
  intro other member
  rcases List.mem_append.mp member with old | new
  · exact validated other old
  · rw [List.mem_singleton.mp new]
    exact passed

theorem ask (call : Call (Dispatched Event) Unit) (validated : Validated config state) :
    Validated config (state.ask config call).2 := by
  apply validated.of_tasks
  rw [WebhookDelivery.ask]
  split <;> rfl

theorem doAttempt (driver : Driver Event) (job : Job Event) (attempt : Nat)
    (validated : Validated config state) :
    Validated config (state.doAttempt config driver job attempt) := by
  rw [WebhookDelivery.doAttempt]
  split
  · exact validated.push trivial
  · dsimp only
    split
    · exact push trivial (validated.of_tasks rfl)
    · rename_i passed
      apply push _ (validated.of_tasks rfl)
      split
      · exact passed
      · exact passed

theorem sendRequest (job : Job Event) (attempt : Nat) (validated : Validated config state) :
    Validated config (state.sendRequest job attempt) := by
  apply validated.of_tasks
  rw [WebhookDelivery.sendRequest]
  split <;> rfl

theorem steady (config : WebhookConfig Event Queue) :
    Steady config (Task.Validated config) (Validated config) where
  jobless := by
    intro task none
    cases task with
    | attempting driver job attempt stage => cases none
    | _ => trivial
  known := by
    intro task job _ _ other unattempted _
    cases other with
    | attempting driver job attempt stage => cases unattempted
    | _ => trivial
  push passed validated := validated.push passed
  ask call validated := validated.ask call
  emitDropped _ _ validated := validated.of_tasks rfl
  count validated := validated.of_tasks rfl
  acknowledge _ validated := validated.of_tasks rfl
  cut _ _ validated := validated.of_tasks rfl
  continueAttempt := by
    intro state driver job attempt stage continued passed validated continues
    cases continues with
    | resolves => exact validated.push passed
    | fails failure waits => exact validated.push trivial
    | sends => exact (validated.sendRequest job attempt).push trivial
    | delivers => exact push trivial (validated.of_tasks rfl)
  emitFailure _ _ _ validated := validated.of_tasks rfl
  deleteTimer _ validated := validated.of_tasks rfl
  setRetryTimer _ _ validated := validated.of_tasks rfl
  enqueued _ validated := validated.of_tasks rfl
  doAttempt driver job attempt validated := validated.doAttempt driver job attempt
  dispatched _ validated := validated.of_tasks rfl
  waits _ _ validated := validated.of_tasks rfl
  take _ validated task member := validated task (List.mem_of_mem_eraseIdx member)
  drainTimers _ validated := validated.of_tasks rfl

theorem stop (validated : Validated config state) : Validated config state.stop := by
  apply validated.of_tasks
  rw [WebhookDelivery.stop]
  split <;> rfl

theorem step {event : DeliveryEvent Event} (validated : Validated config state)
    (taken : state.step config event = some next) : Validated config next := by
  by_cases halts : event.Halts
  · cases event with
    | stopCalled =>
        cases taken
        exact validated.stop
    | watcherStopped =>
        cases taken
        exact stop (validated.of_tasks rfl)
    | restarted =>
        cases taken
        exact fun task member => absurd member List.not_mem_nil
    | _ => exact halts.elim
  · exact (steady config).step halts validated validated taken

end Validated

/-! ## Every connection -/

variable {addresses : Option (List String)} {hostname : String → Option String}

/-- What `fetch` is called behind: the answers of the resolver were not refused. -/
theorem resolved_of_fetching {job : Job Event} {attempt : Nat} {after : WebhookDelivery Event Queue}
    (continues : state.continueAttempt config job attempt .resolving (.resolved addresses) =
      some (after, .fetching)) : config.validateResolvedHostname job.url addresses = none := by
  rw [WebhookDelivery.continueAttempt] at continues
  split at continues
  · cases continues
  · split at continues
    · cases continues
    · assumption

theorem connectTo_checked {url host : String} (systemLookup : String)
    (isHost : (config.checked hostname).hostname url = some host)
    (urlPassed : (config.checked hostname).validateUrl url = none)
    (answersPassed : (config.checked hostname).validateResolvedHostname url addresses = none) :
    Connection.Checked {
      host, addresses
      address := connectTo host ((config.checked hostname).resolvedAddress url addresses)
        systemLookup } := by
  rw [WebhookConfig.validateUrl, isHost] at urlPassed
  rw [WebhookConfig.validateResolvedHostname.eq_def, isHost, Option.any_some] at answersPassed
  have literal : (config.checked hostname).isIpLiteral = isIpLiteral := rfl
  have blocked : (config.checked hostname).isBlockedIp = isPrivateIpLiteral := rfl
  rw [literal, blocked] at answersPassed
  rw [WebhookConfig.resolvedAddress, isHost, Option.any_some, literal, connectTo]
  by_cases isLiteral : isIpLiteral host = true
  · have allowed : isPrivateIpLiteral host = false := by
      dsimp only at urlPassed
      split at urlPassed
      · cases urlPassed
      · rename_i unblocked
        rw [blocked, Bool.or_eq_true, not_or] at unblocked
        exact eq_false_of_ne_true unblocked.2
    rw [if_pos isLiteral]
    refine ⟨allowed, ?_⟩
    dsimp only
    rw [if_pos isLiteral]
  · rw [if_neg isLiteral] at answersPassed
    rw [if_neg isLiteral, if_neg isLiteral]
    cases addresses with
    | none => cases answersPassed
    | some answers =>
        cases answers with
        | nil => cases answersPassed
        | cons first others =>
            dsimp only at answersPassed
            split at answersPassed
            · cases answersPassed
            · rename_i unblocked
              have allowed :
                  ∀ address ∈ first :: others, isPrivateIpLiteral address = false := by
                intro address member
                apply eq_false_of_ne_true
                intro private'
                exact unblocked (List.any_eq_true.mpr ⟨address, member, private'⟩)
              refine ⟨allowed first List.mem_cons_self, ?_⟩
              dsimp only
              rw [if_neg isLiteral]
              exact ⟨_, rfl, List.mem_cons_self, allowed⟩

theorem connection_checked (validated : Validated (config.checked hostname) state)
    (systemLookup : String) (event : DeliveryEvent Event) :
    ∀ opened ∈ state.connection (config.checked hostname) systemLookup event,
      opened.Checked := by
  intro opened isOpened
  rw [connection.eq_def, Option.mem_def] at isOpened
  split at isOpened
  · rename_i index addresses
    split at isOpened
    · rename_i driver job attempt found
      split at isOpened
      · rename_i after continues
        rcases Option.map_eq_some_iff.mp isOpened with ⟨host, isHost, rfl⟩
        have urlPassed : (config.checked hostname).validateUrl job.url = none :=
          validated _ (List.mem_of_getElem? found)
        exact connectTo_checked systemLookup isHost urlPassed (resolved_of_fetching continues)
      · cases isOpened
    · cases isOpened
  · cases isOpened

/-- In every run, whatever the resolver answers and whenever it does: every connection is
opened to an address that is not private. -/
theorem connections_are_checked (config : WebhookConfig Event Queue)
    (hostname : String → Option String) (queue : Queue) (systemLookup : String)
    (events : List (DeliveryEvent Event)) :
    Throughout (Steps (config.checked hostname)) (initial (config.checked hostname) queue) events
      fun current event _ =>
        ∀ opened ∈ current.connection (config.checked hostname) systemLookup event,
          opened.Checked := by
  intro front event back current next split reached step
  have validated : Validated (config.checked hostname) current :=
    reached.invariant (fun _ _ _ validated taken => validated.step taken)
      (fun task member => absurd member List.not_mem_nil)
  exact connection_checked validated systemLookup event

/-- A name with a public address; what the system would answer later plays no part. -/
example :
    let config := (WebhookConfig.withDefaults ["hook"] 3
      (none : Option (QueueMachine Unit Unit))).checked some
    ((initial config ()).handleWatcherEvent config 0 ()).connection config "127.0.0.1"
      (.resume 0 (.resolved (some ["93.184.216.34"]))) =
        some {
          host := "hook"
          addresses := some ["93.184.216.34"]
          address := "93.184.216.34" } := by
  decide

end WebhookDelivery

end Orbital.PulseWebhooks
