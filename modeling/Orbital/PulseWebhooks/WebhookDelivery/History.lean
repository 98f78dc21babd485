import Orbital.PulseWebhooks.WebhookDelivery.Operations

/-! # What a delivery does not take back

Its operations leave the stop flags alone, and what was dispatched, delivered, dead-lettered
or enqueued stays so.
-/

namespace Orbital.PulseWebhooks

open Foundation

variable {Event Queue : Type}

namespace WebhookDelivery

structure Onward (state next : WebhookDelivery Event Queue) : Prop where
  stopped : next.stopped = state.stopped
  watcherStopped : next.watcherStopped = state.watcherStopped
  dispatched : state.dispatched ⊆ next.dispatched
  delivered : state.delivered ⊆ next.delivered
  deadLetters : state.deadLetters ⊆ next.deadLetters
  enqueued : state.enqueued ⊆ next.enqueued

namespace Onward

variable {config : WebhookConfig Event Queue} {state next : WebhookDelivery Event Queue}

theorem refl (state : WebhookDelivery Event Queue) : Onward state state where
  stopped := rfl
  watcherStopped := rfl
  dispatched := List.Subset.refl _
  delivered := List.Subset.refl _
  deadLetters := List.Subset.refl _
  enqueued := List.Subset.refl _

theorem ask (call : Call (Dispatched Event) Unit) (onward : Onward state next) :
    Onward state (next.ask config call).2 := by
  rw [WebhookDelivery.ask]
  split
  · exact onward
  · exact { onward with }

theorem deliver (job : Job Event) (attempt : Nat) (onward : Onward state next) :
    Onward state { next with delivered := next.delivered ++ [(job, attempt)] } :=
  { onward with delivered := List.subset_append_of_subset_left _ onward.delivered }

theorem emitFailure (job : Job Event) (error : String) (attempt : Nat)
    (onward : Onward state next) : Onward state (next.emitFailure job error attempt) :=
  { onward with deadLetters := List.subset_append_of_subset_left _ onward.deadLetters }

theorem emitDropped (job : Job Event) (made : Nat) (onward : Onward state next) :
    Onward state (next.emitDropped job made) :=
  { onward with deadLetters := List.subset_append_of_subset_left _ onward.deadLetters }

theorem cut (job : Job Event) (made : Nat) (onward : Onward state next) :
    Onward state (next.cut job made) :=
  { onward with }

theorem doAttempt (driver : Driver Event) (job : Job Event) (attempt : Nat)
    (onward : Onward state next) : Onward state (next.doAttempt config driver job attempt) := by
  rw [WebhookDelivery.doAttempt]
  split
  · exact { onward with }
  · dsimp only
    split
    · exact { onward with }
    · exact { onward with }

theorem sendRequest (job : Job Event) (attempt : Nat) (onward : Onward state next) :
    Onward state (next.sendRequest job attempt) := by
  rw [WebhookDelivery.sendRequest]
  split
  · exact { onward with }
  · exact { onward with }

theorem steady (config : WebhookConfig Event Queue) (state : WebhookDelivery Event Queue) :
    Steady config (fun _ => True) (Onward state) where
  jobless _ := trivial
  known _ _ _ _ _ := trivial
  push _ onward := { onward with }
  ask call onward := onward.ask call
  emitDropped job made onward := onward.emitDropped job made
  count onward := { onward with }
  acknowledge _ onward := { onward with }
  cut job made onward := onward.cut job made
  continueAttempt := by
    intro next driver job attempt stage continued _ onward continues
    cases continues with
    | resolves | fails failure waits => exact { onward with }
    | sends => exact { onward.sendRequest job attempt with }
    | delivers => exact { onward.deliver job attempt with }
  emitFailure job error attempt onward := onward.emitFailure job error attempt
  deleteTimer _ onward := { onward with }
  setRetryTimer _ _ onward := { onward with }
  enqueued _ onward :=
    { onward with enqueued := List.subset_append_of_subset_left _ onward.enqueued }
  doAttempt driver job attempt onward := onward.doAttempt driver job attempt
  dispatched _ onward :=
    { onward with dispatched := List.subset_append_of_subset_left _ onward.dispatched }
  waits _ _ onward := { onward with }
  take _ onward := { onward with }
  drainTimers _ onward := { onward with }

end Onward

theorem onward_of_step {config : WebhookConfig Event Queue}
    {state next : WebhookDelivery Event Queue} {event : DeliveryEvent Event}
    (runs : ¬ event.Halts) (taken : state.step config event = some next) :
    Onward state next :=
  (Onward.steady config state).step runs (fun _ _ => trivial) (.refl state) taken

end WebhookDelivery

end Orbital.PulseWebhooks
