import AxzlCore.Log.Log

/-!
# Sinks that queue

The README asks of a log that it enqueue its entries and that the queue be emptied later.  Here is what this
means for an implementation of the two virtual functions: an entry pushed stays in the queue until `Drain`.

* `QueueingSink` — such an implementation, over any type of states.
* `QueueingSink.queue_after` — calls that do not drain append their entries to the queue.
-/

set_option autoImplicit false

namespace AxzlCore

/-- An implementation of `PushEntry` and `Drain` that queues the pushed entries until `Drain`. -/
structure QueueingSink (Q : Type) where
  pushEntry : Entry → Q → Q
  drain : Q → Q
  /-- The entries waiting, oldest first. -/
  queue : Q → List Entry
  queue_pushEntry : ∀ entry q, queue (pushEntry entry q) = queue q ++ [entry]
  queue_drain : ∀ q, queue (drain q) = []

/-- The entry a call pushes. -/
def SinkCall.entry? : SinkCall → Option Entry
  | .pushEntry entry => some entry
  | .drain => none

namespace QueueingSink

variable {Q : Type} (impl : QueueingSink Q)

def perform (q : Q) : SinkCall → Q
  | .pushEntry entry => impl.pushEntry entry q
  | .drain => impl.drain q

/-- The sink after some calls. -/
def after (q : Q) (calls : List SinkCall) : Q := calls.foldl impl.perform q

/-- The plain queue. -/
def list : QueueingSink (List Entry) where
  pushEntry entry q := q ++ [entry]
  drain _ := []
  queue q := q
  queue_pushEntry _ _ := rfl
  queue_drain _ := rfl

/-- Without a call of `Drain` every entry pushed is still waiting, behind those that waited before. -/
theorem queue_after {calls : List SinkCall} (hcalls : .drain ∉ calls) (q : Q) :
    impl.queue (impl.after q calls) = impl.queue q ++ calls.filterMap SinkCall.entry? := by
  unfold after
  induction calls generalizing q with
  | nil => simp
  | cons call calls ih =>
      have hrest : .drain ∉ calls := fun hmem => hcalls (List.mem_cons_of_mem _ hmem)
      cases call with
      | pushEntry entry =>
          rw [List.foldl_cons, ih hrest, perform, impl.queue_pushEntry, List.append_assoc]
          rfl
      | drain => exact absurd List.mem_cons_self hcalls

end QueueingSink

end AxzlCore
