import AxzlCore.Error.Throw
import AxzlCore.Log.Queueing

/-!
# What is in the log when control leaves `Throw`

The README describes three policies that log the exception and flush the log before control leaves, and one
that only throws.  `Throw` writes the log in the same way under all four of them, through the guard of
`Critical`, and calls `Drain` under none.

* `throwCalls_eq` — the calls its sink receives.
* `logs_before_leaving_iff` — the policies are followed under `ThrowException` with nothing to write, and
  never else.
-/

set_option autoImplicit false

namespace AxzlCore

open Errno

/-- The calls the sink of the log has received from `Throw` at the moment control leaves. -/
def throwCalls (policy : UnrecoverableErrorPolicy) (handler : Bool) (strerror : Rc → String) (log : Log)
    (exc : Exc) : List SinkCall :=
  (axzlThrow policy handler strerror (some log) exc).2.elim [] fun log' => log'.sink.drop log.sink.length

/-- An entry that contains the text was pushed. -/
def Pushed (text : String) (calls : List SinkCall) : Prop :=
  ∃ entry, .pushEntry entry ∈ calls ∧ text.toList <:+: entry.msg.toList

/-- What the policies ask of the log, whose sink was in the state `q`: under `ThrowException` it is not
written; under the others the text of the exception has been pushed, and nothing waits in the queue. -/
def LogsBeforeLeaving {Q : Type} (impl : QueueingSink Q) (q : Q) (text : String)
    (calls : List SinkCall) : UnrecoverableErrorPolicy → Prop
  | .throwException => ∀ entry, .pushEntry entry ∉ calls
  | .logAndThrowException | .logAndCallHandler | .logAndAbort =>
      Pushed text calls ∧ impl.queue (impl.after q calls) = []

/-- `Throw` makes at most one call on the sink, and that is not `Drain`. -/
theorem throwCalls_eq (policy : UnrecoverableErrorPolicy) (handler : Bool) (strerror : Rc → String)
    (log : Log) (exc : Exc) :
    throwCalls policy handler strerror log exc =
      if log.mSkipAllLogging = false ∧ .critical ≤ log.mLevel then
        [.pushEntry ⟨"[Critical]-", "Exception! " ++ exc.what strerror⟩] else [] := by
  unfold throwCalls
  rw [axzlThrow_log]
  change (Log.guarded .critical _ log).sink.drop log.sink.length = _
  rw [Log.guarded_sink, List.drop_left]
  rfl

theorem drain_notMem_throwCalls (policy : UnrecoverableErrorPolicy) (handler : Bool)
    (strerror : Rc → String) (log : Log) (exc : Exc) :
    .drain ∉ throwCalls policy handler strerror log exc := by
  rw [throwCalls_eq]
  split
  · simp
  · simp

/-- Calls that push an entry and do not drain leave something in the queue. -/
theorem queue_ne_nil_of_pushed {Q : Type} (impl : QueueingSink Q) (q : Q) {text : String}
    {calls : List SinkCall} (hpushed : Pushed text calls) (hdrain : .drain ∉ calls) :
    impl.queue (impl.after q calls) ≠ [] := by
  obtain ⟨entry, hmem, -⟩ := hpushed
  rw [impl.queue_after hdrain]
  have hentry : entry ∈ calls.filterMap SinkCall.entry? := List.mem_filterMap.mpr ⟨_, hmem, rfl⟩
  exact List.append_ne_nil_of_right_ne_nil _ (List.ne_nil_of_mem hentry)

/-- **Exactly when `Throw` does with the log what the policy says.**  For every exception, every sink that
queues and every content of its queue, every level, and with or without a handler: under `ThrowException`
with a level below `Critical` or a disabled sink. -/
theorem logs_before_leaving_iff {Q : Type} (impl : QueueingSink Q) (q : Q)
    (policy : UnrecoverableErrorPolicy) (handler : Bool) (strerror : Rc → String) (log : Log) (exc : Exc) :
    LogsBeforeLeaving impl q (exc.what strerror) (throwCalls policy handler strerror log exc) policy ↔
      policy = .throwException ∧ (log.mSkipAllLogging = true ∨ log.mLevel < .critical) := by
  have hdrain := drain_notMem_throwCalls policy handler strerror log exc
  have hcalls := throwCalls_eq policy handler strerror log exc
  generalize throwCalls policy handler strerror log exc = calls at *
  -- what is pushed stays in the queue, so a policy that logs is never followed
  have hkept : ¬ (Pushed (exc.what strerror) calls ∧ impl.queue (impl.after q calls) = []) :=
    fun h => queue_ne_nil_of_pushed impl q h.1 hdrain h.2
  cases policy with
  | throwException =>
      rw [hcalls]
      simp only [LogsBeforeLeaving, true_and]
      by_cases hlevel : Level.critical ≤ log.mLevel
      · cases hskip : log.mSkipAllLogging with
        | true => simp
        | false => simp [hlevel]
      · exact iff_of_true (by simp [hlevel]) (.inr (not_le.mp hlevel))
  | logAndThrowException => exact iff_of_false hkept (by simp)
  | logAndCallHandler => exact iff_of_false hkept (by simp)
  | logAndAbort => exact iff_of_false hkept (by simp)

/-- A program that aborts on errors: at the level `Info` the message is not even pushed, at the level
`Critical` it is still in the queue when the program aborts.  Under `ThrowException` it is written all the
same. -/
theorem abort_loses_message :
    throwCalls .logAndAbort false (fun _ => "") { mLevel := .info } (.derived "bad_alloc" "oom") = [] ∧
      QueueingSink.list.queue (QueueingSink.list.after [] (throwCalls .logAndAbort false (fun _ => "")
        { mLevel := .critical } (.derived "bad_alloc" "oom"))) = [⟨"[Critical]-", "Exception! oom"⟩] ∧
      ¬ LogsBeforeLeaving QueueingSink.list [] "oom" (throwCalls .logAndAbort false (fun _ => "")
        { mLevel := .critical } (.derived "bad_alloc" "oom")) .logAndAbort ∧
      ¬ LogsBeforeLeaving QueueingSink.list [] "oom" (throwCalls .throwException false (fun _ => "")
        { mLevel := .critical } (.derived "bad_alloc" "oom")) .throwException := by
  refine ⟨by decide, by decide, fun hlogs => ?_, fun hsilent => ?_⟩
  · exact absurd hlogs.2 (by decide)
  · exact hsilent ⟨"[Critical]-", "Exception! oom"⟩ (by decide)

end AxzlCore
