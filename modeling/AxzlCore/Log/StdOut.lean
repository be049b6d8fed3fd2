import AxzlCore.Library.Histories
import AxzlCore.Library.LineFormat
import AxzlCore.Library.SharedStream
import AxzlCore.Log.Queueing

/-!
# `StdOutLog` — entries on standard output

`StdOutLog::PushEntry` puts an entry on `std::cout` in four insertions, and `Drain` flushes `stdout`.  All
logs write to the one `stdout`, also those that each call of `GetLog` makes anew, and several threads may be
in `PushEntry` at once.  An insertion reaches the buffer of `stdout` in one piece; the C library passes the
buffer on whenever it likes.

* `StdOutSys`, `StdOutStep` — threads that set levels, log and drain, on any number of logs.
* `streamStep_of_step` — the system is a shared stream, whose writers are the threads.
* `stdout_accounts` — whatever the threads do, the text of each is complete and in order, and a `Drain` puts
  what is there into the file for good.
* `stdout_read_back` — if entries are pushed one at a time, the file says which they were, exactly if no
  message has a newline.
-/

set_option autoImplicit false

namespace AxzlCore

open Function Runs SharedStream

/-- `MakeStdOutLog`, which is also what `GetLog` calls. -/
def makeStdOutLog : Log := {}

/-- The insertions of `StdOutLog::PushEntry`. -/
def StdOutLog.pushEntry (entry : Entry) : List (List Char) :=
  [entry.hdr.toList, "...".toList, entry.msg.toList, "\n".toList]

/-- An entry on standard output. -/
def Entry.text (entry : Entry) : List Char := (StdOutLog.pushEntry entry).flatten

/-- `stdout` with the insertions that threads have not made yet, and the logs. -/
structure StdOutSys (T L : Type) extends SharedStream.Sys T Char where
  log : L → Log

variable {T L : Type}

def StdOutSys.init : StdOutSys T L := ⟨Sys.init, fun _ => makeStdOutLog⟩

/-- The entries the sink of a log gets from the call of a logging function. -/
def Log.pushes (log : Log) (severity : Severity) (msg : String) : List Entry :=
  ((log.write severity msg).sink.drop log.sink.length).filterMap SinkCall.entry?

/-- Calls on the logs, single insertions, and what the C library does. -/
inductive StdOutAction (T L : Type)
  | setLevel (t : T) (l : L) (level : Level)
  | write (t : T) (l : L) (severity : Severity) (msg : String)
  | insert (t : T)
  | drain (t : T) (l : L)
  | writeOut (n : Nat)

variable [DecidableEq T] [DecidableEq L]

inductive StdOutStep : StdOutSys T L → StdOutAction T L → StdOutSys T L → Prop
  | setLevel {s : StdOutSys T L} {t : T} {l : L} {level : Level} (hidle : s.pending t = []) :
      StdOutStep s (.setLevel t l level) ⟨s.toSys, update s.log l ((s.log l).setLevel level)⟩
  /-- Up to the first insertion of `PushEntry`, if the guard lets the message through. -/
  | write {s : StdOutSys T L} {t : T} {l : L} {severity : Severity} {msg : String}
      (hidle : s.pending t = []) :
      StdOutStep s (.write t l severity msg)
        ⟨s.toSys.start t (((s.log l).pushes severity msg).flatMap StdOutLog.pushEntry),
          update s.log l ((s.log l).write severity msg)⟩
  | insert {s : StdOutSys T L} {t : T} {piece : List Char} {rest : List (List Char)}
      (hpending : s.pending t = piece :: rest) :
      StdOutStep s (.insert t) ⟨s.toSys.emit t piece rest, s.log⟩
  /-- `fflush(stdout)`. -/
  | drain {s : StdOutSys T L} {t : T} {l : L} (hidle : s.pending t = []) :
      StdOutStep s (.drain t l) ⟨s.toSys.flush, update s.log l (s.log l).drain⟩
  | writeOut {s : StdOutSys T L} {n : Nat} : StdOutStep s (.writeOut n) ⟨s.toSys.writeOut n, s.log⟩

/-- The entry a transition pushes, with the thread that does: that of a message whose severity is at most
the level of the log. -/
def pushedBy (tr : Transition (StdOutSys T L) (StdOutAction T L)) : Option (T × Entry) :=
  match tr.act with
  | .write t l severity msg =>
      if severity.level ≤ (tr.pre.log l).mLevel then some (t, ⟨makeHeader severity.level, msg⟩) else none
  | _ => none

/-- The entries pushed in a run. -/
def pushed (trs : List (Transition (StdOutSys T L) (StdOutAction T L))) : List (T × Entry) :=
  trs.filterMap pushedBy

/-! ## A shared stream -/

/-- What a logging function pushes to an enabled sink. -/
theorem Log.pushes_eq {log : Log} (hskip : log.mSkipAllLogging = false) (severity : Severity)
    (msg : String) :
    log.pushes severity msg =
      if severity.level ≤ log.mLevel then [⟨makeHeader severity.level, msg⟩] else [] := by
  unfold Log.pushes
  rw [Log.write_eq_guarded, Log.guarded_sink, List.drop_left]
  by_cases hlevel : severity.level ≤ log.mLevel
  · simp [hskip, hlevel, SinkCall.entry?]
  · simp [hlevel]

/-- The system is in the middle of no entry when one is pushed. -/
def StdOutSys.OneAtATime (s : StdOutSys T L) : StdOutAction T L → Prop
  | .write _ _ _ _ => s.Quiet
  | _ => True

/-- Each step is one of the shared stream, or one that leaves it alone; threads that push their entries one
at a time are writers that wait for their turn. -/
theorem streamStep_of_step {s s' : StdOutSys T L} {a : StdOutAction T L} (hstep : StdOutStep s a s') :
    s'.toSys = s.toSys ∨
      ∃ a', Step s.toSys a' s'.toSys ∧ (s.OneAtATime a → WaitsTurn s.toSys a') := by
  cases hstep with
  | setLevel hidle => exact .inl rfl
  | write hidle => exact .inr ⟨_, .start hidle, fun hquiet => hquiet⟩
  | insert hpending => exact .inr ⟨_, .emit hpending, fun _ => trivial⟩
  | drain hidle => exact .inr ⟨_, .flush, fun _ => trivial⟩
  | writeOut => exact .inr ⟨_, .writeOut, fun _ => trivial⟩

/-! ## What the threads asked for -/

/-- What the history of a run says about the stream: its writers asked for the text of the entries pushed. -/
structure TextAsked (trs : List (Transition (StdOutSys T L) (StdOutAction T L))) (s : StdOutSys T L) :
    Prop where
  enabled : ∀ l, (s.log l).mSkipAllLogging = false
  asked : s.asked = (pushed trs).flatMap fun p => tag p.1 p.2.text

theorem textAsked_step {trs : List (Transition (StdOutSys T L) (StdOutAction T L))}
    {s s' : StdOutSys T L} {a : StdOutAction T L} (h : TextAsked trs s) (hstep : StdOutStep s a s') :
    TextAsked (trs ++ [⟨s, a, s'⟩]) s' := by
  have hlogs : ∀ (l : L) (log : Log), log.mSkipAllLogging = (s.log l).mSkipAllLogging →
      ∀ k, (update s.log l log k).mSkipAllLogging = false := by
    intro l log hlog k
    by_cases hk : k = l
    · rw [hk, update_self, hlog]
      exact h.enabled l
    · rw [update_of_ne hk]
      exact h.enabled k
  have hpushed : pushed (trs ++ [⟨s, a, s'⟩]) = pushed trs ++ (pushedBy ⟨s, a, s'⟩).toList := by
    cases hby : pushedBy ⟨s, a, s'⟩ <;> simp [pushed, hby]
  cases hstep with
  | @setLevel t l level hidle => exact ⟨hlogs l _ rfl, by rw [hpushed]; simp [pushedBy, h.asked]⟩
  | @write t l severity msg hidle =>
      refine ⟨hlogs l _ ?_, ?_⟩
      · rw [Log.write_eq_guarded]
        exact (Log.guarded_frame _ _ _).2
      · rw [hpushed, Log.pushes_eq (h.enabled l)]
        by_cases hlevel : severity.level ≤ (s.log l).mLevel
        · simp [pushedBy, Sys.start, hlevel, h.asked, Entry.text]
        · simp [pushedBy, Sys.start, hlevel, h.asked, tag]
  | insert hpending => exact ⟨h.enabled, by rw [hpushed]; simp [pushedBy, Sys.emit, h.asked]⟩
  | @drain t l hidle => exact ⟨hlogs l _ rfl, by rw [hpushed]; simp [pushedBy, Sys.flush, h.asked]⟩
  | writeOut => exact ⟨h.enabled, by rw [hpushed]; simp [pushedBy, Sys.writeOut, h.asked]⟩

theorem textAsked_of_run {trs : List (Transition (StdOutSys T L) (StdOutAction T L))}
    {s : StdOutSys T L} (hrun : Run StdOutStep StdOutSys.init trs s) : TextAsked trs s :=
  hrun.history_invariant (fun _ _ => True) (fun _ _ _ _ h _ hstep => textAsked_step h hstep)
    (fun _ _ => trivial) ⟨fun _ => rfl, rfl⟩

/-! ## Each thread alone -/

theorem accounted_of_stdOutRun {trs : List (Transition (StdOutSys T L) (StdOutAction T L))}
    {s : StdOutSys T L} (hrun : Run StdOutStep StdOutSys.init trs s) : Accounted s.toSys := by
  have hkeep : ∀ (s : StdOutSys T L) a s', Accounted s.toSys → StdOutStep s a s' → Accounted s'.toSys := by
    intro s a s' h hstep
    rcases streamStep_of_step hstep with hsame | ⟨a', hstep', -⟩
    · rw [hsame]
      exact h
    · exact accounted_step h hstep'
  exact (hrun.invariant hkeep accounted_init).1

theorem written_prefix_of_run {trs : List (Transition (StdOutSys T L) (StdOutAction T L))}
    {s s' : StdOutSys T L} (hrun : Run StdOutStep s trs s') : s.written <+: s'.written := by
  have hkeep : ∀ (s₁ : StdOutSys T L) a s₂, s.written <+: s₁.written → StdOutStep s₁ a s₂ →
      s.written <+: s₂.written := by
    intro s₁ a s₂ h hstep
    rcases streamStep_of_step hstep with hsame | ⟨a', hstep', -⟩
    · rw [hsame]
      exact h
    · exact h.trans (written_prefix_step hstep')
  exact (hrun.invariant hkeep List.prefix_rfl).1

/-- **Standard output accounts for every thread.**  In every interleaving of any number of threads on any
number of logs, the text of the entries a thread has pushed is, in order and with nothing lost or doubled,
what it has on standard output and then the insertions it has not made.  And when somebody drains a log, then
all that any thread has on standard output by then, be it in the middle of an entry, is what its text in the
file starts with from then on. -/
theorem stdout_accounts {trs : List (Transition (StdOutSys T L) (StdOutAction T L))} {s : StdOutSys T L}
    (hrun : Run StdOutStep StdOutSys.init trs s) (t : T) :
    (wordsOf t (pushed trs)).flatMap Entry.text =
        wordsOf t (s.written ++ s.buffered) ++ (s.pending t).flatten ∧
      ∀ u l s₁ trs' s', StdOutStep s (.drain u l) s₁ → Run StdOutStep s₁ trs' s' →
        wordsOf t (s.written ++ s.buffered) <+: wordsOf t s'.written := by
  have htext : (wordsOf t (pushed trs)).flatMap Entry.text =
      wordsOf t s.accepted ++ (s.pending t).flatten := by
    rw [← accounted_of_stdOutRun hrun t, (textAsked_of_run hrun).asked, wordsOf_flatMap_tag]
  refine ⟨htext, fun u l s₁ trs' s' hdrain hlater => ?_⟩
  -- the flush writes out what the stream has accepted, and nothing is taken back
  have hfile : s.accepted <+: s'.written := by
    cases hdrain with
    | drain _ => exact written_prefix_of_run hlater
  exact hfile.filterMap _

/-- Two threads log at once and their words mix, but each thread's own text is there; a third one drains while
they are at it, and what they have said so far is in the file. -/
theorem stdout_accounts_mixed :
    ∃ (trs : List (Transition (StdOutSys Nat Unit) (StdOutAction Nat Unit))) (s s₁ : StdOutSys Nat Unit),
      Run StdOutStep StdOutSys.init trs s ∧ StdOutStep s (.drain 2 ()) s₁ ∧
        (s.written ++ s.buffered).map Prod.snd = "[Error]-[Error]-...".toList ∧
        "[Error]-...a\n".toList = wordsOf 0 (s.written ++ s.buffered) ++ (s.pending 0).flatten ∧
        "[Error]-...".toList <+: wordsOf 0 s₁.written := by
  have hwrite : ∀ (s : StdOutSys Nat Unit) (t : Nat) (msg : String), s.pending t = [] →
      StdOutStep s (.write t () .error msg) _ := fun _ _ _ hidle => .write hidle
  have hrun := Run.cons (hwrite StdOutSys.init 0 "a" rfl)
    (.cons (hwrite _ 1 "b" rfl)
    (.cons (.insert (t := 0) rfl)
    (.cons (.insert (t := 1) rfl)
    (.single (.insert (t := 0) rfl)))))
  obtain ⟨htext, hfile⟩ := stdout_accounts hrun 0
  exact ⟨_, _, _, hrun, .drain rfl, rfl, htext, hfile 2 () _ [] _ (.drain rfl) (.nil _)⟩

/-! ## Entries one at a time -/

/-- The severities, as many as there are logging functions. -/
def severities : List Severity := [.trace, .debug, .info, .warn, .error, .critical]

/-- What a line of the severity starts with. -/
def Severity.start (severity : Severity) : List Char := (makeHeader severity.level).toList ++ "...".toList

/-- Reading a line. -/
def readEntry (line : List Char) : Option Entry :=
  (severities.find? fun severity => severity.start.isPrefixOf line).map fun severity =>
    ⟨makeHeader severity.level, String.ofList (line.drop severity.start.length)⟩

theorem mem_severities (severity : Severity) : severity ∈ severities := by
  cases severity <;> decide

/-- A line starts in one way only. -/
theorem start_inj_of_prefix {line : List Char} {severity severity' : Severity}
    (h : severity.start <+: line) (h' : severity'.start <+: line) : severity = severity' := by
  have hone : severity.start <+: severity'.start ∨ severity'.start <+: severity.start :=
    List.prefix_or_prefix_of_prefix h h'
  revert hone
  clear h h'
  cases severity <;> cases severity' <;> decide

theorem readEntry_eq_some (line : List Char) (entry : Entry) :
    readEntry line = some entry ↔
      line = entry.hdr.toList ++ "...".toList ++ entry.msg.toList ∧
        ∃ severity : Severity, entry.hdr = makeHeader severity.level := by
  unfold readEntry
  rw [Option.map_eq_some_iff]
  constructor
  · rintro ⟨severity, hfind, rfl⟩
    have hfirst := List.find?_some hfind
    obtain ⟨rest, rfl⟩ := List.isPrefixOf_iff_prefix.mp hfirst
    refine ⟨?_, severity, rfl⟩
    rw [List.drop_left]
    exact congrArg (severity.start ++ ·) (String.toList_ofList (l := rest)).symm
  · rintro ⟨hline, severity, hhdr⟩
    have hstart : line = severity.start ++ entry.msg.toList := by
      rw [hline, hhdr]
      rfl
    have hprefix : severity.start <+: line := ⟨_, hstart.symm⟩
    obtain ⟨found, hfound⟩ : ∃ found, severities.find? (fun k => k.start.isPrefixOf line) = some found :=
      Option.isSome_iff_exists.mp
        (List.find?_isSome.mpr ⟨severity, mem_severities severity, List.isPrefixOf_iff_prefix.mpr hprefix⟩)
    have hfirst := List.find?_some hfound
    have hsame : found = severity := start_inj_of_prefix (List.isPrefixOf_iff_prefix.mp hfirst) hprefix
    refine ⟨severity, hsame ▸ hfound, ?_⟩
    rw [hstart, List.drop_left, String.ofList_toList, ← hhdr]

/-- The format of standard output. -/
def entryFormat : LineFormat Char Entry where
  terminator := '\n'
  writeLine entry := entry.hdr.toList ++ "...".toList ++ entry.msg.toList
  readLine := readEntry
  Valid entry := ∃ severity : Severity, entry.hdr = makeHeader severity.level
  readLine_eq_some := readEntry_eq_some

theorem entryFormat_print (entries : List Entry) :
    entryFormat.print entries = entries.flatMap Entry.text := by
  unfold LineFormat.print
  congr 1
  funext entry
  simp [entryFormat, Entry.text, StdOutLog.pushEntry]

theorem newline_mem_writeLine {entry : Entry} (hvalid : entryFormat.Valid entry) :
    '\n' ∈ entryFormat.writeLine entry ↔ '\n' ∈ entry.msg.toList := by
  obtain ⟨severity, hhdr⟩ := hvalid
  have hheader : '\n' ∉ severity.start := by cases severity <;> decide
  show '\n' ∈ entry.hdr.toList ++ "...".toList ++ entry.msg.toList ↔ _
  rw [hhdr, List.mem_append]
  exact or_iff_right hheader

omit [DecidableEq T] [DecidableEq L] in
/-- What is pushed has a header of one of the six severities. -/
theorem valid_of_mem_pushed {trs : List (Transition (StdOutSys T L) (StdOutAction T L))} {p : T × Entry}
    (hp : p ∈ pushed trs) : entryFormat.Valid p.2 := by
  obtain ⟨tr, -, hby⟩ := List.mem_filterMap.mp hp
  unfold pushedBy at hby
  split at hby
  · next t l severity msg _ =>
      split at hby
      · cases hby
        exact ⟨severity, rfl⟩
      · cases hby
  · cases hby

theorem inTurn_of_stdOutRun {trs : List (Transition (StdOutSys T L) (StdOutAction T L))}
    {s : StdOutSys T L} (hrun : Run StdOutStep StdOutSys.init trs s)
    (hone : ∀ tr ∈ trs, tr.pre.OneAtATime tr.act) : InTurn s.toSys := by
  have hkeep : ∀ (s : StdOutSys T L) a s', InTurn s.toSys → s.OneAtATime a → StdOutStep s a s' →
      InTurn s'.toSys := by
    intro s a s' h hok hstep
    rcases streamStep_of_step hstep with hsame | ⟨a', hstep', hturn⟩
    · rw [hsame]
      exact h
    · exact inTurn_step h (hturn hok) hstep'
  exact (hrun.guarded_invariant _ hkeep hone inTurn_init).1

/-- **The file says what was logged.**  If entries are pushed one at a time, by any threads through any logs,
and `stdout` is drained with nobody in the middle of an entry, then the entries pushed are read back from the
file, in their order, exactly if no message has a newline. -/
theorem stdout_read_back {trs : List (Transition (StdOutSys T L) (StdOutAction T L))} {s : StdOutSys T L}
    (hrun : Run StdOutStep StdOutSys.init trs s) (hone : ∀ tr ∈ trs, tr.pre.OneAtATime tr.act)
    (hquiet : s.Quiet) (hdrained : s.buffered = []) :
    entryFormat.parse (s.written.map Prod.snd) = some ((pushed trs).map Prod.snd) ↔
      ∀ p ∈ pushed trs, '\n' ∉ p.2.msg.toList := by
  have hfile : s.written.map Prod.snd = entryFormat.print ((pushed trs).map Prod.snd) := by
    have hasked := (inTurn_of_stdOutRun hrun hone).asked_of_quiet hquiet
    rw [(textAsked_of_run hrun).asked] at hasked
    rw [entryFormat_print, ← map_snd_flatMap_tag, hasked, Sys.accepted, hdrained, List.append_nil]
  rw [hfile, LineFormat.parse_print, List.forall_mem_map]
  constructor
  · intro h p hp hmem
    exact (h p hp).2 ((newline_mem_writeLine (h p hp).1).mpr hmem)
  · intro h p hp
    have hvalid := valid_of_mem_pushed hp
    exact ⟨hvalid, fun hmem => h p hp ((newline_mem_writeLine hvalid).mp hmem)⟩

/-- Two threads in turn, on two logs, with a change of level. -/
theorem stdout_read_back_two :
    ∃ (trs : List (Transition (StdOutSys Bool Bool) (StdOutAction Bool Bool))) (s : StdOutSys Bool Bool),
      Run StdOutStep StdOutSys.init trs s ∧
        entryFormat.parse (s.written.map Prod.snd) = some [⟨"[Info]-", "up"⟩, ⟨"[Trace]-", "down"⟩] := by
  have hwrite : ∀ (s : StdOutSys Bool Bool) (t l : Bool) (severity : Severity) (msg : String),
      s.pending t = [] → StdOutStep s (.write t l severity msg) _ := fun _ _ _ _ _ hidle => .write hidle
  have hlevel : ∀ s : StdOutSys Bool Bool, s.pending true = [] →
      StdOutStep s (.setLevel true true .trace) _ := fun _ hidle => .setLevel hidle
  have hdrain : ∀ s : StdOutSys Bool Bool, s.pending true = [] →
      StdOutStep s (.drain true false) _ := fun _ hidle => .drain hidle
  have hrun := Run.cons (hwrite StdOutSys.init false false .info "up" rfl)
    (.cons (.insert (t := false) rfl)
    (.cons (.insert (t := false) rfl)
    (.cons (.insert (t := false) rfl)
    (.cons (.insert (t := false) rfl)
    (.cons (hlevel _ rfl)
    (.cons (hwrite _ true true .error "quiet" rfl)
    (.cons (hwrite _ true true .trace "down" rfl)
    (.cons (.insert (t := true) rfl)
    (.cons (.insert (t := true) rfl)
    (.cons (.insert (t := true) rfl)
    (.cons (.insert (t := true) rfl)
    (.single (hdrain _ rfl)))))))))))))
  have hquiet : ∀ s : StdOutSys Bool Bool, s.pending false = [] ∧ s.pending true = [] → s.Quiet :=
    fun s h t => by cases t; exacts [h.1, h.2]
  refine ⟨_, _, hrun, (stdout_read_back hrun ?_ (hquiet _ ⟨rfl, rfl⟩) rfl).mpr ?_⟩
  · simp only [List.forall_mem_cons]
    exact ⟨hquiet _ ⟨rfl, rfl⟩, trivial, trivial, trivial, trivial, trivial, hquiet _ ⟨rfl, rfl⟩,
      hquiet _ ⟨rfl, rfl⟩, trivial, trivial, trivial, trivial, trivial, by simp⟩
  · decide

end AxzlCore
