import WhisperLinux.App.Events

set_option autoImplicit false

namespace WhisperLinux.App

open Commands Transcriber

-- The threads of the app, each moving one step at a time: the coordinator (the Qt loop, which
-- is blocked while a handler waits in `join`), the segment workers, the silence timers, the
-- batch transcription threads and the audio reader, which runs the VAD callbacks.

inductive Step where
  | toggle (outcome : SpawnOutcome)
  | trayChange (change : TrayChange) (outcome : SpawnOutcome)
  | joinReturns (outcome : SpawnOutcome)
  | deliverDeferred
  | workerGet (worker : Nat)
  | dequeue (worker : Nat)
  | timeoutGet (worker : Nat)
  | process (worker : Nat) (text : List Char)
  | fire (timer : Nat) (inSpeech : Bool)
  | complete (wav : Nat) (text : List Char)
  | speechStart
  | speechEnd
  | readerEnds (stream : Nat)
  deriving DecidableEq, Repr

-- every reader still running calls `_on_audio_data`, which feeds the current VAD: the
-- session's own stream, and any earlier one that was never stopped; stream ids are taken
-- from `nextId`
def WhisperLinuxApp.capturing (app : WhisperLinuxApp) : Bool :=
  app.vad && (List.range app.nextId).any fun stream => app.streams stream == some .running

def WhisperLinuxApp.setWorker (app : WhisperLinuxApp) (worker : Nat) (pc : WorkerPc) :
    WhisperLinuxApp :=
  { app with workers := update app.workers worker (some pc) }

-- `_segment_worker_loop` reads `self._segment_queue` afresh at each `get`, and a cleared
-- attribute makes `get` raise and end the thread
def WhisperLinuxApp.step (app : WhisperLinuxApp) : Step → Option WhisperLinuxApp
  | .toggle outcome => if app.joining.isNone then some (app.toggle outcome) else none
  | .trayChange change outcome =>
    if app.joining.isNone then some (app.onTrayChange change outcome) else none
  -- `join(timeout=5)` returns once the worker has finished, and otherwise after 5 s whatever
  -- the worker is doing: inside a transcription, which may take up to 300 s, or looping in
  -- `get` on a queue whose sentinel another worker took
  | .joinReturns outcome =>
    match app.joining with
    | some joining => some (app.resume joining outcome)
    | none => none
  | .deliverDeferred =>
    match app.joining, app.deferred with
    | none, state :: rest => some ({ app with deferred := rest }.setState state)
    | _, _ => none
  | .workerGet worker =>
    if app.workers worker = some .ready then
      match app.segmentQueue with
      | some queue => some (app.setWorker worker (.blocked queue))
      | none => some (app.setWorker worker .exited)
    else none
  | .dequeue worker =>
    match app.workers worker with
    | some (.blocked queue) =>
      match app.queues queue with
      | some segment :: rest =>
        some ({ app with queues := update app.queues queue rest }.setWorker worker
          (.holding segment))
      | none :: rest =>
        some ({ app with queues := update app.queues queue rest }.setWorker worker .exited)
      | [] => none
    | _ => none
  | .timeoutGet worker =>
    match app.workers worker with
    | some (.blocked queue) =>
      if app.queues queue = [] then
        some (app.setWorker worker (if app.segmentQueue.isSome then .ready else .exited))
      else none
    | _ => none
  | .process worker text =>
    match app.workers worker with
    | some (.holding _) => some ((app.processSpeechSegment text).setWorker worker .ready)
    | _ => none
  | .fire timer inSpeech =>
    if timer ∈ app.pendingTimers then
      some ({ app with pendingTimers := app.pendingTimers.erase timer }.onSilenceTimeout inSpeech)
    else none
  | .complete wav text =>
    if wav ∈ app.batchJobs then some (app.transcribeAndInject wav text) else none
  | .speechStart => if app.capturing then some app.onSpeechStart else none
  | .speechEnd =>
    if app.capturing then some ({ app with nextId := app.nextId + 1 }.onSpeechEnd app.nextId)
    else none
  | .readerEnds stream =>
    if app.streams stream = some .running then
      some { app with streams := update app.streams stream (some .readerEnded) }
    else none

theorem step_eq_some (app next : WhisperLinuxApp) (step : Step) :
    app.step step = some next →
    match step with
    | .toggle outcome => app.joining = none ∧ next = app.toggle outcome
    | .trayChange change outcome => app.joining = none ∧ next = app.onTrayChange change outcome
    | .joinReturns outcome =>
      ∃ joining, app.joining = some joining ∧ next = app.resume joining outcome
    | .deliverDeferred =>
      ∃ state rest, app.joining = none ∧ app.deferred = state :: rest ∧
        next = { app with deferred := rest }.setState state
    | .workerGet worker =>
      app.workers worker = some .ready ∧
        next = app.setWorker worker (app.segmentQueue.elim .exited .blocked)
    | .dequeue worker =>
      ∃ queue item rest, app.workers worker = some (.blocked queue) ∧
        app.queues queue = item :: rest ∧
        next = { app with queues := update app.queues queue rest }.setWorker worker
          (item.elim .exited .holding)
    | .timeoutGet worker =>
      ∃ queue, app.workers worker = some (.blocked queue) ∧ app.queues queue = [] ∧
        next = app.setWorker worker (if app.segmentQueue.isSome then .ready else .exited)
    | .process worker text =>
      (∃ segment, app.workers worker = some (.holding segment)) ∧
        next = (app.processSpeechSegment text).setWorker worker .ready
    | .fire timer inSpeech =>
      timer ∈ app.pendingTimers ∧
        next = { app with pendingTimers := app.pendingTimers.erase timer }.onSilenceTimeout inSpeech
    | .complete wav text => wav ∈ app.batchJobs ∧ next = app.transcribeAndInject wav text
    | .speechStart => app.capturing ∧ next = app.onSpeechStart
    | .speechEnd =>
      app.capturing ∧ next = { app with nextId := app.nextId + 1 }.onSpeechEnd app.nextId
    | .readerEnds stream =>
      app.streams stream = some .running ∧
        next = { app with streams := update app.streams stream (some .readerEnded) } := by
  intro stepped
  cases step <;> simp only [WhisperLinuxApp.step] at stepped <;> repeat' split at stepped
  all_goals cases stepped
  all_goals try simp_all
  all_goals exact ⟨_, _, ⟨rfl, rfl⟩, rfl⟩

def WhisperLinuxApp.runSteps (app : WhisperLinuxApp) : List Step → Option WhisperLinuxApp
  | [] => some app
  | step :: rest => (app.step step).bind fun next => next.runSteps rest

-- listen input, batch output, chimes on
def listenBatch : Config := ⟨.listen, .batch, true, false, defaultCommands, "дуняша".data⟩

section Stale

theorem late_work_inert (app next : WhisperLinuxApp) (step : Step)
    (late : (∃ worker text, step = .process worker text) ∨
      ∃ timer inSpeech, step = .fire timer inSpeech)
    (inactive : app.state ≠ .listening ∧ app.state ≠ .dictating)
    (stepped : app.step step = some next) :
    next.state = app.state ∧ next.deferred = app.deferred ∧ next.log = app.log ∧
      next.accumulatedTexts = app.accumulatedTexts ∧ next.silenceTimer = app.silenceTimer := by
  rcases late with ⟨worker, text, rfl⟩ | ⟨timer, inSpeech, rfl⟩ <;>
    obtain ⟨-, rfl⟩ := step_eq_some app next _ stepped
  · simp [WhisperLinuxApp.setWorker, processSpeechSegment_of_inactive app text inactive]
  · rw [onSilenceTimeout_of_not_dictating { app with pendingTimers := app.pendingTimers.erase timer }
      inSpeech inactive.2]
    simp

-- an idle app whose worker still holds a segment, as after a join that timed out
def idleHoldingWorker : WhisperLinuxApp :=
  (WhisperLinuxApp.init listenBatch).setWorker 0 (.holding 0)

theorem late_work_inert_idle :
    (idleHoldingWorker.setWorker 0 .ready).state = idleHoldingWorker.state ∧
      (idleHoldingWorker.setWorker 0 .ready).deferred = idleHoldingWorker.deferred ∧
      (idleHoldingWorker.setWorker 0 .ready).log = idleHoldingWorker.log ∧
      (idleHoldingWorker.setWorker 0 .ready).accumulatedTexts =
        idleHoldingWorker.accumulatedTexts ∧
      (idleHoldingWorker.setWorker 0 .ready).silenceTimer = idleHoldingWorker.silenceTimer :=
  late_work_inert _ _ (.process 0 "дуняша".data) (.inl ⟨0, _, rfl⟩) ⟨by decide, by decide⟩ rfl

-- a worker still inside a transcription when the 5 s join expires outlives its session: the
-- next session starts, and the worker hands the old segment to it
def survivingWorker : List Step :=
  [.toggle .started, .workerGet 2, .speechEnd, .dequeue 2, .toggle .started,
    .joinReturns .started, .toggle .started, .process 2 "дуняша".data, .workerGet 2, .speechEnd,
    .dequeue 2]

set_option maxRecDepth 1000 in
theorem stale_segment_starts_dictation :
    ((WhisperLinuxApp.init listenBatch).runSteps (survivingWorker.take 7)).map
        (fun app => (app.state, app.workers 2, app.segmentWorker)) =
      some (.listening, some (.holding 3), some 6) ∧
    ((WhisperLinuxApp.init listenBatch).runSteps (survivingWorker.take 7)).map
        WhisperLinuxApp.log =
      some [.streamStart 0, .streamStop 0, .streamStart 4] ∧
    ((WhisperLinuxApp.init listenBatch).runSteps (survivingWorker.take 8)).map
        (fun app => (app.state, app.log)) =
      some (.dictating, [.streamStart 0, .streamStop 0, .streamStart 4, .startSignal]) := by
  decide

end Stale

section Sessions

-- a segment the worker holds while `_stop_listening` runs is dictated after the flush
def lateDictation : List Step :=
  [.toggle .started, .workerGet 2, .speechEnd, .dequeue 2, .process 2 "дуняша".data,
    .deliverDeferred, .workerGet 2, .speechEnd, .dequeue 2, .toggle .started,
    .process 2 "привет".data, .workerGet 2, .dequeue 2, .joinReturns .started]

set_option maxRecDepth 1000 in
theorem dictation_lost_at_stop :
    ((WhisperLinuxApp.init listenBatch).runSteps (lateDictation.take 9)).map
        (fun app => (app.state, app.workers 2)) =
      some (.dictating, some (.holding 4)) ∧
    ((WhisperLinuxApp.init listenBatch).runSteps lateDictation).map
        (fun app => (app.state, app.accumulatedTexts, app.log)) =
      some (.idle, ["привет".data], [.streamStart 0, .startSignal, .streamStop 0]) := by
  decide

-- the invariant as the specification states it: (a) IDLE has no accumulated text and no
-- pending timer, (b) text accumulates only while dictating into batch output, (c) a timer is
-- pending only while dictating in listen mode, (d) LISTENING and DICTATING have a stream
-- and a worker
def WhisperLinuxApp.sessionConsistent (app : WhisperLinuxApp) : Bool :=
  (app.state != .idle || app.accumulatedTexts.isEmpty && app.pendingTimers.isEmpty) &&
    (app.accumulatedTexts.isEmpty ||
      app.state == .dictating && app.config.outputMode == .batch) &&
    (app.pendingTimers.isEmpty || app.state == .dictating && app.config.inputMode == .listen) &&
    (!(app.state == .listening || app.state == .dictating) ||
      app.audioStream.isSome && app.segmentWorker.isSome)

set_option maxRecDepth 1000 in
theorem idle_with_pending_dictation :
    (WhisperLinuxApp.init listenBatch).sessionConsistent = true ∧
    ((WhisperLinuxApp.init listenBatch).runSteps (lateDictation.take 10)).map
        (fun app => (app.state, app.audioStream, app.sessionConsistent)) =
      some (.dictating, none, false) ∧
    ((WhisperLinuxApp.init listenBatch).runSteps lateDictation).map
        (fun app => (app.state, app.accumulatedTexts, app.pendingTimers)) =
      some (.idle, ["привет".data], [5]) ∧
    ((WhisperLinuxApp.init listenBatch).runSteps lateDictation).map
        WhisperLinuxApp.sessionConsistent =
      some false := by
  decide

-- the abandoned transcription of a hotkey recording ends a listen session it did not start,
-- and the next toggle starts a second capture next to the first
def abandonedThenListen : List Step :=
  [.toggle .started, .toggle .started, .trayChange (.input .listen) .started,
    .complete 0 "x".data, .toggle .started]

set_option maxRecDepth 1000 in
theorem two_captures_and_workers :
    ((WhisperLinuxApp.init listenBatch).runSteps survivingWorker).map
        (fun app => (app.segmentQueue, app.workers 6, app.workers 2)) =
      some (some 5, some .ready, some (.holding 7)) ∧
    ((WhisperLinuxApp.init hotkeyBatch).runSteps abandonedThenListen).map
        (fun app => (app.state, app.streams 1, app.streams 4)) =
      some (.listening, some .running, some .running) := by
  decide

end Sessions

section Reader

-- only the coordinator starts a capture: by a toggle, by a tray change, or by the tray change
-- a stop resumes after its join
def Step.mayStartCapture : Step → Bool
  | .toggle _ | .trayChange _ _ | .joinReturns _ => true
  | _ => false

theorem step_keeps_capture (app next : WhisperLinuxApp) (step : Step)
    (background : step.mayStartCapture = false) (stepped : app.step step = some next) :
    next.audioStream = app.audioStream ∧
      ∀ stream, app.streams stream ≠ some .running → next.streams stream = app.streams stream := by
  have kept : ∀ {after : WhisperLinuxApp},
      after.audioStream = app.audioStream ∧ after.streams = app.streams →
      after.audioStream = app.audioStream ∧
        ∀ stream, app.streams stream ≠ some .running → after.streams stream = app.streams stream :=
    fun same => ⟨same.1, fun _ _ => congrFun same.2 _⟩
  have ran := step_eq_some app next step stepped
  cases step with
  | toggle | trayChange | joinReturns => cases background
  | readerEnds ended =>
    obtain ⟨running, rfl⟩ := ran
    refine ⟨rfl, fun stream idle => update_other _ _ _ _ fun same => ?_⟩
    simp_all
  | process worker text =>
    obtain ⟨-, rfl⟩ := ran
    exact kept (processSpeechSegment_capture app text)
  | fire timer inSpeech =>
    obtain ⟨-, rfl⟩ := ran
    exact kept (onSilenceTimeout_capture _ inSpeech)
  | complete wav text =>
    obtain ⟨-, rfl⟩ := ran
    exact kept (transcribeAndInject_capture app wav text)
  | speechStart =>
    obtain ⟨-, rfl⟩ := ran
    exact kept (onSpeechStart_capture app)
  | speechEnd =>
    obtain ⟨-, rfl⟩ := ran
    exact kept (onSpeechEnd_capture _ app.nextId)
  | deliverDeferred =>
    obtain ⟨_, _, -, -, rfl⟩ := ran
    exact ⟨rfl, fun _ _ => rfl⟩
  | workerGet =>
    obtain ⟨-, rfl⟩ := ran
    exact ⟨rfl, fun _ _ => rfl⟩
  | dequeue =>
    obtain ⟨_, _, _, -, -, rfl⟩ := ran
    exact ⟨rfl, fun _ _ => rfl⟩
  | timeoutGet =>
    obtain ⟨_, -, -, rfl⟩ := ran
    exact ⟨rfl, fun _ _ => rfl⟩

theorem runSteps_keeps_capture (app final : WhisperLinuxApp) (steps : List Step)
    (background : ∀ step ∈ steps, step.mayStartCapture = false)
    (ran : app.runSteps steps = some final) :
    final.audioStream = app.audioStream ∧
      ∀ stream, app.streams stream ≠ some .running → final.streams stream = app.streams stream := by
  induction steps generalizing app with
  | nil =>
    cases ran
    exact ⟨rfl, fun _ _ => rfl⟩
  | cons step rest ih =>
    simp only [WhisperLinuxApp.runSteps, Option.bind_eq_some] at ran
    obtain ⟨next, stepped, ran⟩ := ran
    have first := step_keeps_capture app next step (background step (by simp)) stepped
    have later := ih next (fun step member => background step (by simp [member])) ran
    refine ⟨later.1.trans first.1, fun stream idle => ?_⟩
    have same := first.2 stream idle
    rw [later.2 stream (same ▸ idle), same]

theorem capturing_of_none_running (app : WhisperLinuxApp)
    (none : ∀ stream, app.streams stream ≠ some .running) : app.capturing = false := by
  simp [WhisperLinuxApp.capturing, none]

theorem reader_end_leaves_session (app next final : WhisperLinuxApp) (stream : Nat)
    (steps : List Step) (current : app.audioStream = some stream)
    (alone : ∀ other, other ≠ stream → app.streams other ≠ some .running)
    (ended : app.step (.readerEnds stream) = some next)
    (background : ∀ step ∈ steps, step.mayStartCapture = false)
    (ran : next.runSteps steps = some final) :
    next = { app with streams := update app.streams stream (some .readerEnded) } ∧
      final.step .speechStart = none ∧ final.step .speechEnd = none := by
  obtain ⟨-, rfl⟩ := step_eq_some app next _ ended
  have kept := runSteps_keeps_capture _ final steps background ran
  have idle : ∀ other, final.streams other ≠ some .running := by
    intro other
    by_cases same : other = stream
    · subst same
      rw [kept.2 other (by simp)]
      simp
    · have still : update app.streams stream (some .readerEnded) other ≠ some .running := by
        rw [update_other _ _ _ _ same]
        exact alone other same
      rwa [kept.2 other still]
  simp [WhisperLinuxApp.step, capturing_of_none_running final idle]

def listeningSession : WhisperLinuxApp := (WhisperLinuxApp.init listenBatch).toggle .started

theorem listeningSession_streams :
    listeningSession.streams = update (fun _ => none) 0 (some .running) := rfl

theorem reader_end_leaves_listening :
    listeningSession.audioStream = some 0 ∧
      (∀ other, other ≠ 0 → listeningSession.streams other ≠ some .running) ∧
      ({ listeningSession with streams := update listeningSession.streams 0 (some .readerEnded) } =
        { listeningSession with streams := update listeningSession.streams 0 (some .readerEnded) }) ∧
      WhisperLinuxApp.step
          { listeningSession with streams := update listeningSession.streams 0 (some .readerEnded) }
          .speechStart = none ∧
      WhisperLinuxApp.step
          { listeningSession with streams := update listeningSession.streams 0 (some .readerEnded) }
          .speechEnd = none :=
  have current : listeningSession.audioStream = some 0 := rfl
  have alone : ∀ other, other ≠ 0 → listeningSession.streams other ≠ some .running :=
    fun other different => by simp [listeningSession_streams, update, different]
  ⟨current, alone, reader_end_leaves_session listeningSession _ _ 0 [] current alone rfl (by simp) rfl⟩

-- the session outlives its reader; and when an earlier capture was never stopped, as after an
-- abandoned transcription, that reader still feeds the VAD and segments are still enqueued
theorem reader_end_keeps_listening :
    ((WhisperLinuxApp.init listenBatch).runSteps [.toggle .started, .readerEnds 0]).map
        (fun app => (app.state, app.streams 0, app.capturing)) =
      some (.listening, some .readerEnded, false) ∧
    ((WhisperLinuxApp.init hotkeyBatch).runSteps
        (abandonedThenListen ++ [.readerEnds 4, .speechStart, .speechEnd])).map
        (fun app => (app.state, app.audioStream, app.streams 4, app.queues 5)) =
      some (.listening, some 4, some .readerEnded, [some 7]) := by
  decide

end Reader

section Silence

-- the steps that leave a dictation without a pending silence timer as it is: the workers' queue
-- steps and empty transcripts, the VAD's callbacks and a reader ending; a timer cannot fire
-- with none pending
def Step.quiet : Step → Bool
  | .workerGet _ | .dequeue _ | .timeoutGet _ | .speechStart | .speechEnd | .readerEnds _
  | .fire _ _ => true
  | .process _ text => text.isEmpty
  | _ => false

theorem cancelSilenceTimer_disarmed (app : WhisperLinuxApp) (disarmed : app.pendingTimers = []) :
    app.cancelSilenceTimer.pendingTimers = [] := by
  unfold WhisperLinuxApp.cancelSilenceTimer
  split <;> simp [disarmed]

theorem quiet_step_keeps (app next : WhisperLinuxApp) (step : Step) (quiet : step.quiet = true)
    (dictating : app.state = .dictating) (disarmed : app.pendingTimers = [])
    (stepped : app.step step = some next) :
    next.state = .dictating ∧ next.pendingTimers = [] := by
  have ran := step_eq_some app next step stepped
  cases step with
  | toggle | trayChange | joinReturns | deliverDeferred | complete => cases quiet
  | workerGet =>
    obtain ⟨-, rfl⟩ := ran
    exact ⟨dictating, disarmed⟩
  | dequeue =>
    obtain ⟨_, _, _, -, -, rfl⟩ := ran
    exact ⟨dictating, disarmed⟩
  | timeoutGet =>
    obtain ⟨_, -, -, rfl⟩ := ran
    exact ⟨dictating, disarmed⟩
  | readerEnds =>
    obtain ⟨-, rfl⟩ := ran
    exact ⟨dictating, disarmed⟩
  | fire timer inSpeech =>
    obtain ⟨pending, -⟩ := ran
    simp [disarmed] at pending
  | process worker text =>
    obtain ⟨-, rfl⟩ := ran
    simp only [Step.quiet, List.isEmpty_iff] at quiet
    subst quiet
    exact ⟨dictating, disarmed⟩
  | speechStart =>
    obtain ⟨-, rfl⟩ := ran
    simp only [WhisperLinuxApp.onSpeechStart, if_pos dictating]
    exact ⟨by simp [cancelSilenceTimer_eq, dictating], cancelSilenceTimer_disarmed app disarmed⟩
  | speechEnd =>
    obtain ⟨-, rfl⟩ := ran
    simp only [WhisperLinuxApp.onSpeechEnd, if_pos dictating, putSegment_eq]
    exact ⟨by simp [cancelSilenceTimer_eq, dictating],
      cancelSilenceTimer_disarmed { app with nextId := app.nextId + 1 } disarmed⟩

theorem runSteps_quiet (app final : WhisperLinuxApp) (steps : List Step)
    (quiet : ∀ step ∈ steps, step.quiet = true) (dictating : app.state = .dictating)
    (disarmed : app.pendingTimers = []) (ran : app.runSteps steps = some final) :
    final.state = .dictating ∧ final.pendingTimers = [] := by
  induction steps generalizing app with
  | nil =>
    cases ran
    exact ⟨dictating, disarmed⟩
  | cons step rest ih =>
    simp only [WhisperLinuxApp.runSteps, Option.bind_eq_some] at ran
    obtain ⟨next, stepped, ran⟩ := ran
    obtain ⟨still, none⟩ :=
      quiet_step_keeps app next step (quiet step (.head _)) dictating disarmed stepped
    exact ih next (fun step member => quiet step (.tail _ member)) still none ran

-- `_on_speech_end` cancels the armed silence timer, and `_process_speech_segment` returns on an
-- empty transcript before `_reset_silence_timer`: DICTATING goes on with no timer to end it
theorem empty_transcript_disarms (app after : WhisperLinuxApp) (timer : Nat) (steps : List Step)
    (dictating : app.state = .dictating) (armed : app.silenceTimer = some timer)
    (pending : app.pendingTimers = [timer]) (quiet : ∀ step ∈ steps, step.quiet = true)
    (ran : app.runSteps (.speechEnd :: steps) = some after) :
    after.state = .dictating ∧ after.pendingTimers = [] ∧
      ∀ timer inSpeech, after.step (.fire timer inSpeech) = none := by
  simp only [WhisperLinuxApp.runSteps, Option.bind_eq_some] at ran
  obtain ⟨ended, speechEnded, ran⟩ := ran
  have cancelled : ended.state = .dictating ∧ ended.pendingTimers = [] := by
    obtain ⟨-, rfl⟩ := step_eq_some _ _ _ speechEnded
    simp [WhisperLinuxApp.onSpeechEnd, dictating, putSegment_eq, cancelSilenceTimer_eq, armed, pending,
      cancelled]
  obtain ⟨still, disarmed⟩ := runSteps_quiet ended after steps quiet cancelled.1 cancelled.2 ran
  refine ⟨still, disarmed, fun timer inSpeech => ?_⟩
  simp [WhisperLinuxApp.step, disarmed]

-- listen input, batch output: the wake word, then a dictated text that arms timer 5
def armedDictation : List Step :=
  [.toggle .started, .workerGet 2, .speechEnd, .dequeue 2, .process 2 "дуняша".data,
    .deliverDeferred, .workerGet 2, .speechEnd, .dequeue 2, .process 2 "привет".data]

def dictationArmed : WhisperLinuxApp :=
  ((WhisperLinuxApp.init listenBatch).runSteps armedDictation).getD
    (WhisperLinuxApp.init listenBatch)

-- a segment the transcriber turns into nothing, say a filtered hallucination
def blankSegment : List Step := [.speechEnd, .workerGet 2, .dequeue 2, .process 2 []]

def afterBlankSegment : WhisperLinuxApp := (dictationArmed.runSteps blankSegment).getD dictationArmed

set_option maxRecDepth 4000 in
theorem blank_segment_leaves_dictation :
    dictationArmed.state = .dictating ∧ dictationArmed.silenceTimer = some 5 ∧
      dictationArmed.pendingTimers = [5] ∧
      dictationArmed.runSteps blankSegment = some afterBlankSegment ∧
      afterBlankSegment.state = .dictating ∧ afterBlankSegment.pendingTimers = [] ∧
      ∀ timer inSpeech, afterBlankSegment.step (.fire timer inSpeech) = none :=
  have dictating : dictationArmed.state = .dictating := by decide
  have armed : dictationArmed.silenceTimer = some 5 := by decide
  have pending : dictationArmed.pendingTimers = [5] := by decide
  have ran : dictationArmed.runSteps blankSegment = some afterBlankSegment := rfl
  have quiet : ∀ step ∈ blankSegment.tail, step.quiet = true := by decide
  ⟨dictating, armed, pending, ran, empty_transcript_disarms _ _ 5 blankSegment.tail dictating armed pending
    quiet ran⟩

end Silence

end WhisperLinux.App
