import WhisperLinux.App.Table

set_option autoImplicit false

namespace WhisperLinux.App

open Commands Transcriber Python

-- The invariant of the coordinator between two events, and each event handled from a state
-- that keeps it: the invariant holds after it, and an event of the table follows its row.

-- what a session holds while it lasts: the VAD, the capture, the worker, and in listen mode
-- the wake detector; no recorder runs
def WhisperLinuxApp.Capturing (app : WhisperLinuxApp) : Prop :=
  app.recorderProc = false ∧ app.segmentWorker.isSome ∧ app.audioStream.isSome ∧ app.vad = true ∧
    app.wakeDetector =
      if app.config.inputMode = .listen then some (WakeWordDetector.new app.config.wakeWord)
      else none

-- the state between two events: no handler waits in a join, no `_set_state` is queued, at most
-- the timer in `_silence_timer` is pending and only while dictating in listen mode, texts
-- accumulate only while dictating in batch output, and each state holds its own resources
def WhisperLinuxApp.Coherent (app : WhisperLinuxApp) : Prop :=
  app.joining = none ∧ app.deferred = [] ∧
    (app.pendingTimers = [] ∨
      ∃ timer, app.silenceTimer = some timer ∧ app.pendingTimers = [timer]) ∧
    (app.pendingTimers ≠ [] → app.state = .dictating ∧ app.config.inputMode = .listen) ∧
    (app.accumulatedTexts ≠ [] → app.state = .dictating ∧ app.config.outputMode = .batch) ∧
    match app.state with
    | .idle | .processing =>
      app.silenceTimer = none ∧ app.segmentWorker = none ∧ app.recorderProc = false
    | .recording =>
      app.silenceTimer = none ∧ app.segmentWorker = none ∧ app.recorderProc = true ∧
        app.recorderWav.isSome ∧ app.config.inputMode = .hotkey
    | .listening => app.Capturing ∧ app.config.inputMode = .listen
    | .dictating => app.Capturing

theorem cancelled_of_coherent (app : WhisperLinuxApp) (coherent : app.Coherent) :
    cancelled app.pendingTimers app.silenceTimer = [] := by
  obtain ⟨-, -, empty | ⟨timer, armed, single⟩, -⟩ := coherent
  · cases app.silenceTimer <;> simp [cancelled, empty]
  · simp [cancelled, armed, single]

theorem settle_of_settled (app : WhisperLinuxApp) (outcome : SpawnOutcome)
    (joining : app.joining = none) :
    app.settle outcome = app.runDeferred := by
  simp [WhisperLinuxApp.settle, joining]

theorem runDeferred_of_coherent (app : WhisperLinuxApp) (coherent : app.Coherent) :
    app.runDeferred = app := by
  cases app
  simp_all [WhisperLinuxApp.runDeferred, WhisperLinuxApp.Coherent]

theorem stopBegin_segmentWorker (app : WhisperLinuxApp) (hotkey : Bool) :
    (app.stopBegin hotkey).segmentWorker = app.segmentWorker := by
  simp [WhisperLinuxApp.stopBegin]

theorem init_coherent (config : Config) : (WhisperLinuxApp.init config).Coherent := by
  simp [WhisperLinuxApp.init, WhisperLinuxApp.Coherent]

section Table

-- `toggle`, run to its end: through the join when it stops a session
theorem toggle_follows (app : WhisperLinuxApp) (outcome : SpawnOutcome) (coherent : app.Coherent) :
    ((app.toggle outcome).settle outcome).Coherent ∧
      ((app.toggle outcome).settle outcome).FollowsRow app (.toggle outcome) := by
  have cleared := cancelled_of_coherent app coherent
  obtain ⟨joining, deferred, shape, armed, accumulated, resources⟩ := coherent
  cases state : app.state <;> simp only [state] at resources armed accumulated
  case idle =>
    obtain ⟨timer, worker, proc⟩ := resources
    cases input : app.config.inputMode with
    | hotkey =>
      cases output : app.config.outputMode with
      | batch =>
        cases outcome <;>
        simp_all [WhisperLinuxApp.toggle, startRecording_eq, WhisperLinuxApp.settle,
          runDeferred_eq, WhisperLinuxApp.Coherent, WhisperLinuxApp.FollowsRow,
          WhisperLinuxApp.machine, Machine.step, Machine.row]
      | stream =>
        by_cases started : outcome = .started <;>
        simp_all [WhisperLinuxApp.toggle, WhisperLinuxApp.startHotkeyStream, startCapture_eq,
          WhisperLinuxApp.settle, runDeferred_eq, WhisperLinuxApp.Coherent,
          WhisperLinuxApp.Capturing, WhisperLinuxApp.FollowsRow, WhisperLinuxApp.machine,
          Machine.step, Machine.row, apply_ite (List.map Effect.action)]
    | listen =>
      by_cases started : outcome = .started <;>
      simp_all [WhisperLinuxApp.toggle, WhisperLinuxApp.startListening, startCapture_eq,
        WhisperLinuxApp.settle, runDeferred_eq, WhisperLinuxApp.Coherent,
        WhisperLinuxApp.Capturing, WhisperLinuxApp.FollowsRow, WhisperLinuxApp.machine,
        Machine.step, Machine.row]
  case recording =>
    obtain ⟨timer, worker, proc, wav, hotkey⟩ := resources
    obtain ⟨wav, recorded⟩ := Option.isSome_iff_exists.mp wav
    simp_all [WhisperLinuxApp.toggle, stopRecording_eq app wav proc recorded,
      WhisperLinuxApp.settle, runDeferred_eq, WhisperLinuxApp.Coherent,
      WhisperLinuxApp.FollowsRow, WhisperLinuxApp.machine, Machine.step, Machine.row]
  case processing =>
    cases input : app.config.inputMode <;>
    simp_all [WhisperLinuxApp.toggle, WhisperLinuxApp.settle, runDeferred_eq,
      WhisperLinuxApp.Coherent, WhisperLinuxApp.FollowsRow, WhisperLinuxApp.machine, Machine.step,
      Machine.row]
  case listening =>
    obtain ⟨⟨proc, worker, capture, vad, detector⟩, listen⟩ := resources
    obtain ⟨w, hw⟩ := Option.isSome_iff_exists.mp worker
    obtain ⟨s, hs⟩ := Option.isSome_iff_exists.mp capture
    simp_all [WhisperLinuxApp.toggle, WhisperLinuxApp.stopOrJoin, stopBegin_eq,
      WhisperLinuxApp.settle, WhisperLinuxApp.resume, stopEnd_eq, runDeferred_eq,
      WhisperLinuxApp.Coherent, WhisperLinuxApp.FollowsRow, WhisperLinuxApp.machine,
      Machine.step, Machine.row]
  case dictating =>
    obtain ⟨proc, worker, capture, vad, detector⟩ := resources
    obtain ⟨w, hw⟩ := Option.isSome_iff_exists.mp worker
    obtain ⟨s, hs⟩ := Option.isSome_iff_exists.mp capture
    cases input : app.config.inputMode <;>
    simp_all [WhisperLinuxApp.toggle, WhisperLinuxApp.stopOrJoin, stopBegin_eq,
      WhisperLinuxApp.settle, WhisperLinuxApp.resume, stopEnd_eq, runDeferred_eq,
      WhisperLinuxApp.Coherent, WhisperLinuxApp.FollowsRow, WhisperLinuxApp.machine,
      Machine.step, Machine.row, apply_ite (List.map Effect.action)]

-- a transcript the session's worker hands to `_process_speech_segment`
theorem segment_follows (app : WhisperLinuxApp) (text : List Char) (coherent : app.Coherent)
    (worker : app.segmentWorker.isSome) :
    (app.processSpeechSegment text).runDeferred.Coherent ∧
      (app.processSpeechSegment text).runDeferred.FollowsRow app (.segment text) := by
  have cleared := cancelled_of_coherent app coherent
  obtain ⟨joining, deferred, shape, armed, accumulated, resources⟩ := coherent
  cases state : app.state <;> simp only [state] at resources armed accumulated
  case listening =>
    obtain ⟨⟨proc, -, capture, vad, detector⟩, listen⟩ := resources
    by_cases empty : text = []
    · simp_all [WhisperLinuxApp.processSpeechSegment, runDeferred_eq, WhisperLinuxApp.Coherent,
        WhisperLinuxApp.Capturing, WhisperLinuxApp.FollowsRow, WhisperLinuxApp.machine,
        Machine.step, Machine.row]
    cases wake : (WakeWordDetector.new app.config.wakeWord).containsWakeWord text <;>
    simp_all [WhisperLinuxApp.processSpeechSegment, onWakeWord_listening, WhisperLinuxApp.dictate,
      runDeferred_eq, WhisperLinuxApp.Coherent, WhisperLinuxApp.Capturing,
      WhisperLinuxApp.FollowsRow, WhisperLinuxApp.machine, Machine.step, Machine.row,
      apply_ite (List.map Effect.action)]
  case dictating =>
    obtain ⟨proc, -, capture, vad, detector⟩ := resources
    by_cases empty : text = []
    · simp_all [WhisperLinuxApp.processSpeechSegment, runDeferred_eq, WhisperLinuxApp.Coherent,
        WhisperLinuxApp.Capturing, WhisperLinuxApp.FollowsRow, WhisperLinuxApp.machine,
        Machine.step, Machine.row]
    cases input : app.config.inputMode with
    | hotkey =>
      cases output : app.config.outputMode <;>
      simp_all [WhisperLinuxApp.processSpeechSegment, WhisperLinuxApp.dictate, deliver_eq,
        runDeferred_eq, WhisperLinuxApp.Coherent, WhisperLinuxApp.Capturing,
        WhisperLinuxApp.FollowsRow, WhisperLinuxApp.machine, Machine.step, Machine.row]
    | listen =>
      cases wake : (WakeWordDetector.new app.config.wakeWord).containsWakeWord text with
      | false =>
        cases output : app.config.outputMode <;>
        simp_all [WhisperLinuxApp.processSpeechSegment, WhisperLinuxApp.dictate, deliver_eq,
          resetSilenceTimer_eq, runDeferred_eq, WhisperLinuxApp.Coherent,
          WhisperLinuxApp.Capturing, WhisperLinuxApp.FollowsRow, WhisperLinuxApp.machine,
          Machine.step, Machine.row]
      | true =>
        cases output : app.config.outputMode <;>
        by_cases residue : (WakeWordDetector.new app.config.wakeWord).stripWakeWord text = [] <;>
        simp_all [WhisperLinuxApp.processSpeechSegment, onWakeWord_dictating, runDeferred_eq,
          WhisperLinuxApp.Coherent, WhisperLinuxApp.Capturing, WhisperLinuxApp.FollowsRow,
          WhisperLinuxApp.machine, Machine.step, Machine.row, apply_ite (List.map Effect.action)]
  all_goals simp_all

-- the transcription `_stop_recording` started completes while PROCESSING lasts
theorem transcribed_follows (app : WhisperLinuxApp) (wav : Nat) (text : List Char)
    (coherent : app.Coherent) (processing : app.state = .processing) :
    (app.transcribeAndInject wav text).Coherent ∧
      (app.transcribeAndInject wav text).FollowsRow app (.transcribed wav text) := by
  obtain ⟨joining, deferred, shape, armed, accumulated, resources⟩ := coherent
  simp only [processing] at resources armed accumulated
  by_cases empty : text = [] <;>
  simp_all [transcribeAndInject_eq, WhisperLinuxApp.Coherent, WhisperLinuxApp.FollowsRow,
    WhisperLinuxApp.machine, Machine.step, Machine.row, apply_ite (List.map Effect.action)]

-- the armed silence timer fires
theorem silenceTimeout_follows (app : WhisperLinuxApp) (timer : Nat) (inSpeech : Bool)
    (coherent : app.Coherent) (current : app.silenceTimer = some timer)
    (pending : timer ∈ app.pendingTimers) :
    ({ app with pendingTimers := app.pendingTimers.erase timer }.onSilenceTimeout
        inSpeech).runDeferred.Coherent ∧
      ({ app with pendingTimers := app.pendingTimers.erase timer }.onSilenceTimeout
        inSpeech).runDeferred.FollowsRow app (.silenceTimeout inSpeech) := by
  obtain ⟨joining, deferred, shape, armed, accumulated, resources⟩ := coherent
  have single : app.pendingTimers = [timer] := by
    rcases shape with empty | ⟨other, current', single⟩
    · simp [empty] at pending
    · simp_all
  obtain ⟨dictating, listen⟩ := armed (by simp [single])
  simp only [dictating] at resources accumulated
  obtain ⟨proc, worker, capture, vad, detector⟩ := resources
  rw [onSilenceTimeout_eq { app with pendingTimers := app.pendingTimers.erase timer } inSpeech
    dictating vad]
  cases inSpeech <;>
  simp_all [resetSilenceTimer_eq, cancelled, runDeferred_eq, WhisperLinuxApp.Coherent,
    WhisperLinuxApp.Capturing, WhisperLinuxApp.FollowsRow, WhisperLinuxApp.machine, Machine.step,
    Machine.row, apply_ite (List.map Effect.action)]

end Table

section Tray

-- a tray change applied in IDLE: a new mode, and listening starts when listen is picked
theorem applyTrayChange_coherent (app : WhisperLinuxApp) (change : TrayChange)
    (outcome : SpawnOutcome)
    (coherent : app.Coherent) (idle : app.state = .idle) :
    (app.applyTrayChange change outcome).joining = none ∧
      (app.applyTrayChange change outcome).runDeferred.Coherent := by
  obtain ⟨joining, deferred, shape, armed, accumulated, resources⟩ := coherent
  simp only [idle] at resources armed accumulated
  obtain ⟨timer, worker, proc⟩ := resources
  cases change with
  | input mode =>
    cases mode <;> cases outcome <;>
    simp_all [WhisperLinuxApp.applyTrayChange, WhisperLinuxApp.toggle,
      WhisperLinuxApp.startListening, startCapture_eq, runDeferred_eq, WhisperLinuxApp.Coherent,
      WhisperLinuxApp.Capturing]
  | output mode =>
    simp_all [WhisperLinuxApp.applyTrayChange, runDeferred_eq, WhisperLinuxApp.Coherent]

-- `_stop_listening` or `_stop_hotkey_stream` run to its end leaves a coherent IDLE
theorem stopped_coherent (app : WhisperLinuxApp) (hotkey : Bool) (coherent : app.Coherent)
    (session : app.state = .listening ∨ app.state = .dictating) :
    (({ app.stopBegin hotkey with joining := none }.stopEnd hotkey).setState .idle).Coherent := by
  have cleared := cancelled_of_coherent app coherent
  obtain ⟨joining, deferred, shape, armed, accumulated, resources⟩ := coherent
  have proc : app.recorderProc = false := by
    rcases session with state | state <;> simp only [state] at resources
    · exact resources.1.1
    · exact resources.1
  cases hotkey <;> simp_all [stopBegin_eq, stopEnd_eq, WhisperLinuxApp.setState,
    WhisperLinuxApp.Coherent]

-- `_force_idle` for a tray change in a state other than IDLE; a session is stopped through the
-- join, and the change is applied when the handler resumes
theorem forceIdle_coherent (app : WhisperLinuxApp) (change : TrayChange) (outcome : SpawnOutcome)
    (coherent : app.Coherent) (busy : app.state ≠ .idle) :
    ((app.forceIdle change outcome).settle outcome).Coherent := by
  have applied : ∀ idle : WhisperLinuxApp, idle.Coherent → idle.state = .idle →
      ((idle.applyTrayChange change outcome).settle outcome).Coherent := fun idle kept rest => by
    obtain ⟨settled, next⟩ := applyTrayChange_coherent idle change outcome kept rest
    rwa [settle_of_settled _ _ settled]
  have ⟨joining, deferred, shape, armed, accumulated, resources⟩ := coherent
  cases state : app.state <;> simp only [state] at resources
  case idle => exact absurd state busy
  case recording =>
    have idled : (app.recorderStop.1.setState .idle).Coherent := by
      clear applied coherent
      simp_all [WhisperLinuxApp.recorderStop, WhisperLinuxApp.setState, WhisperLinuxApp.emit,
        WhisperLinuxApp.Coherent]
    simp only [WhisperLinuxApp.forceIdle, state]
    exact applied _ idled rfl
  case processing =>
    have idled : (app.setState .idle).Coherent := by
      clear applied coherent
      simp_all [WhisperLinuxApp.setState, WhisperLinuxApp.Coherent]
    simp only [WhisperLinuxApp.forceIdle, state]
    exact applied _ idled rfl
  case listening =>
    have worker : (app.stopBegin false).segmentWorker.isSome := by
      rw [stopBegin_segmentWorker]; exact resources.1.2.1
    simp only [WhisperLinuxApp.forceIdle, state, reduceCtorEq, and_false, decide_False, worker,
      if_true, WhisperLinuxApp.settle, WhisperLinuxApp.resume]
    exact (applyTrayChange_coherent _ change outcome
      (stopped_coherent app false coherent (.inl state)) rfl).2
  case dictating =>
    have worker : ∀ hotkey, (app.stopBegin hotkey).segmentWorker.isSome := by
      intro hotkey; rw [stopBegin_segmentWorker]; exact resources.2.1
    simp only [WhisperLinuxApp.forceIdle, state, and_true, worker, if_true, WhisperLinuxApp.settle,
      WhisperLinuxApp.resume]
    exact (applyTrayChange_coherent _ change outcome
      (stopped_coherent app _ coherent (.inr state)) rfl).2

-- a tray change: applied at once in IDLE or when the mode stays, after `_force_idle` otherwise
theorem trayChange_coherent (app : WhisperLinuxApp) (change : TrayChange) (outcome : SpawnOutcome)
    (coherent : app.Coherent) : ((app.onTrayChange change outcome).settle outcome).Coherent := by
  by_cases idle : app.state = .idle
  · obtain ⟨settled, next⟩ := applyTrayChange_coherent app change outcome coherent idle
    have applied : app.onTrayChange change outcome = app.applyTrayChange change outcome := by
      cases change <;> simp [WhisperLinuxApp.onTrayChange, idle]
    rwa [applied, settle_of_settled _ _ settled]
  have unchanged : ∀ next, next = app → (next.settle outcome).Coherent := by
    rintro _ rfl
    rwa [settle_of_settled _ _ coherent.1, runDeferred_of_coherent _ coherent]
  have forced : ∀ next, next = app.forceIdle change outcome → (next.settle outcome).Coherent := by
    rintro _ rfl
    exact forceIdle_coherent app change outcome coherent idle
  cases change with
  | input mode =>
    by_cases same : app.config.inputMode = mode
    · apply unchanged
      cases app; subst same; simp_all [WhisperLinuxApp.onTrayChange,
        WhisperLinuxApp.applyTrayChange]
    · apply forced; simp [WhisperLinuxApp.onTrayChange, same, idle]
  | output mode =>
    by_cases same : app.config.outputMode = mode
    · apply unchanged
      cases app; subst same; simp_all [WhisperLinuxApp.onTrayChange,
        WhisperLinuxApp.applyTrayChange]
    · apply forced; simp [WhisperLinuxApp.onTrayChange, same, idle]

end Tray

-- a handled event keeps the app coherent, and an event of the table follows its row
theorem handle_step (app next : WhisperLinuxApp) (event : Event) (coherent : app.Coherent)
    (current : event.current app.state = true) (handled : app.handle event = some next) :
    next.Coherent ∧ (event.tabled = true → next.FollowsRow app event) := by
  have ran := handle_eq_some app next event handled
  cases event with
  | toggle outcome =>
    obtain rfl := ran
    exact (toggle_follows app outcome coherent).imp_right fun row _ => row
  | trayChange change outcome =>
    obtain rfl := ran
    exact ⟨trayChange_coherent app change outcome coherent, fun tabled => by cases tabled⟩
  | segment text =>
    obtain ⟨worker, rfl⟩ := ran
    exact (segment_follows app text coherent worker).imp_right fun row _ => row
  | transcribed wav text =>
    obtain ⟨-, rfl⟩ := ran
    have processing : app.state = .processing := by simpa [Event.current] using current
    exact (transcribed_follows app wav text coherent processing).imp_right fun row _ => row
  | silenceTimeout inSpeech =>
    obtain ⟨timer, armed, pending, rfl⟩ := ran
    exact (silenceTimeout_follows app timer inSpeech coherent armed pending).imp_right
      fun row _ => row

end WhisperLinux.App
