import WhisperLinux.App.Coordinator

set_option autoImplicit false

namespace WhisperLinux.App

open Commands Transcriber

-- The coordinator with every handler run to its end: a join returns at once, and the Qt loop
-- runs the queued `_set_state` calls before the next event.

inductive Event where
  | toggle (outcome : SpawnOutcome)
  | trayChange (change : TrayChange) (outcome : SpawnOutcome)
  | segment (text : List Char)
  | transcribed (wav : Nat) (text : List Char)
  | silenceTimeout (inSpeech : Bool)
  deriving DecidableEq, Repr

def WhisperLinuxApp.runDeferred (app : WhisperLinuxApp) : WhisperLinuxApp :=
  { app.deferred.foldl WhisperLinuxApp.setState app with deferred := [] }

def WhisperLinuxApp.settle (app : WhisperLinuxApp) (outcome : SpawnOutcome) : WhisperLinuxApp :=
  match app.joining with
  | some joining => (app.resume joining outcome).runDeferred
  | none => app.runDeferred

-- the Qt loop ends in the last queued state
theorem runDeferred_eq (app : WhisperLinuxApp) :
    app.runDeferred = { app with state := app.deferred.getLast?.getD app.state, deferred := [] } := by
  have folded : ∀ (states : List AppState) (app : WhisperLinuxApp),
      states.foldl WhisperLinuxApp.setState app =
        { app with state := states.getLast?.getD app.state } := by
    intro states
    induction states with
    | nil => intro app; rfl
    | cons state rest ih =>
      intro app
      rw [List.foldl_cons, ih]
      cases rest with
      | nil => rfl
      | cons next rest =>
        simp [WhisperLinuxApp.setState, List.getLast?_eq_getLast _ (List.cons_ne_nil next rest)]
  simp [WhisperLinuxApp.runDeferred, folded]

-- a transcript reaches `_process_speech_segment` from the session's worker, a transcription
-- completes for a thread `_stop_recording` started, the armed timer fires
def WhisperLinuxApp.handle (app : WhisperLinuxApp) : Event → Option WhisperLinuxApp
  | .toggle outcome => some ((app.toggle outcome).settle outcome)
  | .trayChange change outcome => some ((app.onTrayChange change outcome).settle outcome)
  | .segment text =>
    if app.segmentWorker.isSome then some (app.processSpeechSegment text).runDeferred else none
  | .transcribed wav text =>
    if wav ∈ app.batchJobs then some (app.transcribeAndInject wav text) else none
  | .silenceTimeout inSpeech =>
    match app.silenceTimer with
    | some timer =>
      if timer ∈ app.pendingTimers then
        some ({ app with pendingTimers := app.pendingTimers.erase timer }.onSilenceTimeout
          inSpeech).runDeferred
      else none
    | none => none

theorem handle_eq_some (app next : WhisperLinuxApp) (event : Event) :
    app.handle event = some next →
    match event with
    | .toggle outcome => next = (app.toggle outcome).settle outcome
    | .trayChange change outcome => next = (app.onTrayChange change outcome).settle outcome
    | .segment text =>
      app.segmentWorker.isSome ∧ next = (app.processSpeechSegment text).runDeferred
    | .transcribed wav text => wav ∈ app.batchJobs ∧ next = app.transcribeAndInject wav text
    | .silenceTimeout inSpeech =>
      ∃ timer, app.silenceTimer = some timer ∧ timer ∈ app.pendingTimers ∧
        next = ({ app with pendingTimers := app.pendingTimers.erase timer }.onSilenceTimeout
          inSpeech).runDeferred := by
  intro handled
  cases event <;> simp only [WhisperLinuxApp.handle] at handled <;> repeat' split at handled
  all_goals cases handled
  all_goals simp_all

def WhisperLinuxApp.handleAll (app : WhisperLinuxApp) : List Event → Option WhisperLinuxApp
  | [] => some app
  | event :: rest => (app.handle event).bind fun next => next.handleAll rest

-- hotkey input, batch output, chimes on
def hotkeyBatch : Config := ⟨.hotkey, .batch, true, false, defaultCommands, "дуняша".data⟩

-- record, stop into PROCESSING, then pick listen in the tray: `_force_idle` abandons
-- PROCESSING and the mode change starts listening; the abandoned transcription ends last
def abandonedTranscription : List Event :=
  [.toggle .started, .toggle .started, .trayChange (.input .listen) .started,
    .transcribed 0 "x".data]

theorem transcription_ends_listening :
    ((WhisperLinuxApp.init hotkeyBatch).handleAll (abandonedTranscription.take 3)).map
        (fun app => (app.state, app.audioStream, app.streams 1)) =
      some (.listening, some 1, some .running) ∧
    ((WhisperLinuxApp.init hotkeyBatch).handleAll abandonedTranscription).map
        (fun app => (app.state, app.audioStream, app.streams 1)) =
      some (.idle, some 1, some .running) ∧
    ((WhisperLinuxApp.init hotkeyBatch).handleAll abandonedTranscription).map
        WhisperLinuxApp.log =
      some [.recorderStart, .recorderStop, .streamStart 1, .injector (.inject "x".data), .endSignal] := by
  decide

-- a recording `_force_idle` stops for a tray mode change, and a recording whose capture command
-- cannot be spawned after `mkstemp`: `_wav_path` keeps the file, and the next recording points
-- it at a new one
def abandonedRecording : List Event :=
  [.toggle .started, .trayChange (.output .stream) .started,
    .trayChange (.output .batch) .started, .toggle .started]

def unspawnedRecording : List Event := [.toggle .spawnFailed, .toggle .started]

-- in both runs WAV 0 is still on disk, neither `_wav_path` nor the input of a transcription
theorem recordings_left_on_disk :
    ((WhisperLinuxApp.init hotkeyBatch).handleAll abandonedRecording).map
        (fun app => (app.state, app.wavFiles, app.recorderWav, app.batchJobs)) =
      some (.recording, [0, 1], some 1, []) ∧
    ((WhisperLinuxApp.init hotkeyBatch).handleAll unspawnedRecording).map
        (fun app => (app.state, app.wavFiles, app.recorderWav, app.batchJobs)) =
      some (.recording, [0, 1], some 1, []) := by
  decide

end WhisperLinux.App
