import WhisperLinux.App.Basic

set_option autoImplicit false

namespace WhisperLinux.App

open Commands Transcriber Python

-- The handlers of `WhisperLinuxApp`, each as the state change it makes. Focus saving and
-- restoring, notifications and logging have no effect on the modelled state and are left out.

def WhisperLinuxApp.injectText (app : WhisperLinuxApp) (text : List Char) : WhisperLinuxApp :=
  { app with
    log := app.log ++
      (Commands.injectText app.config.voiceCommands app.config.commands text).map .injector }

-- `_cancel_silence_timer`: `Timer.cancel()` keeps a timer that has not fired from firing
def WhisperLinuxApp.cancelSilenceTimer (app : WhisperLinuxApp) : WhisperLinuxApp :=
  match app.silenceTimer with
  | some timer => { app with silenceTimer := none, pendingTimers := app.pendingTimers.erase timer }
  | none => app

def WhisperLinuxApp.resetSilenceTimer (app : WhisperLinuxApp) : WhisperLinuxApp :=
  let app := app.cancelSilenceTimer
  { app with
    silenceTimer := some app.nextId
    pendingTimers := app.pendingTimers ++ [app.nextId]
    nextId := app.nextId + 1 }

def WhisperLinuxApp.flushAccumulatedText (app : WhisperLinuxApp) : WhisperLinuxApp :=
  if app.accumulatedTexts.isEmpty then app
  else { app.injectText (join app.accumulatedTexts) with accumulatedTexts := [] }

-- `_play_start_signal` and `_play_end_signal`: mute window, `vad.reset()` and chime
def WhisperLinuxApp.playStartSignal (app : WhisperLinuxApp) : WhisperLinuxApp :=
  if app.config.endSignal then app.emit .startSignal else app

def WhisperLinuxApp.playEndSignal (app : WhisperLinuxApp) : WhisperLinuxApp :=
  if app.config.endSignal then app.emit .endSignal else app

-- a dictated text in `_process_speech_segment`: injected at once in stream output,
-- appended to `_accumulated_texts` in batch output
def WhisperLinuxApp.deliver (app : WhisperLinuxApp) (text : List Char) : WhisperLinuxApp :=
  match app.config.outputMode with
  | .stream => app.injectText text
  | .batch => { app with accumulatedTexts := app.accumulatedTexts ++ [text] }

def WhisperLinuxApp.stopStream (app : WhisperLinuxApp) (stream : Nat) : WhisperLinuxApp :=
  { app.emit (.streamStop stream) with streams := update app.streams stream (some .stopped) }

-- the common body of `_start_listening` and `_start_hotkey_stream`: a VAD, an
-- `AudioStream`, a queue and a worker, then `AudioStream.start`; on failure the sentinel is
-- queued and the worker and queue are dropped, the rest stays set
def WhisperLinuxApp.startCapture (app : WhisperLinuxApp) (wakeDetector : Option WakeWordDetector)
    (clearAccumulated : Bool) (target : AppState) (chime : Bool) (outcome : SpawnOutcome) :
    WhisperLinuxApp :=
  let stream := app.nextId
  let queue := app.nextId + 1
  let worker := app.nextId + 2
  let app := { app with
    wakeDetector, vad := true, audioStream := some stream
    accumulatedTexts := if clearAccumulated then [] else app.accumulatedTexts
    segmentQueue := some queue, segmentWorker := some worker
    queues := update app.queues queue []
    workers := update app.workers worker (some .ready)
    nextId := app.nextId + 3 }
  if outcome = .started then
    let app := ({ app with streams := update app.streams stream (some .running) }.emit
      (.streamStart stream)).setState target
    if chime then app.playStartSignal else app
  else
    { app with
      streams := update app.streams stream (some .stopped)
      queues := update app.queues queue [none]
      segmentWorker := none, segmentQueue := none }

def WhisperLinuxApp.startListening (app : WhisperLinuxApp) (outcome : SpawnOutcome) :
    WhisperLinuxApp :=
  app.startCapture (some (WakeWordDetector.new app.config.wakeWord)) false .listening false outcome

def WhisperLinuxApp.startHotkeyStream (app : WhisperLinuxApp) (outcome : SpawnOutcome) :
    WhisperLinuxApp :=
  app.startCapture none true .dictating true outcome

-- `if self._audio_stream: self._audio_stream.stop(); self._audio_stream = None`
def WhisperLinuxApp.dropAudioStream (app : WhisperLinuxApp) : WhisperLinuxApp :=
  match app.audioStream with
  | some stream => { app.stopStream stream with audioStream := none }
  | none => app

-- `if self._segment_queue: self._segment_queue.put(item)`, with a segment or the sentinel
def WhisperLinuxApp.putSegment (app : WhisperLinuxApp) (item : Option Nat) : WhisperLinuxApp :=
  match app.segmentQueue with
  | some queue => { app with queues := update app.queues queue (app.queues queue ++ [item]) }
  | none => app

-- the common body of `_stop_listening` and `_stop_hotkey_stream` up to
-- `self._segment_worker.join(timeout=5)`; only `_stop_listening` drops the wake detector
def WhisperLinuxApp.stopBegin (app : WhisperLinuxApp) (hotkey : Bool) : WhisperLinuxApp :=
  let app := app.cancelSilenceTimer.flushAccumulatedText.dropAudioStream
  { app with vad := false, wakeDetector := if hotkey then app.wakeDetector else none }.putSegment none

-- the rest after the join; only `_stop_hotkey_stream` plays the end chime
def WhisperLinuxApp.stopEnd (app : WhisperLinuxApp) (hotkey : Bool) : WhisperLinuxApp :=
  let app := ({ app with segmentWorker := none, segmentQueue := none }).setState .idle
  if hotkey then app.playEndSignal else app

-- `AudioRecorder.start`: `mkstemp`, then the subprocess; whether it returned
def WhisperLinuxApp.recorderStart (app : WhisperLinuxApp) (outcome : SpawnOutcome) :
    WhisperLinuxApp × Bool :=
  if app.recorderProc then (app, false)
  else
    let wav := app.nextId
    let app := { app with
      nextId := wav + 1, wavFiles := app.wavFiles ++ [wav], recorderWav := some wav }
    match outcome with
    | .started => ({ app with recorderProc := true }.emit .recorderStart, true)
    | .exitedEarly => ({ app with wavFiles := app.wavFiles.erase wav, recorderWav := none }, false)
    | .spawnFailed => (app, false)

-- `AudioRecorder.stop`: the WAV path when a recording was running
def WhisperLinuxApp.recorderStop (app : WhisperLinuxApp) : WhisperLinuxApp × Option Nat :=
  if app.recorderProc then
    ({ app with recorderProc := false }.emit .recorderStop, app.recorderWav)
  else (app, none)

def WhisperLinuxApp.startRecording (app : WhisperLinuxApp) (outcome : SpawnOutcome) :
    WhisperLinuxApp :=
  let started := app.recorderStart outcome
  if started.2 then started.1.setState .recording else started.1

-- `_stop_recording`: the transcription thread is named by its WAV
def WhisperLinuxApp.stopRecording (app : WhisperLinuxApp) : WhisperLinuxApp :=
  let stopped := app.recorderStop
  match stopped.2 with
  | none => stopped.1.setState .idle
  | some wav =>
    { stopped.1.setState .processing with batchJobs := stopped.1.batchJobs ++ [wav] }

-- `_transcribe_and_inject` with the transcript it gets; a failed transcription behaves as
-- an empty one
def WhisperLinuxApp.transcribeAndInject (app : WhisperLinuxApp) (wav : Nat) (text : List Char) :
    WhisperLinuxApp :=
  let app := if text.isEmpty then app else app.injectText text
  let app := { app with wavFiles := app.wavFiles.erase wav, batchJobs := app.batchJobs.erase wav }
  (app.setState .idle).playEndSignal

-- a `_stop_listening` or `_stop_hotkey_stream` as far as the coordinator runs it before
-- waiting: to the end when there is no worker to join
def WhisperLinuxApp.stopOrJoin (app : WhisperLinuxApp) (hotkey : Bool)
    (tray : Option TrayChange) : WhisperLinuxApp :=
  let app := app.stopBegin hotkey
  if app.segmentWorker.isSome then { app with joining := some ⟨hotkey, tray⟩ }
  else app.stopEnd hotkey

-- `toggle`, with `_toggle_listen` and `_toggle_hotkey`
def WhisperLinuxApp.toggle (app : WhisperLinuxApp) (outcome : SpawnOutcome) : WhisperLinuxApp :=
  match app.config.inputMode, app.state with
  | .listen, .idle => app.startListening outcome
  | .listen, .listening | .listen, .dictating => app.stopOrJoin false none
  | .hotkey, .idle =>
    match app.config.outputMode with
    | .batch => app.startRecording outcome
    | .stream => app.startHotkeyStream outcome
  | .hotkey, .recording => app.stopRecording
  | .hotkey, .dictating => app.stopOrJoin true none
  | _, _ => app

-- what `_on_input_mode_changed` and `_on_output_mode_changed` do after `_force_idle`
def WhisperLinuxApp.applyTrayChange (app : WhisperLinuxApp) (change : TrayChange)
    (outcome : SpawnOutcome) : WhisperLinuxApp :=
  match change with
  | .input mode =>
    let app := { app with config.inputMode := mode }
    if mode = .listen ∧ app.state = .idle then app.toggle outcome else app
  | .output mode => { app with config.outputMode := mode }

-- `_force_idle`, called for a tray change
def WhisperLinuxApp.forceIdle (app : WhisperLinuxApp) (change : TrayChange)
    (outcome : SpawnOutcome) : WhisperLinuxApp :=
  match app.state with
  | .recording => (app.recorderStop.1.setState .idle).applyTrayChange change outcome
  | .listening | .dictating =>
    let hotkey := app.config.inputMode = .hotkey ∧ app.state = .dictating
    let app := app.stopBegin hotkey
    if app.segmentWorker.isSome then { app with joining := some ⟨hotkey, some change⟩ }
    else ((app.stopEnd hotkey).setState .idle).applyTrayChange change outcome
  | _ => (app.setState .idle).applyTrayChange change outcome

def WhisperLinuxApp.resume (app : WhisperLinuxApp) (joining : Joining) (outcome : SpawnOutcome) :
    WhisperLinuxApp :=
  let app := { app with joining := none }.stopEnd joining.hotkey
  match joining.tray with
  | some change => (app.setState .idle).applyTrayChange change outcome
  | none => app

-- `_on_input_mode_changed` and `_on_output_mode_changed`
def WhisperLinuxApp.onTrayChange (app : WhisperLinuxApp) (change : TrayChange)
    (outcome : SpawnOutcome) : WhisperLinuxApp :=
  let changed : Bool := match change with
    | .input mode => app.config.inputMode != mode
    | .output mode => app.config.outputMode != mode
  if changed && app.state != .idle then app.forceIdle change outcome
  else app.applyTrayChange change outcome

-- the non-wake-word part of `_process_speech_segment`
def WhisperLinuxApp.dictate (app : WhisperLinuxApp) (text : List Char) : WhisperLinuxApp :=
  if app.state = .dictating then
    if app.config.inputMode = .listen then (app.deliver text).resetSilenceTimer
    else app.deliver text
  else app

-- the wake-word branch of `_process_speech_segment`, with the stripped remainder
def WhisperLinuxApp.onWakeWord (app : WhisperLinuxApp) (remaining : List Char) :
    WhisperLinuxApp :=
  match app.state with
  | .listening =>
    let app := { app.cancelSilenceTimer with accumulatedTexts := [] }
    ((app.setState .dictating).marshalSetState .dictating).playStartSignal
  | .dictating =>
    let app := app.cancelSilenceTimer
    let app := if remaining.isEmpty then app else app.deliver remaining
    (app.flushAccumulatedText.setState .listening).marshalSetState .listening
  | _ => app

-- `_process_speech_segment` with the filtered transcript of its segment; a failed
-- transcription behaves as an empty one
def WhisperLinuxApp.processSpeechSegment (app : WhisperLinuxApp) (text : List Char) :
    WhisperLinuxApp :=
  if text.isEmpty then app
  else
    match app.wakeDetector with
    | some detector =>
      if detector.containsWakeWord text then app.onWakeWord (detector.stripWakeWord text)
      else app.dictate text
    | none => app.dictate text

-- `_on_silence_timeout`, with the `_in_speech` flag it reads from the VAD
def WhisperLinuxApp.onSilenceTimeout (app : WhisperLinuxApp) (inSpeech : Bool) :
    WhisperLinuxApp :=
  if app.state = .dictating then
    if app.vad ∧ inSpeech then app.resetSilenceTimer
    else ((app.flushAccumulatedText.setState .listening).marshalSetState .listening).playEndSignal
  else app

def WhisperLinuxApp.onSpeechStart (app : WhisperLinuxApp) : WhisperLinuxApp :=
  if app.state = .dictating then app.cancelSilenceTimer else app

-- `_on_speech_end`, with the segment's id
def WhisperLinuxApp.onSpeechEnd (app : WhisperLinuxApp) (segment : Nat) : WhisperLinuxApp :=
  (if app.state = .dictating then app.cancelSilenceTimer else app).putSegment (some segment)

section Frame

variable (app : WhisperLinuxApp)

@[simp] theorem cancelSilenceTimer_audioStream :
    app.cancelSilenceTimer.audioStream = app.audioStream := by
  unfold WhisperLinuxApp.cancelSilenceTimer; split <;> rfl

@[simp] theorem cancelSilenceTimer_streams : app.cancelSilenceTimer.streams = app.streams := by
  unfold WhisperLinuxApp.cancelSilenceTimer; split <;> rfl

@[simp] theorem flushAccumulatedText_audioStream :
    app.flushAccumulatedText.audioStream = app.audioStream := by
  unfold WhisperLinuxApp.flushAccumulatedText; split <;> rfl

@[simp] theorem flushAccumulatedText_streams : app.flushAccumulatedText.streams = app.streams := by
  unfold WhisperLinuxApp.flushAccumulatedText; split <;> rfl

@[simp] theorem playStartSignal_audioStream : app.playStartSignal.audioStream = app.audioStream := by
  unfold WhisperLinuxApp.playStartSignal; split <;> rfl

@[simp] theorem playStartSignal_streams : app.playStartSignal.streams = app.streams := by
  unfold WhisperLinuxApp.playStartSignal; split <;> rfl

@[simp] theorem playEndSignal_audioStream : app.playEndSignal.audioStream = app.audioStream := by
  unfold WhisperLinuxApp.playEndSignal; split <;> rfl

@[simp] theorem playEndSignal_streams : app.playEndSignal.streams = app.streams := by
  unfold WhisperLinuxApp.playEndSignal; split <;> rfl

@[simp] theorem deliver_audioStream (text : List Char) :
    (app.deliver text).audioStream = app.audioStream := by
  unfold WhisperLinuxApp.deliver; split <;> rfl

@[simp] theorem deliver_streams (text : List Char) : (app.deliver text).streams = app.streams := by
  unfold WhisperLinuxApp.deliver; split <;> rfl

@[simp] theorem putSegment_audioStream (item : Option Nat) :
    (app.putSegment item).audioStream = app.audioStream := by
  unfold WhisperLinuxApp.putSegment; split <;> rfl

@[simp] theorem putSegment_streams (item : Option Nat) :
    (app.putSegment item).streams = app.streams := by
  unfold WhisperLinuxApp.putSegment; split <;> rfl

@[simp] theorem resetSilenceTimer_audioStream :
    app.resetSilenceTimer.audioStream = app.audioStream :=
  cancelSilenceTimer_audioStream app

@[simp] theorem resetSilenceTimer_streams : app.resetSilenceTimer.streams = app.streams :=
  cancelSilenceTimer_streams app

theorem processSpeechSegment_capture (text : List Char) :
    (app.processSpeechSegment text).audioStream = app.audioStream ∧
      (app.processSpeechSegment text).streams = app.streams := by
  unfold WhisperLinuxApp.processSpeechSegment WhisperLinuxApp.onWakeWord WhisperLinuxApp.dictate
  repeat' split
  all_goals simp [WhisperLinuxApp.setState, WhisperLinuxApp.marshalSetState]

theorem onSilenceTimeout_capture (inSpeech : Bool) :
    (app.onSilenceTimeout inSpeech).audioStream = app.audioStream ∧
      (app.onSilenceTimeout inSpeech).streams = app.streams := by
  unfold WhisperLinuxApp.onSilenceTimeout
  repeat' split
  all_goals simp [WhisperLinuxApp.setState, WhisperLinuxApp.marshalSetState]

theorem transcribeAndInject_capture (wav : Nat) (text : List Char) :
    (app.transcribeAndInject wav text).audioStream = app.audioStream ∧
      (app.transcribeAndInject wav text).streams = app.streams := by
  unfold WhisperLinuxApp.transcribeAndInject
  split <;> simp [WhisperLinuxApp.setState, WhisperLinuxApp.injectText]

theorem onSpeechStart_capture :
    app.onSpeechStart.audioStream = app.audioStream ∧ app.onSpeechStart.streams = app.streams := by
  unfold WhisperLinuxApp.onSpeechStart
  split <;> simp

theorem onSpeechEnd_capture (segment : Nat) :
    (app.onSpeechEnd segment).audioStream = app.audioStream ∧
      (app.onSpeechEnd segment).streams = app.streams := by
  unfold WhisperLinuxApp.onSpeechEnd
  split <;> simp

end Frame

section Guards

variable (app : WhisperLinuxApp)

theorem dictate_of_not_dictating (text : List Char) (idle : app.state ≠ .dictating) :
    app.dictate text = app := by
  simp [WhisperLinuxApp.dictate, idle]

theorem processSpeechSegment_of_inactive (text : List Char)
    (inactive : app.state ≠ .listening ∧ app.state ≠ .dictating) :
    app.processSpeechSegment text = app := by
  have woken : ∀ remaining, app.onWakeWord remaining = app := by
    intro remaining
    unfold WhisperLinuxApp.onWakeWord
    split <;> simp_all
  unfold WhisperLinuxApp.processSpeechSegment
  repeat' split
  all_goals simp [woken, dictate_of_not_dictating app text inactive.2]

theorem onSilenceTimeout_of_not_dictating (inSpeech : Bool) (idle : app.state ≠ .dictating) :
    app.onSilenceTimeout inSpeech = app := by
  simp [WhisperLinuxApp.onSilenceTimeout, idle]

end Guards

-- the timers still pending after `Timer.cancel()` on the one in `_silence_timer`
def cancelled (pending : List Nat) : Option Nat → List Nat
  | some timer => pending.erase timer
  | none => pending

section NormalForm

-- the handlers that branch, each as one record update with its branch moved into the fields it
-- writes, so that callers never split on them

variable (app : WhisperLinuxApp)

@[simp] theorem cancelSilenceTimer_eq :
    app.cancelSilenceTimer =
      { app with
        silenceTimer := none
        pendingTimers := cancelled app.pendingTimers app.silenceTimer } := by
  unfold WhisperLinuxApp.cancelSilenceTimer
  split <;> cases app <;> simp_all [cancelled]

@[simp] theorem flushAccumulatedText_eq :
    app.flushAccumulatedText =
      { app with
        accumulatedTexts := []
        log := app.log ++
          if app.accumulatedTexts = [] then []
          else (injectText app.config.voiceCommands app.config.commands
            (join app.accumulatedTexts)).map .injector } := by
  unfold WhisperLinuxApp.flushAccumulatedText
  split
  · cases app; simp_all
  · simp_all [WhisperLinuxApp.injectText]

@[simp] theorem playStartSignal_eq :
    app.playStartSignal =
      { app with log := app.log ++ if app.config.endSignal then [.startSignal] else [] } := by
  unfold WhisperLinuxApp.playStartSignal WhisperLinuxApp.emit
  split
  · rfl
  · cases app; simp_all

@[simp] theorem playEndSignal_eq :
    app.playEndSignal =
      { app with log := app.log ++ if app.config.endSignal then [.endSignal] else [] } := by
  unfold WhisperLinuxApp.playEndSignal WhisperLinuxApp.emit
  split
  · rfl
  · cases app; simp_all

@[simp] theorem dropAudioStream_eq :
    app.dropAudioStream =
      { app with
        audioStream := none
        streams := match app.audioStream with
          | some stream => update app.streams stream (some .stopped)
          | none => app.streams
        log := app.log ++ match app.audioStream with
          | some stream => [.streamStop stream]
          | none => [] } := by
  unfold WhisperLinuxApp.dropAudioStream
  split <;> cases app <;> simp_all [WhisperLinuxApp.stopStream, WhisperLinuxApp.emit]

@[simp] theorem putSegment_eq (item : Option Nat) :
    app.putSegment item = { app with queues := match app.segmentQueue with
      | some queue => update app.queues queue (app.queues queue ++ [item])
      | none => app.queues } := by
  unfold WhisperLinuxApp.putSegment
  split <;> cases app <;> simp_all

theorem resetSilenceTimer_eq :
    app.resetSilenceTimer =
      { app with
        silenceTimer := some app.nextId
        pendingTimers := cancelled app.pendingTimers app.silenceTimer ++ [app.nextId]
        nextId := app.nextId + 1 } := by
  simp [WhisperLinuxApp.resetSilenceTimer]

theorem deliver_eq (text : List Char) :
    app.deliver text =
      { app with
        accumulatedTexts :=
          app.accumulatedTexts ++ if app.config.outputMode = .batch then [text] else []
        log := app.log ++ if app.config.outputMode = .stream then
          (injectText app.config.voiceCommands app.config.commands text).map .injector
          else [] } := by
  unfold WhisperLinuxApp.deliver
  split <;> cases app <;> simp_all [WhisperLinuxApp.injectText]

theorem startCapture_eq (detector : Option WakeWordDetector) (clear : Bool) (target : AppState)
    (chime : Bool) (outcome : SpawnOutcome) :
    app.startCapture detector clear target chime outcome =
      { app with
        wakeDetector := detector, vad := true, audioStream := some app.nextId
        accumulatedTexts := if clear then [] else app.accumulatedTexts
        segmentQueue := if outcome = .started then some (app.nextId + 1) else none
        segmentWorker := if outcome = .started then some (app.nextId + 2) else none
        streams := update app.streams app.nextId
          (some (if outcome = .started then .running else .stopped))
        queues := update app.queues (app.nextId + 1) (if outcome = .started then [] else [none])
        workers := update app.workers (app.nextId + 2) (some .ready)
        state := if outcome = .started then target else app.state
        log := app.log ++ if outcome = .started then
          .streamStart app.nextId :: if chime && app.config.endSignal then [.startSignal] else []
          else []
        nextId := app.nextId + 3 } := by
  unfold WhisperLinuxApp.startCapture
  by_cases started : outcome = .started
  · cases chime <;> simp [started, WhisperLinuxApp.emit, WhisperLinuxApp.setState]
  · simp [started, update_update]

theorem startRecording_eq (outcome : SpawnOutcome) (idle : app.recorderProc = false) :
    app.startRecording outcome =
      { app with
        recorderProc := decide (outcome = .started)
        recorderWav := if outcome = .exitedEarly then none else some app.nextId
        wavFiles := if outcome = .exitedEarly then (app.wavFiles ++ [app.nextId]).erase app.nextId
          else app.wavFiles ++ [app.nextId]
        state := if outcome = .started then .recording else app.state
        log := app.log ++ if outcome = .started then [.recorderStart] else []
        nextId := app.nextId + 1 } := by
  cases outcome <;> cases app <;>
    simp_all [WhisperLinuxApp.startRecording, WhisperLinuxApp.recorderStart,
      WhisperLinuxApp.emit, WhisperLinuxApp.setState]

theorem stopRecording_eq (wav : Nat) (running : app.recorderProc = true)
    (recorded : app.recorderWav = some wav) :
    app.stopRecording =
      { app with
        recorderProc := false, state := .processing, batchJobs := app.batchJobs ++ [wav]
        log := app.log ++ [.recorderStop] } := by
  cases app
  simp_all [WhisperLinuxApp.stopRecording, WhisperLinuxApp.recorderStop, WhisperLinuxApp.emit,
    WhisperLinuxApp.setState]

theorem transcribeAndInject_eq (wav : Nat) (text : List Char) :
    app.transcribeAndInject wav text =
      { app with
        wavFiles := app.wavFiles.erase wav, batchJobs := app.batchJobs.erase wav, state := .idle
        log := app.log ++ (if text = [] then [] else
          (injectText app.config.voiceCommands app.config.commands text).map .injector) ++
          if app.config.endSignal then [.endSignal] else [] } := by
  by_cases empty : text = [] <;> cases app <;>
    simp_all [WhisperLinuxApp.transcribeAndInject, WhisperLinuxApp.injectText,
      WhisperLinuxApp.setState]

theorem stopBegin_eq (hotkey : Bool) :
    app.stopBegin hotkey =
      { app with
        silenceTimer := none, pendingTimers := cancelled app.pendingTimers app.silenceTimer
        accumulatedTexts := [], audioStream := none, vad := false
        wakeDetector := if hotkey then app.wakeDetector else none
        streams := match app.audioStream with
          | some stream => update app.streams stream (some .stopped)
          | none => app.streams
        queues := match app.segmentQueue with
          | some queue => update app.queues queue (app.queues queue ++ [none])
          | none => app.queues
        log := app.log ++ (if app.accumulatedTexts = [] then [] else
          (injectText app.config.voiceCommands app.config.commands
            (join app.accumulatedTexts)).map .injector) ++ match app.audioStream with
          | some stream => [.streamStop stream]
          | none => [] } := by
  simp [WhisperLinuxApp.stopBegin]

theorem stopEnd_eq (hotkey : Bool) :
    app.stopEnd hotkey =
      { app with
        segmentWorker := none, segmentQueue := none, state := .idle
        log := app.log ++ if hotkey && app.config.endSignal then [.endSignal] else [] } := by
  cases hotkey <;> simp [WhisperLinuxApp.stopEnd, WhisperLinuxApp.setState]

theorem onWakeWord_listening (remaining : List Char) (listening : app.state = .listening) :
    app.onWakeWord remaining =
      { app with
        silenceTimer := none, pendingTimers := cancelled app.pendingTimers app.silenceTimer
        accumulatedTexts := [], state := .dictating, deferred := app.deferred ++ [.dictating]
        log := app.log ++ if app.config.endSignal then [.startSignal] else [] } := by
  simp [WhisperLinuxApp.onWakeWord, listening, WhisperLinuxApp.setState,
    WhisperLinuxApp.marshalSetState]

-- the residue is delivered before the flush: injected in stream output, flushed with the
-- accumulated texts in batch output
theorem onWakeWord_dictating (remaining : List Char) (dictating : app.state = .dictating) :
    app.onWakeWord remaining =
      let flushed := app.accumulatedTexts ++
        if remaining ≠ [] ∧ app.config.outputMode = .batch then [remaining] else []
      { app with
        silenceTimer := none, pendingTimers := cancelled app.pendingTimers app.silenceTimer
        accumulatedTexts := [], state := .listening, deferred := app.deferred ++ [.listening]
        log := app.log ++ (if remaining ≠ [] ∧ app.config.outputMode = .stream then
          (injectText app.config.voiceCommands app.config.commands remaining).map .injector
          else []) ++ if flushed = [] then [] else
          (injectText app.config.voiceCommands app.config.commands (join flushed)).map
            .injector } := by
  by_cases empty : remaining = []
  · simp [WhisperLinuxApp.onWakeWord, dictating, empty, WhisperLinuxApp.setState,
      WhisperLinuxApp.marshalSetState]
  · cases output : app.config.outputMode <;>
      simp [WhisperLinuxApp.onWakeWord, dictating, empty, output, deliver_eq,
        WhisperLinuxApp.setState, WhisperLinuxApp.marshalSetState]

theorem onSilenceTimeout_eq (inSpeech : Bool) (dictating : app.state = .dictating)
    (vad : app.vad = true) :
    app.onSilenceTimeout inSpeech =
      if inSpeech then app.resetSilenceTimer
      else
        { app with
          accumulatedTexts := [], state := .listening, deferred := app.deferred ++ [.listening]
          log := app.log ++ (if app.accumulatedTexts = [] then [] else
            (injectText app.config.voiceCommands app.config.commands
              (join app.accumulatedTexts)).map .injector) ++
            if app.config.endSignal then [.endSignal] else [] } := by
  cases inSpeech <;> simp [WhisperLinuxApp.onSilenceTimeout, dictating, vad,
    WhisperLinuxApp.setState, WhisperLinuxApp.marshalSetState]

end NormalForm

end WhisperLinux.App
