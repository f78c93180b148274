import WhisperLinux.Commands
import WhisperLinux.Transcriber.WakeWord

set_option autoImplicit false

namespace WhisperLinux.App

open Commands Transcriber

inductive AppState where
  | idle
  | recording
  | processing
  | listening
  | dictating
  deriving DecidableEq, Repr

inductive InputMode where
  | hotkey
  | listen
  deriving DecidableEq, Repr

inductive OutputMode where
  | batch
  | stream
  deriving DecidableEq, Repr

-- the fields of `Config` the state machine reads
structure Config where
  inputMode : InputMode
  outputMode : OutputMode
  endSignal : Bool
  voiceCommands : Bool
  commands : CommandMap
  wakeWord : List Char

-- what a capture subprocess does when `AudioRecorder.start` or `AudioStream.start` spawns it:
-- it runs, it exits within the 0.2 s check, or `Popen` raises
inductive SpawnOutcome where
  | started
  | exitedEarly
  | spawnFailed
  deriving DecidableEq, Repr

-- the effects on collaborators, in the order they happen; `startSignal` and `endSignal`
-- are the chime with its mute window, only when `end_signal` is set
inductive Effect where
  | injector (call : Injection)
  | recorderStart
  | recorderStop
  | streamStart (stream : Nat)
  | streamStop (stream : Nat)
  | startSignal
  | endSignal
  deriving DecidableEq, Repr

-- `AudioStream` objects: `_running` with a live reader, the reader gone, or stopped
inductive StreamStatus where
  | running
  | readerEnded
  | stopped
  deriving DecidableEq, Repr

-- a `_segment_worker_loop` thread: at the top of the loop, blocked in `get` on a queue,
-- inside `_process_speech_segment` for a segment, or finished
inductive WorkerPc where
  | ready
  | blocked (queue : Nat)
  | holding (segment : Nat)
  | exited
  deriving DecidableEq, Repr

-- a coordinator handler waiting in `join(timeout=5)`: `_stop_hotkey_stream` or
-- `_stop_listening`, called from a toggle or from `_force_idle` for a tray change
inductive TrayChange where
  | input (mode : InputMode)
  | output (mode : OutputMode)
  deriving DecidableEq, Repr

structure Joining where
  hotkey : Bool
  tray : Option TrayChange
  deriving DecidableEq, Repr

-- `WhisperLinuxApp` with its collaborators: the attributes the handlers read and write, and
-- the objects and threads they create, named by the ids they get from `nextId`; `deferred`
-- holds the `_set_state` calls queued for the Qt loop
structure WhisperLinuxApp where
  config : Config
  state : AppState
  recorderProc : Bool
  recorderWav : Option Nat
  audioStream : Option Nat
  vad : Bool
  wakeDetector : Option WakeWordDetector
  silenceTimer : Option Nat
  segmentQueue : Option Nat
  segmentWorker : Option Nat
  accumulatedTexts : List (List Char)
  wavFiles : List Nat
  pendingTimers : List Nat
  streams : Nat → Option StreamStatus
  queues : Nat → List (Option Nat)
  workers : Nat → Option WorkerPc
  batchJobs : List Nat
  joining : Option Joining
  deferred : List AppState
  nextId : Nat
  log : List Effect

def WhisperLinuxApp.init (config : Config) : WhisperLinuxApp where
  config := config
  state := .idle
  recorderProc := false
  recorderWav := none
  audioStream := none
  vad := false
  wakeDetector := none
  silenceTimer := none
  segmentQueue := none
  segmentWorker := none
  accumulatedTexts := []
  wavFiles := []
  pendingTimers := []
  streams := fun _ => none
  queues := fun _ => []
  workers := fun _ => none
  batchJobs := []
  joining := none
  deferred := []
  nextId := 0
  log := []

def WhisperLinuxApp.emit (app : WhisperLinuxApp) (effect : Effect) : WhisperLinuxApp := { app with log := app.log ++ [effect] }

-- `_set_state`; the tray icon is not modelled
def WhisperLinuxApp.setState (app : WhisperLinuxApp) (state : AppState) : WhisperLinuxApp := { app with state }

-- `_marshal_set_state`: the worker and timer threads queue the call for the Qt loop
def WhisperLinuxApp.marshalSetState (app : WhisperLinuxApp) (state : AppState) : WhisperLinuxApp :=
  { app with deferred := app.deferred ++ [state] }

def update {α : Type} (f : Nat → α) (key : Nat) (value : α) : Nat → α :=
  fun other => if other = key then value else f other

@[simp] theorem update_same {α : Type} (f : Nat → α) (key : Nat) (value : α) :
    update f key value key = value := by simp [update]

theorem update_other {α : Type} (f : Nat → α) (key other : Nat) (value : α)
    (different : other ≠ key) : update f key value other = f other := by
  simp [update, different]

theorem update_update {α : Type} (f : Nat → α) (key : Nat) (first second : α) :
    update (update f key first) key second = update f key second := by
  funext other
  by_cases same : other = key <;> simp [update, same]

end WhisperLinux.App
