import WhisperLinux.App.Events

set_option autoImplicit false

namespace WhisperLinux.App

open Commands Transcriber Python

-- The transition table of the coordinator, as a machine over the state the table speaks of:
-- the app state, the accumulated texts and whether the silence timer is armed. It is the
-- design the coordinator is meant to follow; `WhisperLinuxApp.machine` maps the model of the
-- code onto it.

-- what the effects of a row are, with the ids of the objects involved forgotten
inductive Action where
  | injector (call : Injection)
  | recorderStart
  | recorderStop
  | captureStart
  | captureStop
  | startChime
  | endChime
  deriving DecidableEq, Repr

@[simp] def Effect.action : Effect → Action
  | .injector call => .injector call
  | .recorderStart => .recorderStart
  | .recorderStop => .recorderStop
  | .streamStart _ => .captureStart
  | .streamStop _ => .captureStop
  | .startSignal => .startChime
  | .endSignal => .endChime

@[simp] theorem action_comp_injector : Effect.action ∘ Effect.injector = Action.injector := rfl

structure Machine where
  config : Config
  state : AppState
  accumulated : List (List Char)
  timerArmed : Bool

-- a row: the state it leads to, whether it arms the silence timer, the accumulated texts
-- after it, and its effects
structure Row where
  target : AppState
  arms : Bool
  accumulated : List (List Char)
  actions : List Action

namespace Machine

variable (m : Machine)

-- the chimes sound when `end_signal` is configured
@[simp] def chime (action : Action) : List Action := if m.config.endSignal then [action] else []

-- a text injected through `VoiceCommands` when they are enabled
@[simp] def inject (text : List Char) : List Action :=
  (Commands.injectText m.config.voiceCommands m.config.commands text).map .injector

-- "flush accumulated": the accumulated texts, joined by spaces, as one injection
@[simp] def flush (accumulated : List (List Char)) : List Action :=
  if accumulated = [] then [] else m.inject (join accumulated)

@[simp] def detector : WakeWordDetector := WakeWordDetector.new m.config.wakeWord

-- the row an event matches; a capture or recorder that fails to start returns the machine to
-- IDLE, and a text the worker does not hand on (an empty transcript) matches no row
def row : Event → Option Row
  | .toggle outcome =>
    match m.state with
    | .idle =>
      if outcome = .started then
        match m.config.inputMode, m.config.outputMode with
        | .hotkey, .batch => some ⟨.recording, false, m.accumulated, [.recorderStart]⟩
        | .hotkey, .stream => some ⟨.dictating, false, [], .captureStart :: m.chime .startChime⟩
        | .listen, _ => some ⟨.listening, false, m.accumulated, [.captureStart]⟩
      else some ⟨.idle, false, m.accumulated, []⟩
    | .recording => some ⟨.processing, false, m.accumulated, [.recorderStop]⟩
    | .processing => none
    | .listening => some ⟨.idle, false, [], m.flush m.accumulated ++ [.captureStop]⟩
    | .dictating =>
      match m.config.inputMode with
      | .hotkey =>
        some ⟨.idle, false, [], m.flush m.accumulated ++ .captureStop :: m.chime .endChime⟩
      | .listen => some ⟨.idle, false, [], m.flush m.accumulated ++ [.captureStop]⟩
  | .trayChange _ _ => none
  | .segment text =>
    if text = [] then none
    else
      let wake := m.config.inputMode = .listen ∧ m.detector.containsWakeWord text
      match m.state with
      | .listening =>
        if wake then some ⟨.dictating, false, [], m.chime .startChime⟩
        else some ⟨.listening, false, m.accumulated, []⟩
      | .dictating =>
        if wake then
          let residue := m.detector.stripWakeWord text
          if residue = [] then some ⟨.listening, false, [], m.flush m.accumulated⟩
          else
            match m.config.outputMode with
            | .stream => some ⟨.listening, false, [], m.inject residue ++ m.flush m.accumulated⟩
            | .batch => some ⟨.listening, false, [], m.flush (m.accumulated ++ [residue])⟩
        else
          match m.config.outputMode with
          | .stream => some ⟨.dictating, m.config.inputMode = .listen, m.accumulated, m.inject text⟩
          | .batch => some ⟨.dictating, m.config.inputMode = .listen, m.accumulated ++ [text], []⟩
      | _ => none
  -- a result whose session is over is stale, and dropped
  | .transcribed _ text =>
    match m.state with
    | .processing =>
      some ⟨.idle, false, m.accumulated,
        (if text = [] then [] else m.inject text) ++ m.chime .endChime⟩
    | _ => none
  | .silenceTimeout inSpeech =>
    match m.state, m.config.inputMode with
    | .dictating, .listen =>
      if inSpeech then some ⟨.dictating, true, m.accumulated, []⟩
      else some ⟨.listening, false, [], m.flush m.accumulated ++ m.chime .endChime⟩
    | _, _ => none

-- the timer stays armed while the machine stays in DICTATING, unless the row rearms it
@[simp] def take (row : Row) : Machine × List Action :=
  ({ m with
    state := row.target, accumulated := row.accumulated
    timerArmed := row.arms || (row.target = .dictating && m.timerArmed) }, row.actions)

-- an event with no row changes nothing
def step (event : Event) : Machine × List Action :=
  match m.row event with
  | some row => m.take row
  | none => (m, [])

def run : Machine → List Event → Machine × List Action
  | m, [] => (m, [])
  | m, event :: rest => ((m.step event).1.run rest).map id ((m.step event).2 ++ ·)

end Machine

-- the events the table has rows for: a tray mode change is not among them
def Event.tabled : Event → Bool
  | .trayChange _ _ => false
  | _ => true

-- a batch transcription completes while its PROCESSING session is still on
def Event.current (state : AppState) : Event → Bool
  | .transcribed _ _ => state = .processing
  | _ => true

-- the runs the refinement speaks of: tabled events, and no stale batch completion
def Machine.admits : Machine → List Event → Bool
  | _, [] => true
  | m, event :: rest => event.tabled && event.current m.state && (m.step event).1.admits rest

-- the abstraction: the timer is armed when one is pending, neither fired nor cancelled
def WhisperLinuxApp.machine (app : WhisperLinuxApp) : Machine :=
  ⟨app.config, app.state, app.accumulatedTexts, !app.pendingTimers.isEmpty⟩

-- one event handled as its row says: the abstract state moves by the row, and the log grows
-- by the row's actions
def WhisperLinuxApp.FollowsRow (next app : WhisperLinuxApp) (event : Event) : Prop :=
  next.machine = (app.machine.step event).1 ∧
    ∃ effects, next.log = app.log ++ effects ∧
      effects.map Effect.action = (app.machine.step event).2

end WhisperLinux.App
