import WhisperLinux.App.Refinement
import WhisperLinux.App.Threads

set_option autoImplicit false

namespace WhisperLinux.App

open Commands Transcriber Python

-- What the focused window receives of a dictation session: the strings `injector.inject`
-- types, one after another. In listen mode with voice commands off, stream output types each
-- accepted transcript by itself as it comes, and batch output types them all at the flush,
-- joined by spaces.

-- the text the focused window receives: the strings passed to `injector.inject`, in order
def received : List Effect → List Char
  | [] => []
  | .injector (.inject text) :: rest => text ++ received rest
  | _ :: rest => received rest

-- the same text, read off the table's actions
def typed : List Action → List Char
  | [] => []
  | .injector (.inject text) :: rest => text ++ typed rest
  | _ :: rest => typed rest

@[simp] theorem typed_append (first rest : List Action) :
    typed (first ++ rest) = typed first ++ typed rest := by
  induction first with
  | nil => rfl
  | cons action first ih =>
    rcases action with ((text | key) | _ | _ | _ | _ | _ | _) <;> simp [typed, ih]

@[simp] theorem typed_injections (texts : List (List Char)) :
    typed (texts.map fun text => .injector (.inject text)) = texts.flatten := by
  induction texts with
  | nil => rfl
  | cons text rest ih => simp [typed, ih]

theorem received_eq_typed (effects : List Effect) :
    received effects = typed (effects.map Effect.action) := by
  induction effects with
  | nil => rfl
  | cons effect rest ih =>
    rcases effect with ((text | key) | _ | _ | _ | _ | _ | _) <;> simp [received, typed, ih]

-- the flush points of a dictation session: a toggle, a silence timeout while the VAD is not in
-- speech, and a transcript that holds the wake phrase and nothing else
def FlushPoint (config : Config) : Event → Prop
  | .toggle _ => True
  | .silenceTimeout inSpeech => inSpeech = false
  | .segment text =>
    text ≠ [] ∧ (WakeWordDetector.new config.wakeWord).containsWakeWord text = true ∧
      (WakeWordDetector.new config.wakeWord).stripWakeWord text = []
  | _ => False

section Session

variable (m : Machine)

@[simp] theorem Machine.step_config (event : Event) : (m.step event).1.config = m.config := by
  unfold Machine.step; split <;> rfl

theorem Machine.run_append (first rest : List Event) :
    m.run (first ++ rest) =
      ((m.run first).1.run rest).map id ((m.run first).2 ++ ·) := by
  induction first generalizing m with
  | nil => simp [Machine.run, Prod.map]
  | cons event first ih => simp [Machine.run, ih, Prod.map]

-- a transcript dictated in listen mode with voice commands off: typed at once in stream
-- output, appended in batch output; the silence timer is armed either way
theorem step_dictated (text : List Char) (dictating : m.state = .dictating)
    (listen : m.config.inputMode = .listen) (plain : m.config.voiceCommands = false)
    (spoken : text ≠ []) (dictated : m.detector.containsWakeWord text = false) :
    m.step (.segment text) =
      (⟨m.config, .dictating,
        match m.config.outputMode with
        | .stream => m.accumulated
        | .batch => m.accumulated ++ [text], true⟩,
        match m.config.outputMode with
        | .stream => [.injector (.inject text)]
        | .batch => []) := by
  simp only [Machine.detector] at dictated
  cases output : m.config.outputMode <;>
    simp [Machine.step, Machine.row, dictating, listen, plain, spoken, dictated, output,
      injectText]

theorem run_dictated (texts : List (List Char)) (dictating : m.state = .dictating)
    (listen : m.config.inputMode = .listen) (plain : m.config.voiceCommands = false)
    (spoken : texts ≠ [])
    (accepted : ∀ text ∈ texts, text ≠ [] ∧ m.detector.containsWakeWord text = false) :
    m.run (texts.map .segment) =
      (⟨m.config, .dictating,
        match m.config.outputMode with
        | .stream => m.accumulated
        | .batch => m.accumulated ++ texts, true⟩,
        match m.config.outputMode with
        | .stream => texts.map fun text => .injector (.inject text)
        | .batch => []) := by
  induction texts generalizing m with
  | nil => contradiction
  | cons text rest ih =>
    have ⟨said, dictated⟩ := accepted text (List.mem_cons_self _ _)
    have later : ∀ text ∈ rest, text ≠ [] ∧ m.detector.containsWakeWord text = false :=
      fun text member => accepted text (List.mem_cons_of_mem _ member)
    rw [List.map_cons, Machine.run, step_dictated m text dictating listen plain said dictated]
    cases rest with
    | nil => cases output : m.config.outputMode <;> simp [Machine.run, output]
    | cons next more =>
      have dictatedRest := ih ⟨m.config, .dictating,
        match m.config.outputMode with
        | .stream => m.accumulated
        | .batch => m.accumulated ++ [text], true⟩ rfl listen plain (List.cons_ne_nil _ _) later
      dsimp only
      rw [dictatedRest]
      cases output : m.config.outputMode <;> simp [output]

theorem step_flush (flush : Event) (dictating : m.state = .dictating)
    (listen : m.config.inputMode = .listen) (plain : m.config.voiceCommands = false)
    (point : FlushPoint m.config flush) :
    typed (m.step flush).2 = if m.accumulated = [] then [] else join m.accumulated := by
  have flushed : typed (m.flush m.accumulated) =
      if m.accumulated = [] then [] else join m.accumulated := by
    split <;> simp_all [typed, injectText]
  cases flush with
  | toggle => simpa [Machine.step, Machine.row, dictating, listen, typed] using flushed
  | silenceTimeout inSpeech =>
    cases point
    by_cases chimes : m.config.endSignal <;>
      simpa [Machine.step, Machine.row, dictating, listen, typed, chimes] using flushed
  | segment text =>
    obtain ⟨said, wake, residue⟩ := point
    simpa [Machine.step, Machine.row, dictating, listen, said, wake, residue] using flushed
  | trayChange | transcribed => cases point

end Session

theorem admits_session (m : Machine) (texts : List (List Char)) (flush : Event)
    (point : FlushPoint m.config flush) :
    m.admits (texts.map .segment ++ [flush]) = true := by
  induction texts generalizing m with
  | nil =>
    cases flush <;> simp [FlushPoint, Machine.admits, Event.tabled, Event.current] at point ⊢
  | cons text rest ih => exact ih _ (by rwa [Machine.step_config])

-- a listen-mode dictation session with voice commands off: from DICTATING with nothing
-- accumulated, accepted transcripts that are not the wake phrase, then a flush point; stream
-- output types the transcripts one after another, batch output types them joined by spaces
theorem dictation_received (config : Config) (app final : WhisperLinuxApp)
    (texts : List (List Char)) (flush : Event) (reachable : app.Reachable config)
    (dictating : app.state = .dictating) (listen : app.config.inputMode = .listen)
    (plain : app.config.voiceCommands = false) (fresh : app.accumulatedTexts = [])
    (spoken : texts ≠ [])
    (accepted : ∀ text ∈ texts,
      text ≠ [] ∧ (WakeWordDetector.new app.config.wakeWord).containsWakeWord text = false)
    (point : FlushPoint app.config flush)
    (ran : app.handleAll (texts.map .segment ++ [flush]) = some final) :
    received (final.log.drop app.log.length) =
      match app.config.outputMode with
      | .stream => texts.flatten
      | .batch => join texts := by
  obtain ⟨-, -, effects, logged, acted⟩ :=
    handleAll_follows config app final _ reachable (admits_session app.machine texts flush point)
      ran
  have dictated := run_dictated app.machine texts dictating listen plain spoken accepted
  rw [logged, List.drop_left, received_eq_typed, acted, Machine.run_append, dictated]
  simp only [WhisperLinuxApp.machine, fresh, List.nil_append]
  cases output : app.config.outputMode
  case stream =>
    have flushed := step_flush ⟨app.config, .dictating, [], true⟩ flush rfl listen plain point
    simp_all [Machine.run, typed]
  case batch =>
    have flushed :=
      step_flush ⟨app.config, .dictating, texts, true⟩ flush rfl listen plain point
    simp_all [Machine.run, typed]

-- the wake phrase heard in listen mode: DICTATING, with nothing accumulated
def wakeUp : List Event := [.toggle .started, .segment "дуняша".data]

def dictationStarted (config : Config) : WhisperLinuxApp :=
  ((WhisperLinuxApp.init config).handleAll wakeUp).getD (WhisperLinuxApp.init config)

def twoTranscripts : List (List Char) := ["привет".data, "мир".data]

def dictationEnded (config : Config) : WhisperLinuxApp :=
  ((dictationStarted config).handleAll (twoTranscripts.map .segment ++ [.toggle .started])).getD
    (dictationStarted config)

-- the same session in the two output modes: stream output runs the words together
set_option maxRecDepth 4000 in
theorem two_transcripts_received :
    received ((dictationEnded listenStream).log.drop (dictationStarted listenStream).log.length) =
        "приветмир".data ∧
      received ((dictationEnded listenBatch).log.drop (dictationStarted listenBatch).log.length) =
        "привет мир".data :=
  have accepted : ∀ text ∈ twoTranscripts, text ≠ [] ∧
      (WakeWordDetector.new "дуняша".data).containsWakeWord text = false := by
    decide
  ⟨dictation_received listenStream _ _ twoTranscripts (.toggle .started)
      (handleAll_follows listenStream _ _ wakeUp .init (by decide) rfl).1 rfl rfl rfl rfl
      (by decide) accepted trivial rfl,
    dictation_received listenBatch _ _ twoTranscripts (.toggle .started)
      (handleAll_follows listenBatch _ _ wakeUp .init (by decide) rfl).1 rfl rfl rfl rfl
      (by decide) accepted trivial rfl⟩

end WhisperLinux.App
