import WhisperLinux.App.Coherence

set_option autoImplicit false

namespace WhisperLinux.App

open Commands

-- the states the coordinator reaches from `WhisperLinuxApp(config)`, each event handled to its
-- end, with no batch transcription completing after its PROCESSING session was left
inductive WhisperLinuxApp.Reachable (config : Config) : WhisperLinuxApp → Prop
  | init : WhisperLinuxApp.Reachable config (WhisperLinuxApp.init config)
  | handle {app next : WhisperLinuxApp} (event : Event) : WhisperLinuxApp.Reachable config app →
      event.current app.state = true → app.handle event = some next →
      WhisperLinuxApp.Reachable config next

theorem WhisperLinuxApp.Reachable.coherent {config : Config} {app : WhisperLinuxApp}
    (reachable : app.Reachable config) : app.Coherent := by
  induction reachable with
  | init => exact init_coherent config
  | handle event _ current handled coherent =>
    exact (handle_step _ _ event coherent current handled).1

-- a run of events of the table from a reachable state stays reachable, and follows the table's
-- run effect by effect
theorem handleAll_follows (config : Config) (app final : WhisperLinuxApp) (events : List Event)
    (reachable : app.Reachable config) (admitted : app.machine.admits events = true)
    (ran : app.handleAll events = some final) :
    final.Reachable config ∧ final.machine = (app.machine.run events).1 ∧
      ∃ effects, final.log = app.log ++ effects ∧
        effects.map Effect.action = (app.machine.run events).2 := by
  induction events generalizing app with
  | nil => cases ran; simp [Machine.run, reachable]
  | cons event rest ih =>
    simp only [Machine.admits, Bool.and_eq_true] at admitted
    obtain ⟨⟨tabled, current⟩, later⟩ := admitted
    obtain ⟨next, handled, rest_ran⟩ := Option.bind_eq_some.mp ran
    obtain ⟨moved, effects, logged, acted⟩ :=
      (handle_step app next event reachable.coherent current handled).2 tabled
    obtain ⟨stays, finished, more, relogged, reacted⟩ :=
      ih next (reachable.handle event current handled) (by rwa [moved]) rest_ran
    refine ⟨stays, by rw [finished, moved]; rfl, effects ++ more,
      by rw [relogged, logged, List.append_assoc], ?_⟩
    rw [List.map_append, acted, reacted, moved]
    rfl

-- what sections 3 and 8 ask of every state, in every state the coordinator reaches
theorem reachable_session_discipline (config : Config) (app : WhisperLinuxApp)
    (reachable : app.Reachable config) :
    (app.state = .idle → app.accumulatedTexts = [] ∧ app.silenceTimer = none) ∧
      (app.accumulatedTexts ≠ [] → app.state = .dictating ∧ app.config.outputMode = .batch) ∧
      (app.pendingTimers ≠ [] → app.state = .dictating ∧ app.config.inputMode = .listen) ∧
      (app.recorderProc = true ↔ app.state = .recording) := by
  obtain ⟨-, -, -, armed, accumulated, resources⟩ := reachable.coherent
  refine ⟨fun idle => ⟨?_, ?_⟩, accumulated, armed, ?_⟩
  · by_contra full; simp [accumulated full] at idle
  · simp only [idle] at resources; exact resources.1
  · cases state : app.state <;> simp_all [WhisperLinuxApp.Capturing]

-- listen input, stream output, chimes on
def listenStream : Config := ⟨.listen, .stream, true, false, defaultCommands, "дуняша".data⟩

-- the specification's wake-then-dictate scenario
def wakeThenDictate : List Event :=
  [.toggle .started, .segment "дуняша".data, .segment "привет мир".data, .segment "дуняша".data]

-- the scenario up to the dictated text: DICTATING with the silence timer armed
def dictatingSession : WhisperLinuxApp :=
  ((WhisperLinuxApp.init listenStream).handleAll (wakeThenDictate.take 3)).getD
    (WhisperLinuxApp.init listenStream)

set_option maxRecDepth 4000 in
theorem dictating_session_discipline :
    dictatingSession.Reachable listenStream ∧
      (dictatingSession.state = .idle →
        dictatingSession.accumulatedTexts = [] ∧ dictatingSession.silenceTimer = none) ∧
      (dictatingSession.accumulatedTexts ≠ [] →
        dictatingSession.state = .dictating ∧ dictatingSession.config.outputMode = .batch) ∧
      (dictatingSession.pendingTimers ≠ [] →
        dictatingSession.state = .dictating ∧ dictatingSession.config.inputMode = .listen) ∧
      (dictatingSession.recorderProc = true ↔ dictatingSession.state = .recording) :=
  have reachable : dictatingSession.Reachable listenStream :=
    (handleAll_follows listenStream _ _ (wakeThenDictate.take 3) .init (by decide) rfl).1
  ⟨reachable, reachable_session_discipline listenStream dictatingSession reachable⟩

set_option maxRecDepth 1000 in
example : ((WhisperLinuxApp.init listenStream).machine.run wakeThenDictate).2 =
    [.captureStart, .startChime, .injector (.inject "привет мир".data)] := by
  decide

end WhisperLinux.App
