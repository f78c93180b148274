import WhisperLinux.App.Threads
import WhisperLinux.App.Coherence
import Mathlib.Data.List.ReduceOption
import Mathlib.Logic.Relation

set_option autoImplicit false

namespace WhisperLinux.App

open Commands Transcriber

-- The segment queues under every interleaving of the threads. A step takes ids from `nextId`,
-- appends to the queue `_on_speech_end` or a stop reads, takes a head in a worker's `get`, or
-- gives a new session's queue its first contents; nothing else touches the queues. Whatever these
-- moves keep holds along every run, and `queue.Queue` then hands out each queue's segments in the
-- order the VAD emitted them, however many workers read it.

-- the part of the app a move of the queues reads and writes
structure QueueView where
  nextId : Nat
  queues : Nat → List (Option Nat)

def WhisperLinuxApp.queueView (app : WhisperLinuxApp) : QueueView := ⟨app.nextId, app.queues⟩

inductive QueueMove : QueueView → QueueView → Prop
  -- an id taken for a stream, a queue, a worker, a WAV file or a timer
  | allocate (view : QueueView) : QueueMove view ⟨view.nextId + 1, view.queues⟩
  -- `_on_speech_end` puts a segment under a fresh id
  | emit (view : QueueView) (queue : Nat) :
      QueueMove view
        ⟨view.nextId + 1, update view.queues queue (view.queues queue ++ [some view.nextId])⟩
  -- a stop puts the sentinel
  | close (view : QueueView) (queue : Nat) :
      QueueMove view ⟨view.nextId, update view.queues queue (view.queues queue ++ [none])⟩
  -- a worker's `get` takes the head
  | pop (view : QueueView) (queue : Nat) :
      QueueMove view ⟨view.nextId, update view.queues queue (view.queues queue).tail⟩
  -- `queue.Queue()` for a new session
  | clear (view : QueueView) (queue : Nat) :
      QueueMove view ⟨view.nextId, update view.queues queue []⟩

namespace QueueMove

theorem preserves {P : QueueView → Prop} (closed : ∀ {a b}, QueueMove a b → P a → P b)
    {a b : QueueView} (moves : Relation.ReflTransGen QueueMove a b) (holds : P a) : P b := by
  induction moves with
  | refl => exact holds
  | tail _ move kept => exact closed move kept

theorem allocate_many (view : QueueView) :
    ∀ count, Relation.ReflTransGen QueueMove view ⟨view.nextId + count, view.queues⟩
  | 0 => .refl
  | count + 1 => (allocate_many view count).tail (allocate _)

theorem allocated {a b : QueueView} (same : b.queues = a.queues) (grown : a.nextId ≤ b.nextId) :
    Relation.ReflTransGen QueueMove a b := by
  obtain ⟨nextId, queues⟩ := b
  cases same
  simpa [Nat.add_sub_cancel' grown] using allocate_many a (nextId - a.nextId)

end QueueMove

-- every queue holds ids already given out, in increasing order
def QueueView.Ordered (view : QueueView) : Prop :=
  ∀ queue, (view.queues queue).reduceOption.Pairwise (· < ·) ∧
    ∀ segment, some segment ∈ view.queues queue → segment < view.nextId

-- every segment the queue holds, and every id still to be given out, comes after `first`
def QueueView.After (queue first : Nat) (view : QueueView) : Prop :=
  first < view.nextId ∧ ∀ segment, some segment ∈ view.queues queue → first < segment

theorem mem_update {queues : Nat → List (Option Nat)} {queue other : Nat}
    {items : List (Option Nat)} {item : Option Nat}
    (member : item ∈ update queues queue items other) :
    item ∈ queues other ∨ (other = queue ∧ item ∈ items) := by
  by_cases same : other = queue
  · subst same; simp_all
  · simp_all [update_other]

theorem QueueMove.ordered {a b : QueueView} (move : QueueMove a b) (ordered : a.Ordered) :
    b.Ordered := by
  intro queue
  have ⟨sorted, below⟩ := ordered queue
  cases move with
  | allocate => exact ⟨sorted, fun segment member => Nat.lt_succ_of_lt (below segment member)⟩
  | emit target =>
    by_cases same : queue = target
    · subst same
      refine ⟨?_, fun segment member => ?_⟩
      · simp only [update_same, List.reduceOption_append, List.reduceOption_cons_of_some,
          List.reduceOption_nil, List.pairwise_append, List.pairwise_singleton, List.mem_singleton,
          forall_eq, sorted, true_and]
        exact fun segment member => below segment (List.reduceOption_mem_iff.mp member)
      · simp only [update_same, List.mem_append, List.mem_singleton, Option.some.injEq] at member
        rcases member with member | rfl
        · exact Nat.lt_succ_of_lt (below segment member)
        · exact Nat.lt_succ_self _
    · simp only [update_other _ _ _ _ same]
      exact ⟨sorted, fun segment member => Nat.lt_succ_of_lt (below segment member)⟩
  | close target =>
    by_cases same : queue = target
    · subst same
      simp only [update_same, List.reduceOption_append, List.reduceOption_cons_of_none,
        List.reduceOption_nil, List.append_nil, List.mem_append, List.mem_singleton, reduceCtorEq,
        or_false]
      exact ⟨sorted, below⟩
    · simp only [update_other _ _ _ _ same]
      exact ⟨sorted, below⟩
  | pop target =>
    by_cases same : queue = target
    · subst same
      simp only [update_same]
      exact ⟨sorted.sublist ((List.tail_sublist _).filterMap _),
        fun segment member => below segment (List.mem_of_mem_tail member)⟩
    · simp only [update_other _ _ _ _ same]
      exact ⟨sorted, below⟩
  | clear target =>
    by_cases same : queue = target
    · subst same
      simp
    · simp only [update_other _ _ _ _ same]
      exact ⟨sorted, below⟩

theorem QueueMove.after {a b : QueueView} {queue first : Nat} (move : QueueMove a b)
    (after : a.After queue first) : b.After queue first := by
  obtain ⟨early, later⟩ := after
  cases move with
  | allocate => exact ⟨Nat.lt_succ_of_lt early, later⟩
  | emit target =>
    refine ⟨Nat.lt_succ_of_lt early, fun segment member => ?_⟩
    rcases mem_update member with member | ⟨rfl, member⟩
    · exact later segment member
    · simp only [List.mem_append, List.mem_singleton, Option.some.injEq] at member
      rcases member with member | rfl
      · exact later segment member
      · exact early
  | close target =>
    refine ⟨early, fun segment member => ?_⟩
    rcases mem_update member with member | ⟨rfl, member⟩
    · exact later segment member
    · simp only [List.mem_append, List.mem_singleton, reduceCtorEq, or_false] at member
      exact later segment member
  | pop target =>
    refine ⟨early, fun segment member => ?_⟩
    rcases mem_update member with member | ⟨rfl, member⟩
    · exact later segment member
    · exact later segment (List.mem_of_mem_tail member)
  | clear target =>
    refine ⟨early, fun segment member => ?_⟩
    rcases mem_update member with member | ⟨-, member⟩
    · exact later segment member
    · cases member

section Handlers

variable (app : WhisperLinuxApp)

theorem reaches_of_eq {a b c : QueueView} (moves : Relation.ReflTransGen QueueMove a b)
    (same : c = b) : Relation.ReflTransGen QueueMove a c :=
  same ▸ moves

theorem stopEnd_queueView (hotkey : Bool) : (app.stopEnd hotkey).queueView = app.queueView := by
  cases hotkey <;> simp [WhisperLinuxApp.stopEnd, WhisperLinuxApp.setState, WhisperLinuxApp.queueView]

theorem recorderStop_queueView : app.recorderStop.1.queueView = app.queueView := by
  unfold WhisperLinuxApp.recorderStop; split <;> rfl

theorem stopRecording_queueView : app.stopRecording.queueView = app.queueView := by
  dsimp only [WhisperLinuxApp.stopRecording]
  split <;> exact recorderStop_queueView app

theorem transcribeAndInject_queueView (wav : Nat) (text : List Char) :
    (app.transcribeAndInject wav text).queueView = app.queueView := by
  unfold WhisperLinuxApp.transcribeAndInject
  split <;> simp [WhisperLinuxApp.setState, WhisperLinuxApp.injectText, WhisperLinuxApp.queueView]

theorem onSpeechStart_queueView : app.onSpeechStart.queueView = app.queueView := by
  unfold WhisperLinuxApp.onSpeechStart
  split <;> simp [WhisperLinuxApp.queueView]

theorem deliver_queues (text : List Char) : (app.deliver text).queues = app.queues := by
  unfold WhisperLinuxApp.deliver; split <;> rfl

theorem deliver_nextId (text : List Char) : (app.deliver text).nextId = app.nextId := by
  unfold WhisperLinuxApp.deliver; split <;> rfl

theorem onSpeechEnd_queueView (segment : Nat) :
    (app.onSpeechEnd segment).queueView = (app.putSegment (some segment)).queueView := by
  unfold WhisperLinuxApp.onSpeechEnd
  split <;> simp [WhisperLinuxApp.queueView]

theorem startRecording_moves (outcome : SpawnOutcome) :
    Relation.ReflTransGen QueueMove app.queueView (app.startRecording outcome).queueView := by
  unfold WhisperLinuxApp.startRecording WhisperLinuxApp.recorderStart
  apply QueueMove.allocated <;> repeat' split
  all_goals simp [WhisperLinuxApp.setState, WhisperLinuxApp.emit, WhisperLinuxApp.queueView]

theorem processSpeechSegment_moves (text : List Char) :
    Relation.ReflTransGen QueueMove app.queueView (app.processSpeechSegment text).queueView := by
  unfold WhisperLinuxApp.processSpeechSegment WhisperLinuxApp.onWakeWord
    WhisperLinuxApp.dictate WhisperLinuxApp.resetSilenceTimer
  apply QueueMove.allocated <;> repeat' split
  all_goals simp [WhisperLinuxApp.setState, WhisperLinuxApp.marshalSetState,
    WhisperLinuxApp.queueView, deliver_queues, deliver_nextId]

theorem onSilenceTimeout_moves (inSpeech : Bool) :
    Relation.ReflTransGen QueueMove app.queueView (app.onSilenceTimeout inSpeech).queueView := by
  unfold WhisperLinuxApp.onSilenceTimeout WhisperLinuxApp.resetSilenceTimer
  apply QueueMove.allocated <;> repeat' split
  all_goals simp [WhisperLinuxApp.setState, WhisperLinuxApp.marshalSetState,
    WhisperLinuxApp.queueView]

theorem startCapture_moves (wakeDetector : Option WakeWordDetector) (clearAccumulated : Bool)
    (target : AppState) (chime : Bool) (outcome : SpawnOutcome) :
    Relation.ReflTransGen QueueMove app.queueView
      (app.startCapture wakeDetector clearAccumulated target chime outcome).queueView := by
  have cleared : Relation.ReflTransGen QueueMove app.queueView
      ⟨app.nextId + 3, update app.queues (app.nextId + 1) []⟩ :=
    (QueueMove.allocated (a := app.queueView) (b := ⟨app.nextId + 3, app.queues⟩) rfl
      (Nat.le_add_right _ 3)).tail
      (QueueMove.clear _ (app.nextId + 1))
  unfold WhisperLinuxApp.startCapture
  by_cases started : outcome = .started
  · refine reaches_of_eq cleared ?_
    cases chime <;>
      simp [started, WhisperLinuxApp.setState, WhisperLinuxApp.emit, WhisperLinuxApp.queueView]
  · refine reaches_of_eq (cleared.tail (QueueMove.close _ (app.nextId + 1))) ?_
    simp [started, WhisperLinuxApp.queueView]

theorem stopBegin_moves (hotkey : Bool) :
    Relation.ReflTransGen QueueMove app.queueView (app.stopBegin hotkey).queueView := by
  simp only [WhisperLinuxApp.stopBegin, cancelSilenceTimer_eq, flushAccumulatedText_eq,
    dropAudioStream_eq, putSegment_eq]
  cases queued : app.segmentQueue with
  | none => exact reaches_of_eq .refl (by simp [WhisperLinuxApp.queueView, queued])
  | some queue =>
    exact reaches_of_eq (.single (QueueMove.close _ queue))
      (by simp [WhisperLinuxApp.queueView, queued])

theorem stopOrJoin_moves (hotkey : Bool) (tray : Option TrayChange) :
    Relation.ReflTransGen QueueMove app.queueView (app.stopOrJoin hotkey tray).queueView := by
  dsimp only [WhisperLinuxApp.stopOrJoin]
  split
  · exact stopBegin_moves app hotkey
  · exact reaches_of_eq (stopBegin_moves app hotkey) (stopEnd_queueView _ hotkey)

theorem toggle_moves (outcome : SpawnOutcome) :
    Relation.ReflTransGen QueueMove app.queueView (app.toggle outcome).queueView := by
  unfold WhisperLinuxApp.toggle WhisperLinuxApp.startListening WhisperLinuxApp.startHotkeyStream
  repeat' split
  all_goals first
    | exact startCapture_moves app _ _ _ _ outcome
    | exact stopOrJoin_moves app _ none
    | exact startRecording_moves app outcome
    | exact reaches_of_eq .refl (stopRecording_queueView app)
    | exact .refl

theorem applyTrayChange_moves (change : TrayChange) (outcome : SpawnOutcome) :
    Relation.ReflTransGen QueueMove app.queueView (app.applyTrayChange change outcome).queueView := by
  cases change with
  | input mode =>
    dsimp only [WhisperLinuxApp.applyTrayChange]
    split
    · exact toggle_moves { app with config.inputMode := mode } outcome
    · exact .refl
  | output mode => exact .refl

theorem stopped_moves (hotkey : Bool) (change : TrayChange) (outcome : SpawnOutcome) :
    Relation.ReflTransGen QueueMove app.queueView
      (((app.stopEnd hotkey).setState .idle).applyTrayChange change outcome).queueView :=
  (reaches_of_eq .refl (stopEnd_queueView app hotkey)).trans
    (applyTrayChange_moves ((app.stopEnd hotkey).setState .idle) change outcome)

theorem forceIdle_moves (change : TrayChange) (outcome : SpawnOutcome) :
    Relation.ReflTransGen QueueMove app.queueView (app.forceIdle change outcome).queueView := by
  dsimp only [WhisperLinuxApp.forceIdle]
  split
  case h_1 =>
    exact (reaches_of_eq .refl (recorderStop_queueView app)).trans
      (applyTrayChange_moves (app.recorderStop.1.setState .idle) change outcome)
  case h_4 => exact applyTrayChange_moves (app.setState .idle) change outcome
  all_goals
    generalize decide (app.config.inputMode = .hotkey ∧ app.state = .dictating) = hotkey
    have begun := stopBegin_moves app hotkey
    generalize app.stopBegin hotkey = stopping at begun ⊢
    split
    · exact begun
    · exact begun.trans (stopped_moves stopping hotkey change outcome)

theorem resume_moves (joining : Joining) (outcome : SpawnOutcome) :
    Relation.ReflTransGen QueueMove app.queueView (app.resume joining outcome).queueView := by
  dsimp only [WhisperLinuxApp.resume]
  split
  · exact stopped_moves { app with joining := none } joining.hotkey _ outcome
  · exact reaches_of_eq .refl (stopEnd_queueView { app with joining := none } joining.hotkey)

theorem onTrayChange_moves (change : TrayChange) (outcome : SpawnOutcome) :
    Relation.ReflTransGen QueueMove app.queueView (app.onTrayChange change outcome).queueView := by
  dsimp only [WhisperLinuxApp.onTrayChange]
  split
  · exact forceIdle_moves app change outcome
  · exact applyTrayChange_moves app change outcome

end Handlers

theorem step_moves (app next : WhisperLinuxApp) (step : Step) (stepped : app.step step = some next) :
    Relation.ReflTransGen QueueMove app.queueView next.queueView := by
  have ran := step_eq_some app next step stepped
  cases step with
  | toggle outcome =>
    obtain ⟨-, rfl⟩ := ran
    exact toggle_moves app outcome
  | trayChange change outcome =>
    obtain ⟨-, rfl⟩ := ran
    exact onTrayChange_moves app change outcome
  | joinReturns outcome =>
    obtain ⟨joining, -, rfl⟩ := ran
    exact resume_moves app joining outcome
  | dequeue worker =>
    obtain ⟨queue, _, rest, -, head, rfl⟩ := ran
    exact reaches_of_eq (.single (QueueMove.pop _ queue)) (by simp [WhisperLinuxApp.queueView,
      WhisperLinuxApp.setWorker, head])
  | process worker text =>
    obtain ⟨-, rfl⟩ := ran
    exact processSpeechSegment_moves app text
  | fire timer inSpeech =>
    obtain ⟨-, rfl⟩ := ran
    exact onSilenceTimeout_moves { app with pendingTimers := app.pendingTimers.erase timer } inSpeech
  | complete wav text =>
    obtain ⟨-, rfl⟩ := ran
    exact reaches_of_eq .refl (transcribeAndInject_queueView app wav text)
  | speechStart =>
    obtain ⟨-, rfl⟩ := ran
    exact reaches_of_eq .refl (onSpeechStart_queueView app)
  | speechEnd =>
    obtain ⟨-, rfl⟩ := ran
    refine reaches_of_eq (.single ?_) (onSpeechEnd_queueView _ app.nextId)
    cases queued : app.segmentQueue with
    | none => simpa [WhisperLinuxApp.queueView, queued] using QueueMove.allocate app.queueView
    | some queue =>
      simpa [WhisperLinuxApp.queueView, queued] using QueueMove.emit app.queueView queue
  | deliverDeferred =>
    obtain ⟨_, _, -, -, rfl⟩ := ran
    exact .refl
  | workerGet =>
    obtain ⟨-, rfl⟩ := ran
    exact .refl
  | timeoutGet =>
    obtain ⟨_, -, -, rfl⟩ := ran
    exact .refl
  | readerEnds =>
    obtain ⟨-, rfl⟩ := ran
    exact .refl

theorem runSteps_moves (app final : WhisperLinuxApp) (steps : List Step)
    (ran : app.runSteps steps = some final) :
    Relation.ReflTransGen QueueMove app.queueView final.queueView := by
  induction steps generalizing app with
  | nil =>
    cases ran
    exact .refl
  | cons step rest ih =>
    simp only [WhisperLinuxApp.runSteps, Option.bind_eq_some] at ran
    obtain ⟨next, stepped, ran⟩ := ran
    exact (step_moves app next step stepped).trans (ih next ran)

-- in every state any interleaving reaches, each queue holds segments already emitted, in the
-- order they were emitted
theorem reachable_queues_ordered (config : Config) (app : WhisperLinuxApp) (steps : List Step)
    (reached : (WhisperLinuxApp.init config).runSteps steps = some app) :
    app.queueView.Ordered :=
  QueueMove.preserves QueueMove.ordered (runSteps_moves _ _ steps reached)
    fun _ => by simp [WhisperLinuxApp.init, WhisperLinuxApp.queueView]

-- `queue.Queue` is first in, first out: once a worker has taken a segment, whatever any worker
-- takes from that queue later, over any interleaving, was emitted after it
theorem dequeue_follows_emission (config : Config) (app final : WhisperLinuxApp)
    (steps later : List Step) (worker queue first : Nat) (rest : List (Option Nat))
    (reached : (WhisperLinuxApp.init config).runSteps steps = some app)
    (blocked : app.workers worker = some (.blocked queue))
    (head : app.queues queue = some first :: rest)
    (ran : app.runSteps (.dequeue worker :: later) = some final) :
    ∀ segment, some segment ∈ final.queues queue → first < segment := by
  simp only [WhisperLinuxApp.runSteps, Option.bind_eq_some] at ran
  obtain ⟨taken, dequeued, ran⟩ := ran
  have ⟨sorted, emitted⟩ := reachable_queues_ordered config app steps reached queue
  simp only [WhisperLinuxApp.queueView, head, List.reduceOption_cons_of_some,
    List.pairwise_cons] at sorted emitted
  have after : taken.queueView.After queue first := by
    obtain ⟨_, _, _, blocked', head', rfl⟩ := step_eq_some app taken _ dequeued
    simp only [blocked, Option.some.injEq, WorkerPc.blocked.injEq] at blocked'
    subst blocked'
    simp only [head, List.cons.injEq] at head'
    obtain ⟨rfl, rfl⟩ := head'
    refine ⟨emitted first (List.mem_cons_self _ _), fun segment member => ?_⟩
    simp only [WhisperLinuxApp.queueView, WhisperLinuxApp.setWorker, update_same] at member
    exact sorted.1 segment (List.reduceOption_mem_iff.mpr member)
  exact (QueueMove.preserves QueueMove.after (runSteps_moves _ _ later ran) after).2

-- listen input: two segments emitted into the first session's queue, with the worker waiting
def twoSegments : List Step := [.toggle .started, .workerGet 2, .speechEnd, .speechEnd]

def twoQueued : WhisperLinuxApp :=
  ((WhisperLinuxApp.init listenBatch).runSteps twoSegments).getD (WhisperLinuxApp.init listenBatch)

-- the worker takes the first, drops it as blank, and waits on the queue again
def firstTaken : List Step := [.process 2 [], .workerGet 2]

def secondWaiting : WhisperLinuxApp :=
  (twoQueued.runSteps (.dequeue 2 :: firstTaken)).getD twoQueued

theorem second_segment_after_first :
    twoQueued.workers 2 = some (.blocked 1) ∧ twoQueued.queues 1 = [some 3, some 4] ∧
      secondWaiting.queues 1 = [some 4] ∧
      ∀ segment, some segment ∈ secondWaiting.queues 1 → 3 < segment :=
  have reached : (WhisperLinuxApp.init listenBatch).runSteps twoSegments = some twoQueued := rfl
  have blocked : twoQueued.workers 2 = some (.blocked 1) := by decide
  have head : twoQueued.queues 1 = [some 3, some 4] := by decide
  have ran : twoQueued.runSteps (.dequeue 2 :: firstTaken) = some secondWaiting := rfl
  ⟨blocked, head, by decide, dequeue_follows_emission listenBatch twoQueued secondWaiting twoSegments
    firstTaken 2 1 3 [some 4] reached blocked head ran⟩

end WhisperLinux.App
