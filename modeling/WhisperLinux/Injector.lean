import WhisperLinux.Config
import WhisperLinux.Commands.Trace

set_option autoImplicit false

namespace WhisperLinux.Injector

open Python

-- `TextInjector`: `inject` and `send_key` run a chain of tools with `subprocess.run(...,
-- check=True)`, each `try` catching the failures it names and falling back to the next tool.
-- The system is a `Shell`, which decides how each call ends given the calls made before it;
-- an `Action` is code that makes calls: it extends the trace of calls and either returns
-- normally or raises.

-- how `subprocess.run(..., check=True)` ends: normally, or with the exception it raises;
-- `other` is `TimeoutExpired` and the `OSError`s other than `FileNotFoundError`
inductive Outcome where
  | success
  | calledProcessError
  | fileNotFound
  | runtimeError
  | other
  deriving DecidableEq, Repr

structure Call where
  argv : List String
  input : Option String
  deriving DecidableEq, Repr

abbrev Trace := List (Call × Outcome)

abbrev Shell := Trace → Call → Outcome

abbrev Action := Trace → Trace × Outcome

namespace Action

def done : Action := fun trace => (trace, .success)

-- `subprocess.run(call, check=True)`
def attempt (shell : Shell) (call : Call) : Action := fun trace =>
  (trace ++ [(call, shell trace call)], shell trace call)

def andThen (a b : Action) : Action := fun trace =>
  if (a trace).2 = .success then b (a trace).1 else a trace

-- `try: body except caught: handler else: rest`
def tryElse (body : Action) (caught : Outcome → Bool) (handler rest : Action) : Action :=
  fun trace =>
    if (body trace).2 = .success then rest (body trace).1
    else if caught (body trace).2 then handler (body trace).1
    else body trace

-- `try: body except caught: handler`
def catching (body : Action) (caught : Outcome → Bool) (handler : Action) : Action :=
  tryElse body caught handler done

end Action

-- `except (subprocess.CalledProcessError, FileNotFoundError)`
def failedToRun : Outcome → Bool
  | .calledProcessError | .fileNotFound => true
  | _ => false

section Calls

variable {F : Type} (shell : Shell) (c : Config F)

def isAscii (text : List Char) : Bool := text.all fun ch => ch.toNat < 128

def injectClipboardX11 (text : List Char) : Action :=
  (Action.attempt shell ⟨["xclip", "-selection", "clipboard"], some (String.mk text)⟩).andThen
    (Action.attempt shell ⟨["xdotool", "key", "--clearmodifiers", "ctrl+v"], none⟩)

def injectX11 (text : List Char) : Action :=
  if c.useClipboardFallback || !isAscii text then injectClipboardX11 shell text
  else
    (Action.attempt shell ⟨["xdotool", "type", "--clearmodifiers", "--", String.mk text], none⟩).catching
      failedToRun (injectClipboardX11 shell text)

-- the end of `_inject_wayland`: `paste_keys` through ydotool, else xdotool, else the text is
-- left on the clipboard
def pasteWayland : Action :=
  (Action.attempt shell ⟨["ydotool", "key", "--delay", "100", String.mk c.pasteKeys], none⟩).catching
    (fun e => failedToRun e || e == .runtimeError)
    ((Action.attempt shell ⟨["xdotool", "key", "--clearmodifiers", String.mk c.pasteKeys], none⟩).catching
      failedToRun Action.done)

def injectWayland (text : List Char) : Action :=
  (Action.attempt shell ⟨["wtype", "--", String.mk text], none⟩).catching failedToRun
    (((Action.attempt shell ⟨["wl-copy", "--", String.mk text], none⟩).andThen
        (Action.attempt shell ⟨["wl-copy", "--primary", "--", String.mk text], none⟩)).tryElse
      failedToRun (injectX11 shell c text) (pasteWayland shell c))

def inject (text : List Char) : Action :=
  if text.isEmpty then Action.done
  else if c.displayServer = "wayland".toList then injectWayland shell c text
  else injectX11 shell c text

-- `_YDOTOOL_KEY_MAP.get(p, p)`
def ydotoolKeyName (p : String) : String :=
  if p = "Return" then "Enter" else if p = "Escape" then "Esc" else p

-- the `wtype` command of `_send_key_wayland`: each modifier with `-M`, in lower case
def wtypeKeyArgs (key : List Char) : List String :=
  if '+' ∈ key then
    let parts := key.splitOn '+'
    ["wtype"] ++ (parts.dropLast.flatMap fun m => ["-M", String.mk (lowerText m)]) ++
      ["-k", String.mk (parts.getLastD [])]
  else ["wtype", "-k", String.mk key]

-- the `evdev_key` of `_send_key_wayland`
def evdevKey (key : List Char) : String :=
  if '+' ∈ key then "+".intercalate ((key.splitOn '+').map fun p => ydotoolKeyName (String.mk p))
  else ydotoolKeyName (String.mk key)

def sendKeyX11 (key : List Char) : Action :=
  (Action.attempt shell ⟨["xdotool", "key", "--clearmodifiers", String.mk key], none⟩).catching
    failedToRun Action.done

def sendKeyWayland (key : List Char) : Action :=
  (Action.attempt shell ⟨wtypeKeyArgs key, none⟩).catching failedToRun
    ((Action.attempt shell ⟨["ydotool", "key", "--delay", "50", evdevKey key], none⟩).catching
      failedToRun
      ((Action.attempt shell ⟨["xdotool", "key", "--clearmodifiers", String.mk key], none⟩).catching
        failedToRun Action.done))

def sendKey (key : List Char) : Action :=
  if c.displayServer = "wayland".toList then sendKeyWayland shell key else sendKeyX11 shell key

-- `inject_fn` and `send_key_fn`, as `VoiceCommands.process` and `_inject_text` call them
def perform (call : Commands.Injection) : Action :=
  match call with
  | .inject text => inject shell c text
  | .sendKey key => sendKey shell c key

-- the calls of `_inject_text` made one after the other; an exception ends the run
def performAll (calls : List Commands.Injection) : Action :=
  calls.foldr (fun call rest => (perform shell c call).andThen rest) Action.done

-- `WhisperLinuxApp._inject_text`, run against the tools
def injectText (text : List Char) : Action :=
  performAll shell c (Commands.injectText c.voiceCommands c.voiceCommandsMap text)

end Calls

section Delivery

-- the calls that put text or a key press in front of the user: typing and key presses
def Call.delivers (call : Call) : Bool :=
  match call.argv with
  | "xdotool" :: "type" :: _ | "xdotool" :: "key" :: _ | "wtype" :: _ | "ydotool" :: "key" :: _ =>
    true
  | _ => false

def deliveries (calls : Trace) : Nat :=
  calls.countP fun made => made.2 == .success && made.1.delivers

@[simp]
theorem deliveries_nil : deliveries [] = 0 := rfl

@[simp]
theorem deliveries_append (older newer : Trace) :
    deliveries (older ++ newer) = deliveries older + deliveries newer :=
  List.countP_append _ _ _

namespace Action

-- `a` only appends to the trace, and what it appends delivers at most `n` times
def DeliversAtMost (n : Nat) (a : Action) : Prop :=
  ∀ trace, ∃ new, (a trace).1 = trace ++ new ∧ deliveries new ≤ n

-- `a` only appends to the trace, and delivers at most once, and then returns normally
def DeliversOnce (a : Action) : Prop :=
  ∀ trace, ∃ new, (a trace).1 = trace ++ new ∧
    (deliveries new = 0 ∨ deliveries new = 1 ∧ (a trace).2 = .success)

theorem done_deliversAtMost : done.DeliversAtMost 0 :=
  fun trace => ⟨[], (List.append_nil trace).symm, Nat.le_refl 0⟩

theorem attempt_deliversOnce (shell : Shell) (call : Call) : (attempt shell call).DeliversOnce := by
  intro trace
  refine ⟨[(call, shell trace call)], rfl, ?_⟩
  show deliveries [(call, shell trace call)] = 0 ∨ _ ∧ shell trace call = .success
  cases shell trace call <;> cases quiet : call.delivers <;> simp [deliveries, quiet]

theorem attempt_deliversAtMost (shell : Shell) (call : Call) (quiet : call.delivers = false) :
    (attempt shell call).DeliversAtMost 0 :=
  fun trace => ⟨[(call, shell trace call)], rfl, by simp [deliveries, quiet]⟩

theorem DeliversAtMost.deliversOnce {a : Action} (silent : a.DeliversAtMost 0) : a.DeliversOnce :=
  fun trace => (silent trace).imp fun _ ⟨grown, nothing⟩ => ⟨grown, .inl (Nat.le_zero.mp nothing)⟩

theorem DeliversOnce.deliversAtMost {a : Action} (once : a.DeliversOnce) : a.DeliversAtMost 1 := by
  intro trace
  obtain ⟨new, grown, nothing | ⟨one, _⟩⟩ := once trace <;> exact ⟨new, grown, by omega⟩

theorem DeliversOnce.of_raised {a : Action} (once : a.DeliversOnce) (trace : Trace)
    (raised : (a trace).2 ≠ .success) : ∃ new, (a trace).1 = trace ++ new ∧ deliveries new = 0 := by
  obtain ⟨new, grown, nothing | ⟨_, ok⟩⟩ := once trace
  · exact ⟨new, grown, nothing⟩
  · exact absurd ok raised

theorem DeliversAtMost.andThen {m n : Nat} {a b : Action} (first : a.DeliversAtMost m)
    (second : b.DeliversAtMost n) : (a.andThen b).DeliversAtMost (m + n) := by
  intro trace
  obtain ⟨new, grown, few⟩ := first trace
  unfold Action.andThen
  split
  · obtain ⟨more, grown', few'⟩ := second (a trace).1
    refine ⟨new ++ more, by rw [grown', grown, List.append_assoc], ?_⟩
    rw [deliveries_append]
    omega
  · exact ⟨new, grown, by omega⟩

theorem DeliversAtMost.andThen_deliversOnce {a b : Action} (first : a.DeliversAtMost 0)
    (second : b.DeliversOnce) : (a.andThen b).DeliversOnce := by
  intro trace
  obtain ⟨new, grown, nothing⟩ := first trace
  unfold Action.andThen
  split
  · obtain ⟨more, grown', once⟩ := second (a trace).1
    refine ⟨new ++ more, by rw [grown', grown, List.append_assoc], ?_⟩
    rw [deliveries_append, Nat.le_zero.mp nothing, Nat.zero_add]
    exact once
  · exact ⟨new, grown, .inl (Nat.le_zero.mp nothing)⟩

theorem DeliversAtMost.tryElse {body handler rest : Action} (caught : Outcome → Bool)
    (first : body.DeliversAtMost 0) (onRaise : handler.DeliversOnce) (onReturn : rest.DeliversOnce) :
    (body.tryElse caught handler rest).DeliversOnce := by
  intro trace
  obtain ⟨new, grown, nothing⟩ := first trace
  have silent : deliveries new = 0 := Nat.le_zero.mp nothing
  have after : ∀ next : Action, next.DeliversOnce → ∃ new', (next (body trace).1).1 = trace ++ new' ∧
      (deliveries new' = 0 ∨ deliveries new' = 1 ∧ (next (body trace).1).2 = .success) := by
    intro next once
    obtain ⟨more, grown', result⟩ := once (body trace).1
    refine ⟨new ++ more, by rw [grown', grown, List.append_assoc], ?_⟩
    rwa [deliveries_append, silent, Nat.zero_add]
  unfold Action.tryElse
  split_ifs
  · exact after rest onReturn
  · exact after handler onRaise
  · exact ⟨new, grown, .inl silent⟩

theorem DeliversOnce.catching {body handler : Action} (caught : Outcome → Bool)
    (first : body.DeliversOnce) (onRaise : handler.DeliversOnce) :
    (body.catching caught handler).DeliversOnce := by
  intro trace
  unfold Action.catching Action.tryElse
  split_ifs with ok
  · obtain ⟨new, grown, result⟩ := first trace
    exact ⟨new, grown, result.imp_right fun ⟨one, _⟩ => ⟨one, rfl⟩⟩
  · obtain ⟨new, grown, silent⟩ := first.of_raised trace ok
    obtain ⟨more, grown', result⟩ := onRaise (body trace).1
    refine ⟨new ++ more, by rw [grown', grown, List.append_assoc], ?_⟩
    rwa [deliveries_append, silent, Nat.zero_add]
  · obtain ⟨new, grown, silent⟩ := first.of_raised trace ok
    exact ⟨new, grown, .inl silent⟩

end Action

open Action

variable {F : Type} (shell : Shell) (c : Config F)

theorem injectClipboardX11_deliversOnce (text : List Char) :
    (injectClipboardX11 shell text).DeliversOnce :=
  (attempt_deliversAtMost shell ⟨["xclip", "-selection", "clipboard"], some (String.mk text)⟩
    rfl).andThen_deliversOnce (attempt_deliversOnce shell _)

theorem injectX11_deliversOnce (text : List Char) : (injectX11 shell c text).DeliversOnce := by
  unfold injectX11
  split
  · exact injectClipboardX11_deliversOnce shell text
  · exact (attempt_deliversOnce shell _).catching _ (injectClipboardX11_deliversOnce shell text)

theorem pasteWayland_deliversOnce : (pasteWayland shell c).DeliversOnce :=
  (attempt_deliversOnce shell _).catching _
    ((attempt_deliversOnce shell _).catching _ done_deliversAtMost.deliversOnce)

theorem injectWayland_deliversOnce (text : List Char) : (injectWayland shell c text).DeliversOnce :=
  (attempt_deliversOnce shell _).catching _
    (((attempt_deliversAtMost shell ⟨["wl-copy", "--", String.mk text], none⟩ rfl).andThen
      (attempt_deliversAtMost shell ⟨["wl-copy", "--primary", "--", String.mk text], none⟩ rfl)).tryElse
      _ (injectX11_deliversOnce shell c text) (pasteWayland_deliversOnce shell c))

theorem inject_deliversOnce (text : List Char) : (inject shell c text).DeliversOnce := by
  unfold inject
  split_ifs
  · exact done_deliversAtMost.deliversOnce
  · exact injectWayland_deliversOnce shell c text
  · exact injectX11_deliversOnce shell c text

theorem sendKey_deliversOnce (key : List Char) : (sendKey shell c key).DeliversOnce := by
  unfold sendKey sendKeyWayland sendKeyX11
  split_ifs
  · exact (attempt_deliversOnce shell _).catching _ ((attempt_deliversOnce shell _).catching _
      ((attempt_deliversOnce shell _).catching _ done_deliversAtMost.deliversOnce))
  · exact (attempt_deliversOnce shell _).catching _ done_deliversAtMost.deliversOnce

theorem performAll_deliversAtMost (calls : List Commands.Injection) :
    (performAll shell c calls).DeliversAtMost calls.length := by
  induction calls with
  | nil => exact done_deliversAtMost
  | cons call rest ih =>
    have once : (perform shell c call).DeliversOnce := by
      cases call with
      | inject text => exact inject_deliversOnce shell c text
      | sendKey key => exact sendKey_deliversOnce shell c key
    rw [List.length_cons, Nat.add_comm]
    exact once.deliversAtMost.andThen ih

-- whichever tools fail, `_inject_text` delivers at most once for each call the command layer
-- makes: no fallback chain types or pastes twice
theorem injectText_deliversAtMost (text : List Char) :
    (injectText shell c text).DeliversAtMost
      (Commands.injectText c.voiceCommands c.voiceCommandsMap text).length :=
  performAll_deliversAtMost shell c _

end Delivery

section Failure

namespace Action

-- `a` raises `CalledProcessError` or `FileNotFoundError` only as the exception of its last
-- call, and only when that call is one of `allowed`
def FailsOnlyAt (allowed : Call → Bool) (a : Action) : Prop :=
  ∀ trace, failedToRun (a trace).2 = true →
    ∃ call, allowed call = true ∧ (a trace).1.getLast? = some (call, (a trace).2)

variable {allowed : Call → Bool}

theorem done_failsOnlyAt : done.FailsOnlyAt allowed :=
  fun _ raised => absurd raised Bool.false_ne_true

theorem attempt_failsOnlyAt (shell : Shell) (call : Call) (named : allowed call = true) :
    (attempt shell call).FailsOnlyAt allowed :=
  fun trace _ => ⟨call, named, List.getLast?_concat trace⟩

theorem FailsOnlyAt.andThen {a b : Action} (first : a.FailsOnlyAt allowed)
    (second : b.FailsOnlyAt allowed) : (a.andThen b).FailsOnlyAt allowed := by
  intro trace
  unfold Action.andThen
  split
  · exact second _
  · exact first trace

theorem FailsOnlyAt.tryElse {handler rest : Action} (body : Action) {caught : Outcome → Bool}
    (covers : ∀ e, failedToRun e = true → caught e = true)
    (onRaise : handler.FailsOnlyAt allowed) (onReturn : rest.FailsOnlyAt allowed) :
    (body.tryElse caught handler rest).FailsOnlyAt allowed := by
  intro trace raised
  unfold Action.tryElse at raised ⊢
  split_ifs at raised ⊢ with ok uncaught
  · exact onReturn _ raised
  · exact onRaise _ raised
  · exact absurd (covers _ raised) uncaught

theorem FailsOnlyAt.catching {handler : Action} (body : Action)
    (onRaise : handler.FailsOnlyAt allowed) :
    (body.catching failedToRun handler).FailsOnlyAt allowed :=
  .tryElse body (fun _ => id) onRaise done_failsOnlyAt

end Action

open Action

variable {F : Type} (shell : Shell) (c : Config F)

def clipboardX11Call (call : Call) : Bool :=
  call.argv == ["xclip", "-selection", "clipboard"] ||
    call.argv == ["xdotool", "key", "--clearmodifiers", "ctrl+v"]

theorem injectClipboardX11_failsOnlyAt (text : List Char) :
    (injectClipboardX11 shell text).FailsOnlyAt clipboardX11Call :=
  (attempt_failsOnlyAt shell _ rfl).andThen (attempt_failsOnlyAt shell _ rfl)

theorem injectX11_failsOnlyAt (text : List Char) :
    (injectX11 shell c text).FailsOnlyAt clipboardX11Call := by
  unfold injectX11
  split
  · exact injectClipboardX11_failsOnlyAt shell text
  · exact .catching _ (injectClipboardX11_failsOnlyAt shell text)

-- `inject` lets `CalledProcessError` and `FileNotFoundError` through only from `xclip` or
-- the `ctrl+v` that follows it: every other tool's failure is caught
theorem inject_failsOnlyAt (text : List Char) :
    (inject shell c text).FailsOnlyAt clipboardX11Call := by
  unfold inject injectWayland pasteWayland
  split_ifs
  · exact done_failsOnlyAt
  · exact .catching _ (.tryElse _ (fun _ => id) (injectX11_failsOnlyAt shell c text)
      (.tryElse _ (fun _ failed => by rw [failed, Bool.true_or])
        (.catching _ done_failsOnlyAt) done_failsOnlyAt))
  · exact injectX11_failsOnlyAt shell c text

theorem sendKey_failsOnlyAt (allowed : Call → Bool) (key : List Char) :
    (sendKey shell c key).FailsOnlyAt allowed := by
  unfold sendKey sendKeyWayland sendKeyX11
  split_ifs
  · exact .catching _ (.catching _ (.catching _ done_failsOnlyAt))
  · exact .catching _ done_failsOnlyAt

theorem performAll_failsOnlyAt (calls : List Commands.Injection) :
    (performAll shell c calls).FailsOnlyAt clipboardX11Call := by
  induction calls with
  | nil => exact done_failsOnlyAt
  | cons call rest ih =>
    refine FailsOnlyAt.andThen ?_ ih
    cases call with
    | inject text => exact inject_failsOnlyAt shell c text
    | sendKey key => exact sendKey_failsOnlyAt shell c _ key

-- the `CalledProcessError` or `FileNotFoundError` that `_inject_text` raises is the
-- X11 clipboard path's, and it ends the run: the calls after it are not made
theorem injectText_failsOnlyAt (text : List Char) :
    (injectText shell c text).FailsOnlyAt clipboardX11Call :=
  performAll_failsOnlyAt shell c _

end Failure

section Working

open Action

variable {F : Type} (shell : Shell) (c : Config F)
  (works : ∀ trace call, shell trace call = .success)

include works in
theorem attempt_of_working (call : Call) (trace : Trace) :
    attempt shell call trace = (trace ++ [(call, .success)], .success) := by
  rw [attempt, works]

theorem catching_of_returned {body handler : Action} {caught : Outcome → Bool} {trace after : Trace}
    (returned : body trace = (after, .success)) :
    body.catching caught handler trace = (after, .success) := by
  simp only [catching, tryElse, returned, if_true]
  rfl

theorem andThen_of_returned {a b : Action} {trace after : Trace}
    (returned : a trace = (after, .success)) : a.andThen b trace = b after := by
  simp only [Action.andThen, returned, if_true]

theorem wtypeKeyArgs_head (key : List Char) : ∃ rest, wtypeKeyArgs key = "wtype" :: rest := by
  unfold wtypeKeyArgs
  split_ifs <;> exact ⟨_, rfl⟩

include works in
theorem perform_of_working (call : Commands.Injection) (typed : call ≠ .inject []) (trace : Trace) :
    ∃ new, perform shell c call trace = (trace ++ new, .success) ∧ deliveries new = 1 := by
  cases call with
  | inject text =>
    have nonempty : text.isEmpty = false := List.isEmpty_eq_false.mpr fun empty => typed (by rw [empty])
    have clipboard : injectClipboardX11 shell text trace = (trace ++ _, .success) :=
      (andThen_of_returned (attempt_of_working shell works _ trace)).trans
        ((attempt_of_working shell works _ _).trans (by rw [List.append_assoc]))
    simp only [perform, inject, nonempty, Bool.false_eq_true, if_false]
    split_ifs
    · exact ⟨_, catching_of_returned (attempt_of_working shell works _ trace), rfl⟩
    · unfold injectX11
      split_ifs
      · exact ⟨_, clipboard, rfl⟩
      · exact ⟨_, catching_of_returned (attempt_of_working shell works _ trace), rfl⟩
  | sendKey key =>
    obtain ⟨rest, wtype⟩ := wtypeKeyArgs_head key
    simp only [perform, sendKey, sendKeyWayland, sendKeyX11]
    split_ifs
    · refine ⟨_, catching_of_returned (attempt_of_working shell works _ trace), ?_⟩
      simp only [deliveries, List.countP_singleton, wtype, Call.delivers]
      rfl
    · exact ⟨_, catching_of_returned (attempt_of_working shell works _ trace), rfl⟩

include works in
theorem performAll_of_working (calls : List Commands.Injection)
    (typed : ∀ text, .inject text ∈ calls → text ≠ []) (trace : Trace) :
    ∃ new, performAll shell c calls trace = (trace ++ new, .success) ∧ deliveries new = calls.length := by
  induction calls generalizing trace with
  | nil => exact ⟨[], by rw [List.append_nil]; rfl, rfl⟩
  | cons call rest ih =>
    obtain ⟨new, first, once⟩ := perform_of_working shell c works call
      (fun empty => typed [] (empty ▸ List.mem_cons_self _ _) rfl) trace
    obtain ⟨more, after, all⟩ := ih (fun text member => typed text (List.mem_cons_of_mem _ member))
      (trace ++ new)
    refine ⟨new ++ more, ?_, ?_⟩
    · rw [performAll, List.foldr_cons, andThen_of_returned first, ← List.append_assoc]
      exact after
    · rw [deliveries_append, once, all, List.length_cons, Nat.add_comm]

theorem process_inject_ne_nil (commands : Commands.CommandMap) (text : List Char) :
    ∀ typed, .inject typed ∈ (Commands.process commands text).1 → typed ≠ [] := by
  rw [Commands.process_eq_tokenCalls]
  exact (Commands.tokenCalls_typed _ fun word member empty => by
    simpa [empty, split] using Commands.tokens_whole commands text word member).1

include works in
-- with every tool at hand, `_inject_text` delivers each call it makes exactly once and returns:
-- the tools' runs refine the calls the command layer makes
theorem injectText_of_working (text : List Char) (nonempty : text ≠ []) (trace : Trace) :
    ∃ new, injectText shell c text trace = (trace ++ new, .success) ∧
      deliveries new = (Commands.injectText c.voiceCommands c.voiceCommandsMap text).length := by
  refine performAll_of_working shell c works _ ?_ trace
  unfold Commands.injectText
  split
  · exact process_inject_ne_nil _ text
  · intro typed member
    rw [List.mem_singleton, Commands.Injection.inject.injEq] at member
    exact member ▸ nonempty

theorem injectText_of_working_greeting :
    ∃ new, injectText (fun _ _ => .success) (Config.init () ()) "привет ввод".toList [] =
        ([] ++ new, .success) ∧
      deliveries new = (Commands.injectText true Commands.defaultCommands "привет ввод".toList).length :=
  injectText_of_working _ _ (fun _ _ => rfl) _ (by decide) []

end Working

end WhisperLinux.Injector
