import Mathlib.Logic.Function.Basic

set_option autoImplicit false

namespace WhisperLinux.PidFile

/-!
The single-instance guard and the toggle signal, as the processes of one machine interleave
them. `main` reads `/tmp/whisper-linux.pid` (`read_pid`) and, when that names no process it can
signal, goes on to `run`, which writes its own pid (`write_pid`) and only then installs the SIGUSR1
handler; `main --toggle` (`send_toggle`) reads the file the same way and signals the pid in it.
Each step is one system call, and any process may take the next one. Every process runs as a
user: `kill` reaches only processes of the caller's user, and in the sticky `/tmp` only the user
who created the file may write over it or remove it. The step numbers kept in the state are a
history for the proofs, not data of the program.
-/

-- where an instance is in `main` and `run`; `seen` is the step at which it last looked at the
-- file
inductive Stage where
  | start
  | sawFile
  | readPid (pid seen : Nat)
  -- `read_pid` returned None
  | passed (seen : Nat)
  -- `write_pid()` is done, `_setup_signals()` is not
  | wrotePid (seen : Nat)
  | running (seen : Nat)
  deriving DecidableEq, Repr

inductive Toggle where
  | start
  | sawFile
  | readPid (pid : Nat)
  | signalling (pid : Nat)
  deriving DecidableEq, Repr

inductive Process where
  | daemon (stage : Stage)
  | toggle (stage : Toggle)
  -- any other program, keeping SIGUSR1's default action
  | other
  | dead
  deriving DecidableEq, Repr

inductive Role where
  | daemon
  | toggle
  | other
  deriving DecidableEq, Repr

def Role.process : Role → Process
  | .daemon => .daemon .start
  | .toggle => .toggle .start
  | .other => .other

structure Machine where
  -- the pid in `PID_FILE`, and the step that wrote it
  file : Option (Nat × Nat)
  -- the user who created `PID_FILE`
  owner : Nat
  procs : Nat → Process
  users : Nat → Nat
  clock : Nat

inductive Event where
  | step (pid : Nat)
  -- a process of `user` takes a pid no live process has
  | spawn (pid : Nat) (role : Role) (user : Nat)
  -- `quit()` or the end of the Qt loop: `remove_pid()`, then exit
  | quit (pid : Nat)
  -- the process ends without its `finally`
  | die (pid : Nat)
  deriving DecidableEq, Repr

namespace Machine

def alive (m : Machine) (pid : Nat) : Bool := m.procs pid != .dead

-- `os.kill(pid, sig)` from `self` is delivered: it raises `ProcessLookupError` when no process
-- has the pid, and `PermissionError` when that process runs as another user
def signals (m : Machine) (self pid : Nat) : Bool := m.alive pid && m.users pid == m.users self

-- `write_text` and `unlink` of a file another user created raise `PermissionError`
def mayReplace (m : Machine) (self : Nat) : Bool := m.file.isNone || m.owner == m.users self

def set (m : Machine) (pid : Nat) (p : Process) : Machine :=
  { m with procs := Function.update m.procs pid p }

def tick (m : Machine) : Machine := { m with clock := m.clock + 1 }

def advance (m : Machine) (self : Nat) : Machine :=
  match m.procs self with
  -- `read_pid`: `PID_FILE.exists()`
  | .daemon .start =>
    match m.file with
    | none => m.set self (.daemon (.passed m.clock))
    | some _ => m.set self (.daemon .sawFile)
  -- `read_text()`: the `FileNotFoundError` of a file removed since is not caught
  | .daemon .sawFile =>
    match m.file with
    | none => m.set self .dead
    | some (pid, _) => m.set self (.daemon (.readPid pid m.clock))
  -- `os.kill(pid, 0)`: "already running" and `sys.exit(1)`, or None
  | .daemon (.readPid pid seen) =>
    if m.signals self pid then m.set self .dead else m.set self (.daemon (.passed seen))
  -- `write_pid()`, whose `PermissionError` nothing catches
  | .daemon (.passed seen) =>
    if m.mayReplace self then
      { m.set self (.daemon (.wrotePid seen)) with
        file := some (self, m.clock), owner := m.users self }
    else m.set self .dead
  -- `_setup_signals()`
  | .daemon (.wrotePid seen) => m.set self (.daemon (.running seen))
  | .daemon (.running _) => m
  -- `send_toggle`: "not running" and `sys.exit(1)`, or on
  | .toggle .start =>
    match m.file with
    | none => m.set self .dead
    | some _ => m.set self (.toggle .sawFile)
  | .toggle .sawFile =>
    match m.file with
    | none => m.set self .dead
    | some (pid, _) => m.set self (.toggle (.readPid pid))
  | .toggle (.readPid pid) =>
    if m.signals self pid then m.set self (.toggle (.signalling pid)) else m.set self .dead
  -- `os.kill(pid, SIGUSR1)`: a running instance toggles, and any other process ends by the
  -- signal's default action; the errors of a pid that died or changed user since end the client
  | .toggle (.signalling pid) =>
    if m.signals self pid then
      match (m.set self .dead).procs pid with
      | .daemon (.running _) | .dead => m.set self .dead
      | _ => (m.set self .dead).set pid .dead
    else m.set self .dead
  | .other | .dead => m

def handle (m : Machine) : Event → Machine
  | .step self => (m.advance self).tick
  | .spawn pid role user =>
    if m.alive pid then m.tick
    else ({ m with users := Function.update m.users pid user }.set pid role.process).tick
  | .quit self =>
    match m.procs self with
    | .daemon (.running _) =>
      if m.mayReplace self then { m.set self .dead with file := none }.tick
      else (m.set self .dead).tick
    | _ => m.tick
  | .die self => (m.set self .dead).tick

def handleAll (m : Machine) (events : List Event) : Machine := events.foldl handle m

@[simp]
theorem set_procs_self (m : Machine) (pid : Nat) (p : Process) : (m.set pid p).procs pid = p :=
  Function.update_same _ _ _

@[simp]
theorem set_procs_other (m : Machine) {pid q : Nat} (p : Process) (other : q ≠ pid) :
    (m.set pid p).procs q = m.procs q :=
  Function.update_noteq other _ _

@[simp]
theorem set_file (m : Machine) (pid : Nat) (p : Process) : (m.set pid p).file = m.file := rfl

@[simp]
theorem set_owner (m : Machine) (pid : Nat) (p : Process) : (m.set pid p).owner = m.owner := rfl

@[simp]
theorem set_users (m : Machine) (pid : Nat) (p : Process) : (m.set pid p).users = m.users := rfl

@[simp]
theorem set_clock (m : Machine) (pid : Nat) (p : Process) : (m.set pid p).clock = m.clock := rfl

@[simp]
theorem tick_procs (m : Machine) : m.tick.procs = m.procs := rfl

@[simp]
theorem tick_file (m : Machine) : m.tick.file = m.file := rfl

@[simp]
theorem tick_owner (m : Machine) : m.tick.owner = m.owner := rfl

@[simp]
theorem tick_users (m : Machine) : m.tick.users = m.users := rfl

@[simp]
theorem tick_clock (m : Machine) : m.tick.clock = m.clock + 1 := rfl

@[simp]
theorem handleAll_nil (m : Machine) : m.handleAll [] = m := rfl

@[simp]
theorem handleAll_cons (m : Machine) (e : Event) (events : List Event) :
    m.handleAll (e :: events) = (m.handle e).handleAll events := rfl

end Machine

section Guard

-- the instance at this pid has written the file and is alive
def Process.holds : Process → Bool
  | .daemon (.wrotePid _) | .daemon (.running _) => true
  | _ => false

def Process.passedAt : Process → Option Nat
  | .daemon (.passed seen) | .daemon (.wrotePid seen) | .daemon (.running seen) => some seen
  | _ => none

def Process.Before (clock : Nat) : Process → Prop
  | .daemon (.readPid _ seen) | .daemon (.passed seen) | .daemon (.wrotePid seen)
  | .daemon (.running seen) => seen < clock
  | _ => True

-- what another process satisfies while `holder` holds the file it wrote at step `t`: a read of
-- the file made since `t` found `holder`; an instance past the guard looked before `t`, unless
-- it runs as another user (`same` is false) and has not written
def Process.Respects (holder t : Nat) (same : Bool) : Process → Prop
  | .daemon (.readPid pid seen) => t ≤ seen → pid = holder
  | .daemon (.passed seen) => seen < t ∨ same = false
  | .daemon (.wrotePid seen) | .daemon (.running seen) => seen < t
  | _ => True

theorem Process.Before.succ {clock : Nat} {p : Process} (before : p.Before clock) :
    p.Before (clock + 1) := by
  rcases p with ((_ | _ | ⟨_, _⟩ | _ | _ | _) | _ | _ | _) <;>
    simp only [Process.Before] at before ⊢ <;> omega

theorem Process.Before.respects {holder t : Nat} {same : Bool} {p : Process}
    (before : p.Before t) : p.Respects holder t same := by
  rcases p with ((_ | _ | ⟨_, _⟩ | _ | _ | _) | _ | _ | _) <;>
    simp only [Process.Before, Process.Respects] at before ⊢ <;> omega

theorem Process.passedAt_respects {holder t seen : Nat} {same : Bool} {p : Process}
    (respects : p.Respects holder t same) (past : p.passedAt = some seen) :
    seen < t ∨ same = false ∧ p = .daemon (.passed seen) := by
  rcases p with ((_ | _ | ⟨_, _⟩ | _ | _ | _) | _ | _ | _) <;>
    simp only [Process.passedAt, Process.Respects, Option.some.injEq, reduceCtorEq] at respects past
  all_goals subst past
  · simpa using respects
  all_goals exact .inl respects

structure Machine.Guarded (m : Machine) : Prop where
  fileBefore : ∀ holder t, m.file = some (holder, t) → t < m.clock
  before : ∀ q, (m.procs q).Before m.clock
  respects : ∀ holder t, m.file = some (holder, t) → (m.procs holder).holds = true →
    ∀ q ≠ holder, (m.procs q).Respects holder t (m.users q == m.users holder)

-- no instance has started yet; a file an earlier one left may be there
def Machine.Boot (m : Machine) : Prop :=
  (∀ q stage, m.procs q ≠ .daemon stage) ∧ ∀ holder t, m.file = some (holder, t) → t < m.clock

namespace Machine.Guarded

variable {m : Machine}

theorem of_boot (boot : m.Boot) : m.Guarded where
  fileBefore := boot.2
  before q := by
    cases proc : m.procs q with
    | daemon stage => exact absurd proc (boot.1 q stage)
    | _ => trivial
  respects holder _ _ holds := by
    cases proc : m.procs holder with
    | daemon stage => exact absurd proc (boot.1 holder stage)
    | _ => simp [proc, Process.holds] at holds

theorem tick (g : m.Guarded) : m.tick.Guarded where
  fileBefore holder t file := Nat.lt_succ_of_lt (g.fileBefore holder t file)
  before q := (g.before q).succ
  respects := g.respects

theorem retire (g : m.Guarded) (r : Nat) : (m.set r .dead).Guarded where
  fileBefore := g.fileBefore
  before q := by
    by_cases same : q = r
    · subst same
      simp [Process.Before]
    · simpa [same] using g.before q
  respects holder t file holds q other := by
    have holder_ne : holder ≠ r := fun same => by simp [same, Process.holds] at holds
    rw [set_procs_other _ _ holder_ne] at holds
    by_cases same : q = r
    · subst same
      simp [Process.Respects]
    · simpa [same] using g.respects holder t file holds q other

theorem set (g : m.Guarded) (r : Nat) (p : Process) (before : p.Before (m.clock + 1))
    (keeps : p.holds = true → (m.procs r).holds = true)
    (respects : ∀ holder t, m.file = some (holder, t) → (m.procs holder).holds = true →
      holder ≠ r → p.Respects holder t (m.users r == m.users holder)) :
    (m.set r p).tick.Guarded where
  fileBefore holder t file := Nat.lt_succ_of_lt (g.fileBefore holder t file)
  before q := by
    by_cases same : q = r
    · subst same
      simpa using before
    · simpa [same] using (g.before q).succ
  respects holder t file holds q other := by
    simp only [tick_procs, tick_file, tick_users, set_file, set_users] at file holds ⊢
    by_cases at_r : holder = r
    · subst at_r
      rw [set_procs_self] at holds
      simpa [other] using g.respects holder t file (keeps holds) q other
    · rw [set_procs_other _ _ at_r] at holds
      by_cases same : q = r
      · subst same
        simpa using respects holder t file holds at_r
      · simpa [same] using g.respects holder t file holds q other

theorem reuse (g : m.Guarded) (pid user : Nat) (dead : m.procs pid = .dead) :
    { m with users := Function.update m.users pid user }.Guarded where
  fileBefore := g.fileBefore
  before := g.before
  respects holder t file holds q other := by
    have holder_ne : holder ≠ pid := fun same => by simp [same, dead, Process.holds] at holds
    by_cases same : q = pid
    · subst same
      simp [dead, Process.Respects]
    · simpa [Function.update_noteq same, Function.update_noteq holder_ne] using
        g.respects holder t file holds q other

theorem write (g : m.Guarded) (r seen : Nat) (passed : m.procs r = .daemon (.passed seen)) :
    { m.set r (.daemon (.wrotePid seen)) with
      file := some (r, m.clock), owner := m.users r }.tick.Guarded where
  fileBefore holder t file := by
    simp only [tick_file, Option.some.injEq, Prod.mk.injEq] at file
    simp [file.2]
  before q := by
    by_cases same : q = r
    · subst same
      have kept := g.before q
      rw [passed] at kept
      simpa [Machine.set, Machine.tick, Process.Before] using Nat.lt_succ_of_lt kept
    · simpa [Machine.set, Machine.tick, same] using (g.before q).succ
  respects holder t file _ q other := by
    simp only [tick_file, Option.some.injEq, Prod.mk.injEq] at file
    obtain ⟨rfl, rfl⟩ := file
    simpa [Machine.set, Machine.tick, other] using (g.before q).respects

theorem unlink (g : m.Guarded) : { m with file := none }.Guarded where
  fileBefore _ _ file := nomatch file
  before := g.before
  respects _ _ file := nomatch file

theorem foreign_of_refused {holder self : Nat} (holds : (m.procs holder).holds = true)
    (refused : m.signals self holder = false) : (m.users self == m.users holder) = false := by
  have alive : m.alive holder = true := by
    cases proc : m.procs holder <;> simp_all [Machine.alive, Process.holds]
  simp only [Machine.signals, alive, Bool.true_and, beq_eq_false_iff_ne] at refused ⊢
  exact Ne.symm refused

theorem advance (g : m.Guarded) (self : Nat) : (m.advance self).tick.Guarded := by
  have quiet : ∀ p : Process, p.holds = false → p.Before (m.clock + 1) → (∀ holder t,
      m.file = some (holder, t) → (m.procs holder).holds = true → holder ≠ self →
        p.Respects holder t (m.users self == m.users holder)) →
      (m.set self p).tick.Guarded := fun p idle before respects =>
    g.set self p before (fun h => absurd (idle.symm.trans h) Bool.false_ne_true) respects
  unfold Machine.advance
  split
  next => -- `exists()`
    split
    next noFile => exact quiet _ rfl (Nat.lt_succ_self _) fun _ _ file => by simp [noFile] at file
    next => exact quiet _ rfl trivial fun _ _ _ _ _ => trivial
  next => -- `read_text()`
    split
    next => exact (g.retire self).tick
    next pid _ read =>
      refine quiet _ rfl (Nat.lt_succ_self _) fun holder t file _ _ _ => ?_
      rw [read, Option.some.injEq, Prod.mk.injEq] at file
      exact file.1
  next pid seen reading => -- `kill(pid, 0)`
    split
    next => exact (g.retire self).tick
    next refused =>
      have before := g.before self
      rw [reading] at before
      refine quiet _ rfl (Nat.lt_succ_of_lt before) fun holder t file holds other => ?_
      have read := g.respects holder t file holds self other.symm
      rw [reading] at read
      show seen < t ∨ _
      by_cases late : t ≤ seen
      · obtain rfl := read late
        exact .inr (foreign_of_refused holds (by simpa using refused))
      · exact .inl (by omega)
  next seen passed => -- `write_pid()`
    split
    next => exact g.write self seen passed
    next => exact (g.retire self).tick
  next seen wrote => -- `_setup_signals()`
    have before := g.before self
    rw [wrote] at before
    refine g.set self _ (Nat.lt_succ_of_lt before) (fun _ => by rw [wrote]; rfl)
      fun holder t file holds other => ?_
    have kept := g.respects holder t file holds self other.symm
    rwa [wrote] at kept
  next => exact g.tick
  next => -- `send_toggle`'s `exists()`
    split
    next => exact (g.retire self).tick
    next => exact quiet _ rfl trivial fun _ _ _ _ _ => trivial
  next =>
    split
    next => exact (g.retire self).tick
    next => exact quiet _ rfl trivial fun _ _ _ _ _ => trivial
  next =>
    split
    next => exact quiet _ rfl trivial fun _ _ _ _ _ => trivial
    next => exact (g.retire self).tick
  next => -- `kill(pid, SIGUSR1)`
    split
    next =>
      split
      next => exact (g.retire self).tick
      next => exact (g.retire self).tick
      next => exact ((g.retire self).retire _).tick
    next => exact (g.retire self).tick
  next => exact g.tick
  next => exact g.tick

theorem handle (g : m.Guarded) (e : Event) : (m.handle e).Guarded := by
  cases e with
  | step self => exact g.advance self
  | spawn pid role user =>
    simp only [Machine.handle]
    split
    next => exact g.tick
    next dead =>
      have reused := g.reuse pid user (by simpa [Machine.alive] using dead)
      exact reused.set pid _ (by cases role <;> trivial)
        (by cases role <;> simp [Role.process, Process.holds])
        fun _ _ _ _ _ => by cases role <;> trivial
  | quit self =>
    simp only [Machine.handle]
    split
    next =>
      split
      next => exact (g.retire self).unlink.tick
      next => exact (g.retire self).tick
    next => exact g.tick
  | die self => exact (g.retire self).tick

theorem handleAll (g : m.Guarded) (events : List Event) : (m.handleAll events).Guarded := by
  induction events generalizing m with
  | nil => exact g
  | cons e rest ih => exact ih (g.handle e)

end Machine.Guarded

-- whatever the interleaving, while an instance holds the PID file, every other live instance
-- past the guard looked at the file before the holder wrote it, or runs as another user, had its
-- `kill(pid, 0)` refused with `PermissionError`, and has not written the file
theorem holder_wrote_after_others_looked (m : Machine) (boot : m.Boot) (events : List Event)
    (holder t : Nat) (file : (m.handleAll events).file = some (holder, t))
    (holds : ((m.handleAll events).procs holder).holds = true) (q : Nat) (other : q ≠ holder)
    (seen : Nat) (past : ((m.handleAll events).procs q).passedAt = some seen) :
    seen < t ∨ (m.handleAll events).users q ≠ (m.handleAll events).users holder ∧
      (m.handleAll events).procs q = .daemon (.passed seen) := by
  have respects :=
    ((Machine.Guarded.of_boot boot).handleAll events).respects holder t file holds q other
  rcases Process.passedAt_respects respects past with looked | ⟨foreign, passed⟩
  · exact .inl looked
  · exact .inr ⟨by simpa using foreign, passed⟩

def Machine.boot : Machine := ⟨none, 0, fun _ => .dead, fun _ => 0, 0⟩

theorem Machine.boot_boot : Machine.boot.Boot :=
  ⟨fun _ _ dead => Process.noConfusion dead, fun _ _ file => Option.noConfusion file⟩

-- an instance of user 1000 holds the file it wrote at step 2; an instance of user 1001 reads it
-- at step 5, cannot signal pid 1, and gets past the guard
def foreignRead : List Event :=
  [.spawn 1 .daemon 1000, .step 1, .step 1, .spawn 2 .daemon 1001, .step 2, .step 2, .step 2]

theorem foreign_instance_passes_after_write :
    (Machine.boot.handleAll foreignRead).file = some (1, 2) ∧
      ((Machine.boot.handleAll foreignRead).procs 1).holds = true ∧
      ((Machine.boot.handleAll foreignRead).procs 2).passedAt = some 5 ∧
      (5 < 2 ∨ (Machine.boot.handleAll foreignRead).users 2 ≠
          (Machine.boot.handleAll foreignRead).users 1 ∧
        (Machine.boot.handleAll foreignRead).procs 2 = .daemon (.passed 5)) :=
  ⟨rfl, rfl, rfl, holder_wrote_after_others_looked Machine.boot Machine.boot_boot foreignRead 1 2
    rfl rfl 2 (by decide) 5 rfl⟩

end Guard

section Blocked

open Machine

def Event.startsInstanceOf (user : Nat) : Event → Bool
  | .spawn _ .daemon u => u == user
  | _ => false

-- `PID_FILE` stays as `file`, created by `owner`, and every instance runs as another user and
-- has not written
structure Machine.Blocked (file : Nat × Nat) (owner : Nat) (m : Machine) : Prop where
  kept : m.file = some file
  owned : m.owner = owner
  foreign : ∀ q stage, m.procs q = .daemon stage →
    m.users q ≠ owner ∧ (Process.daemon stage).holds = false

namespace Machine.Blocked

variable {file : Nat × Nat} {owner : Nat} {m : Machine}

theorem tick (b : m.Blocked file owner) : m.tick.Blocked file owner :=
  ⟨b.kept, b.owned, b.foreign⟩

theorem set (b : m.Blocked file owner) (r : Nat) (p : Process)
    (allowed : ∀ stage, p = .daemon stage →
      m.users r ≠ owner ∧ (Process.daemon stage).holds = false) :
    (m.set r p).Blocked file owner where
  kept := b.kept
  owned := b.owned
  foreign q stage proc := by
    by_cases same : q = r
    · subst same
      exact allowed stage (by simpa using proc)
    · exact b.foreign q stage (by simpa [same] using proc)

theorem retire (b : m.Blocked file owner) (r : Nat) : (m.set r .dead).Blocked file owner :=
  b.set r .dead fun _ dead => Process.noConfusion dead

theorem move (b : m.Blocked file owner) (r : Nat) {current next : Stage}
    (at_r : m.procs r = .daemon current) (short : (Process.daemon next).holds = false) :
    (m.set r (.daemon next)).Blocked file owner :=
  b.set r _ fun _ moved => by
    cases moved
    exact ⟨(b.foreign r current at_r).1, short⟩

theorem client (b : m.Blocked file owner) (r : Nat) (stage : Toggle) :
    (m.set r (.toggle stage)).Blocked file owner :=
  b.set r _ fun _ moved => Process.noConfusion moved

theorem advance (b : m.Blocked file owner) (self : Nat) : (m.advance self).Blocked file owner := by
  have present : m.file = some file := b.kept
  unfold Machine.advance
  split
  next start => -- `exists()`
    split
    next none => simp [present] at none
    next => exact b.move self start rfl
  next saw => -- `read_text()`
    split
    next => exact b.retire self
    next => exact b.move self saw rfl
  next reading => -- `kill(pid, 0)`
    split
    next => exact b.retire self
    next => exact b.move self reading rfl
  next passed => -- `write_pid()`: the file is the owner's
    split
    next allowed =>
      have foreign := (b.foreign self _ passed).1
      simp [Machine.mayReplace, present, b.owned, Ne.symm foreign] at allowed
    next => exact b.retire self
  next wrote => simpa [Process.holds] using (b.foreign self _ wrote).2
  next running => simpa [Process.holds] using (b.foreign self _ running).2
  next =>
    split
    next => exact b.retire self
    next => exact b.client self _
  next =>
    split
    next => exact b.retire self
    next => exact b.client self _
  next =>
    split
    next => exact b.client self _
    next => exact b.retire self
  next =>
    split
    next =>
      split
      next => exact b.retire self
      next => exact b.retire self
      next => exact (b.retire self).retire _
    next => exact b.retire self
  next => exact b
  next => exact b

theorem handle (b : m.Blocked file owner) (e : Event) (allowed : e.startsInstanceOf owner = false) :
    (m.handle e).Blocked file owner := by
  cases e with
  | step self => exact (b.advance self).tick
  | spawn pid role user =>
    simp only [Machine.handle]
    split
    next => exact b.tick
    next =>
      refine Blocked.tick ⟨b.kept, b.owned, fun q stage proc => ?_⟩
      by_cases same : q = pid
      · subst same
        cases role <;> simp [Machine.set, Role.process] at proc
        subst proc
        simpa [Event.startsInstanceOf, Process.holds] using allowed
      · simpa [Machine.set, Function.update_noteq same] using b.foreign q stage
          (by simpa [Machine.set, Function.update_noteq same] using proc)
  | quit self =>
    simp only [Machine.handle]
    split
    next running => simpa [Process.holds] using (b.foreign self _ running).2
    next => exact b.tick
  | die self => exact (b.retire self).tick

theorem handleAll (b : m.Blocked file owner) (events : List Event)
    (allowed : ∀ e ∈ events, e.startsInstanceOf owner = false) :
    (m.handleAll events).Blocked file owner := by
  induction events generalizing m with
  | nil => exact b
  | cons e rest ih =>
    exact ih (b.handle e (allowed e (.head _))) fun e member => allowed e (.tail _ member)

theorem holds_false (b : m.Blocked file owner) (q : Nat) : (m.procs q).holds = false := by
  cases proc : m.procs q with
  | daemon stage => exact (b.foreign q stage proc).2
  | _ => rfl

end Machine.Blocked

-- a PID file whose instance died without `remove_pid`, as after SIGKILL or a `--toggle` before
-- `_setup_signals`, locks every other user out: over every interleaving that starts no instance of
-- the file's owner, the file stays, and no instance ever gets past `write_pid`
theorem foreign_file_blocks_instances (m : Machine) (events : List Event) (file : Nat × Nat)
    (left : m.file = some file) (noInstance : ∀ q stage, m.procs q ≠ .daemon stage)
    (others : ∀ e ∈ events, e.startsInstanceOf m.owner = false) :
    (m.handleAll events).file = some file ∧ ∀ q, ((m.handleAll events).procs q).holds = false := by
  have blocked : m.Blocked file m.owner :=
    ⟨left, rfl, fun q stage proc => absurd proc (noInstance q stage)⟩
  have kept := blocked.handleAll events others
  exact ⟨kept.kept, kept.holds_false⟩

-- user 1000's instance is killed after `write_pid`; an instance of user 1001 then reads the file,
-- cannot signal pid 1, gets past the guard and dies in `write_pid`
def crashedMachine : Machine :=
  Machine.boot.handleAll [.spawn 1 .daemon 1000, .step 1, .step 1, .die 1]

def lockedOut : List Event := [.spawn 2 .daemon 1001, .step 2, .step 2, .step 2, .step 2]

theorem other_user_locked_out :
    crashedMachine.file = some (1, 2) ∧ (∀ q stage, crashedMachine.procs q ≠ .daemon stage) ∧
      (∀ e ∈ lockedOut, e.startsInstanceOf crashedMachine.owner = false) ∧
      (crashedMachine.handleAll lockedOut).file = some (1, 2) ∧
      ∀ q, ((crashedMachine.handleAll lockedOut).procs q).holds = false :=
  have left : crashedMachine.file = some (1, 2) := rfl
  have noInstance : ∀ q stage, crashedMachine.procs q ≠ .daemon stage := fun q stage => by
    by_cases one : q = 1 <;>
      simp [crashedMachine, Machine.boot, Machine.handle, Machine.advance, Machine.alive,
        Machine.mayReplace, Role.process, one]
  have others : ∀ e ∈ lockedOut, e.startsInstanceOf crashedMachine.owner = false := by decide
  ⟨left, noInstance, others, foreign_file_blocks_instances _ _ _ left noInstance others⟩

end Blocked

end WhisperLinux.PidFile
