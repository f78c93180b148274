import WhisperLinux.Commands
import WhisperLinux.Python.Words
import Mathlib.Data.List.Chain

set_option autoImplicit false

namespace WhisperLinux.Commands

open Python

-- The calls `VoiceCommands.process` makes, against a reading of the text's tokens from the last
-- one back. A backspace cancels the nearest word before it that nothing has cancelled, back to
-- the last key command, and sends Ctrl+BackSpace where there is none; a key command types the
-- words before it, then sends its key, and nothing after it reaches back across it.

-- a token of `text.split()` as the loop of `process` reads it; an empty action is falsy, and its
-- word is kept as text
inductive Token where
  | word (text : List Char)
  | backspace
  | key (key : List Char)
  deriving DecidableEq, Repr

def token (commands : CommandMap) (word : List Char) : Token :=
  match matchCommand commands (clean word) with
  | some action =>
    if action.isEmpty then .word word
    else if action = "backspace" then .backspace
    else .key (action.data.drop 4)
  | none => .word word

def tokens (commands : CommandMap) (text : List Char) : List Token :=
  (split text).map (token commands)

-- `if action:`, the tokens that set `had_commands`
def Token.isCommand : Token → Bool
  | .word _ => false
  | _ => true

def Token.isKey : Token → Bool
  | .key _ => true
  | _ => false

def ctrlBackSpace : Injection := .sendKey "ctrl+BackSpace".data

-- the words passed to `inject_fn`, in order
def injected : List Injection → List (List Char)
  | [] => []
  | .inject text :: rest => split text ++ injected rest
  | .sendKey _ :: rest => injected rest

def Injection.typesText : Injection → Bool
  | .inject _ => true
  | .sendKey _ => false

def Injection.Apart (first next : Injection) : Prop :=
  first.typesText = false ∨ next.typesText = false

-- Reading the tokens from the last one back, a backspace waits for a word and cancels the first
-- one it meets; a key command ends the wait. This cancels the same words as matching each
-- backspace, in order, with the latest word before it not yet cancelled.

-- the words that stand, and the backspaces before the first key command that find no word
def standing : List Token → List (List Char) × Nat
  | [] => ([], 0)
  | .word text :: rest =>
    match standing rest with
    | (words, 0) => (text :: words, 0)
    | (words, pending + 1) => (words, pending)
  | .backspace :: rest => ((standing rest).1, (standing rest).2 + 1)
  | .key _ :: rest => ((standing rest).1, 0)

-- the calls of a stretch of tokens with no key command, then `later`: a Ctrl+BackSpace for each
-- backspace that finds no word, then the words that stand, typed at once
def segmentCalls (words : List (List Char)) (pending : Nat) (later : List Injection) :
    List Injection :=
  List.replicate pending ctrlBackSpace ++ flush words ++ later

-- for the tokens before the first key command, the words that stand and the backspaces that find
-- no word; and the calls from that key command on
def unwind : List Token → List (List Char) × Nat × List Injection
  | [] => ([], 0, [])
  | .word text :: rest =>
    match unwind rest with
    | (words, 0, later) => (text :: words, 0, later)
    | (words, pending + 1, later) => (words, pending, later)
  | .backspace :: rest => ((unwind rest).1, (unwind rest).2.1 + 1, (unwind rest).2.2)
  | .key key :: rest =>
    ([], 0, .sendKey key :: segmentCalls (unwind rest).1 (unwind rest).2.1 (unwind rest).2.2)

def tokenCalls (ts : List Token) : List Injection :=
  segmentCalls (unwind ts).1 (unwind ts).2.1 (unwind ts).2.2

section Loop

-- one pass of the loop of `process`, on its word read as a token
def Scan.take (scan : Scan) : Token → Scan
  | .word text => { scan with buffer := scan.buffer ++ [text] }
  | .backspace =>
    if scan.buffer.isEmpty then
      { scan with hadCommands := true, calls := scan.calls ++ [ctrlBackSpace] }
    else { scan with hadCommands := true, buffer := scan.buffer.dropLast }
  | .key key => ⟨[], true, scan.calls ++ flush scan.buffer ++ [.sendKey key]⟩

-- the final `if buffer:` flush, and `had_commands`
def Scan.finish (scan : Scan) : List Injection × Bool :=
  (scan.calls ++ flush scan.buffer, scan.hadCommands)

theorem scanWord_eq_take (commands : CommandMap) (scan : Scan) (word : List Char) :
    scanWord commands scan word = scan.take (token commands word) := by
  unfold scanWord token
  cases matchCommand commands (clean word) with
  | none => rfl
  | some action => dsimp only; split_ifs <;> simp [Scan.take, ctrlBackSpace, *]

theorem process_eq_finish (commands : CommandMap) (text : List Char) :
    process commands text =
      ((tokens commands text).foldl Scan.take ⟨[], false, []⟩).finish := by
  have step : scanWord commands = fun scan word => scan.take (token commands word) :=
    funext₂ (scanWord_eq_take commands)
  have loop : (split text).foldl (scanWord commands) ⟨[], false, []⟩ =
      (tokens commands text).foldl Scan.take ⟨[], false, []⟩ := by
    simp only [tokens, List.foldl_map, step]
  by_cases empty : split text = []
  · simp [process, tokens, empty, Scan.finish, flush]
  · simp [process, empty, loop, Scan.finish]

@[simp] theorem take_concat (front : List (List Char)) (last : List Char) (pending : Nat) :
    (front ++ [last]).take (front.length - pending) = front.take (front.length - pending) :=
  List.take_append_of_le_length (Nat.sub_le _ _)

-- the loop from any state: the calls so far, then those of a buffer that the first backspaces
-- of `ts` cut from the end, followed by the calls of `ts`
theorem foldl_take (ts : List Token) (scan : Scan) :
    (ts.foldl Scan.take scan).finish.1 =
      scan.calls ++ segmentCalls
        (scan.buffer.take (scan.buffer.length - (unwind ts).2.1) ++ (unwind ts).1)
        ((unwind ts).2.1 - scan.buffer.length) (unwind ts).2.2 := by
  induction ts generalizing scan with
  | nil => simp [Scan.finish, segmentCalls, unwind]
  | cons t rest ih =>
    obtain ⟨buffer, had, calls⟩ := scan
    rw [List.foldl_cons, ih]
    cases t with
    | word text =>
      rcases later : unwind rest with ⟨words, _ | pending, after⟩
      · simp [Scan.take, unwind, later, List.take_of_length_le]
      · simp [Scan.take, unwind, later]
    | backspace =>
      rcases List.eq_nil_or_concat buffer with rfl | ⟨front, last, rfl⟩
      · simp [Scan.take, unwind, segmentCalls, List.replicate_succ]
      · simp [Scan.take, unwind]
    | key key => simp [Scan.take, unwind, segmentCalls]

theorem foldl_take_hadCommands (ts : List Token) (scan : Scan) :
    (ts.foldl Scan.take scan).hadCommands = (scan.hadCommands || ts.any Token.isCommand) := by
  induction ts generalizing scan with
  | nil => simp
  | cons t rest ih =>
    rw [List.foldl_cons, ih]
    cases t <;> simp only [Scan.take, List.any_cons, Token.isCommand] <;> (try split) <;> simp

theorem process_eq_tokenCalls (commands : CommandMap) (text : List Char) :
    (process commands text).1 = tokenCalls (tokens commands text) := by
  rw [process_eq_finish, foldl_take]
  simp [tokenCalls]

theorem process_hadCommands (commands : CommandMap) (text : List Char) :
    (process commands text).2 = (tokens commands text).any Token.isCommand := by
  rw [process_eq_finish, Scan.finish, foldl_take_hadCommands]
  rfl

end Loop

section Tokens

variable (commands : CommandMap)

theorem token_eq_word (word text : List Char) (read : token commands word = .word text) :
    text = word := by
  unfold token at read
  split at read <;> (try split_ifs at read) <;> simp_all

theorem isCommand_token (word : List Char) :
    (token commands word).isCommand = true ↔
      ∃ action, matchCommand commands (clean word) = some action ∧ action.isEmpty = false := by
  unfold token
  cases matchCommand commands (clean word) with
  | none => simp [Token.isCommand]
  | some action => dsimp only; split_ifs <;> simp_all [Token.isCommand]

theorem tokens_whole (text word : List Char) (member : .word word ∈ tokens commands text) :
    split word = [word] := by
  obtain ⟨token, token_mem, read⟩ := List.mem_map.mp member
  rw [token_eq_word commands _ _ read]
  exact split_of_mem_split text token token_mem

end Tokens

section Reading

theorem unwind_pending (ts : List Token) : (unwind ts).2.1 = (standing ts).2 := by
  induction ts with
  | nil => rfl
  | cons t rest ih =>
    cases t with
    | word text =>
      rcases later : unwind rest with ⟨words, _ | pending, after⟩ <;>
        rcases stands : standing rest with ⟨kept, _ | waiting⟩ <;>
        simp_all [unwind, standing]
    | backspace => simp [unwind, standing, ih]
    | key => rfl

theorem unwind_append_key (before after : List Token) (key : List Char) :
    unwind (before ++ .key key :: after) =
      ((unwind before).1, (unwind before).2.1,
        (unwind before).2.2 ++ .sendKey key :: tokenCalls after) := by
  induction before with
  | nil => rfl
  | cons t rest ih =>
    cases t with
    | word text =>
      rcases later : unwind rest with ⟨words, _ | pending, calls⟩ <;>
        simp_all [unwind]
    | backspace => simp [unwind, ih]
    | key => simp [unwind, ih, segmentCalls]

theorem tokenCalls_append_key (before after : List Token) (key : List Char) :
    tokenCalls (before ++ .key key :: after) =
      tokenCalls before ++ .sendKey key :: tokenCalls after := by
  simp [tokenCalls, unwind_append_key, segmentCalls]

theorem unwind_of_keyFree (ts : List Token) (keyFree : ∀ t ∈ ts, t.isKey = false) :
    unwind ts = ((standing ts).1, (standing ts).2, []) := by
  induction ts with
  | nil => rfl
  | cons t rest ih =>
    have restFree := ih fun t member => keyFree t (List.mem_cons_of_mem _ member)
    cases t with
    | word text =>
      rcases stands : standing rest with ⟨kept, _ | waiting⟩ <;> simp_all [unwind, standing]
    | backspace => simp [unwind, standing, restFree]
    | key => simp [Token.isKey] at keyFree

theorem mem_unwind_words (ts : List Token) (word : List Char) (member : word ∈ (unwind ts).1) :
    .word word ∈ ts := by
  induction ts with
  | nil => cases member
  | cons t rest ih =>
    cases t with
    | word text =>
      rcases later : unwind rest with ⟨words, _ | pending, calls⟩ <;> simp_all [unwind]
      exact member.imp_right ih
    | backspace => exact List.mem_cons_of_mem _ (ih member)
    | key => cases member

end Reading

section Typed

@[simp] theorem injected_append (first rest : List Injection) :
    injected (first ++ rest) = injected first ++ injected rest := by
  induction first with
  | nil => rfl
  | cons call first ih => cases call <;> simp [injected, ih]

@[simp] theorem injected_ctrlBackSpaces (count : Nat) :
    injected (List.replicate count ctrlBackSpace) = [] := by
  induction count with
  | zero => rfl
  | succ count ih => simpa [List.replicate_succ, ctrlBackSpace, injected] using ih

theorem injected_flush (words : List (List Char))
    (whole : ∀ word ∈ words, split word = [word]) :
    injected (flush words) = words := by
  cases words with
  | nil => rfl
  | cons word rest => simp [flush, injected, split_join_of_words _ whole]

theorem injected_tokenCalls (ts : List Token)
    (whole : ∀ text, .word text ∈ ts → split text = [text]) :
    injected (tokenCalls ts) = (standing ts).1 := by
  induction ts with
  | nil => rfl
  | cons t rest ih =>
    have restWhole := ih fun text member => whole text (List.mem_cons_of_mem _ member)
    have kept : ∀ word ∈ (unwind rest).1, split word = [word] := fun word member =>
      whole word (List.mem_cons_of_mem _ (mem_unwind_words rest word member))
    simp only [tokenCalls, segmentCalls, injected_append, injected_ctrlBackSpaces,
      injected_flush _ kept, List.nil_append] at restWhole
    cases t with
    | word text =>
      have pending := unwind_pending rest
      rcases later : unwind rest with ⟨words, _ | waiting, calls⟩ <;>
        rcases stands : standing rest with ⟨standingWords, _ | count⟩ <;>
        simp_all [tokenCalls, segmentCalls, unwind, standing, injected_flush]
    | backspace => simpa [tokenCalls, segmentCalls, unwind, standing, injected_flush _ kept]
    | key key => simpa [tokenCalls, segmentCalls, unwind, standing, injected, injected_flush _ kept]

theorem chain_sendKey (key : List Char) (calls : List Injection) :
    (Injection.sendKey key :: calls).Chain' Injection.Apart ↔ calls.Chain' Injection.Apart := by
  simp [List.chain'_cons', Injection.Apart, Injection.typesText]

theorem join_ne_nil (words : List (List Char)) (nonempty : ∀ word ∈ words, word ≠ [])
    (spoken : words ≠ []) : join words ≠ [] := by
  match words, spoken with
  | [word], _ => simpa using nonempty word (List.mem_singleton_self _)
  | word :: next :: rest, _ => simp

-- a stretch of calls: its Ctrl+BackSpaces, at most one `inject_fn` with the words that stand,
-- then `later`, which starts with a key
theorem segmentCalls_typed (words : List (List Char)) (pending : Nat) (later : List Injection)
    (nonempty : ∀ word ∈ words, word ≠ [])
    (typed : (∀ text, .inject text ∈ later → text ≠ []) ∧ later.Chain' Injection.Apart)
    (keyFirst : ∀ call ∈ later.head?, call.typesText = false) :
    (∀ text, .inject text ∈ segmentCalls words pending later → text ≠ []) ∧
      (segmentCalls words pending later).Chain' Injection.Apart := by
  induction pending with
  | zero =>
    cases words with
    | nil => simpa [segmentCalls, flush] using typed
    | cons word rest =>
      refine ⟨fun text member => ?_, ?_⟩
      · simp [segmentCalls, flush] at member
        rcases member with rfl | later
        · exact join_ne_nil _ nonempty (List.cons_ne_nil _ _)
        · exact typed.1 text later
      · simpa [segmentCalls, flush, List.chain'_cons', Injection.Apart] using
          ⟨fun call first => .inr (keyFirst call first), typed.2⟩
  | succ pending ih =>
    have step : segmentCalls words (pending + 1) later =
        ctrlBackSpace :: segmentCalls words pending later := rfl
    rw [step]
    exact ⟨by simpa [ctrlBackSpace] using ih.1, (chain_sendKey _ _).mpr ih.2⟩

-- the calls from the first key command on: nothing empty typed, no two `inject_fn` in a row,
-- and a key first
theorem unwind_later_typed (ts : List Token)
    (nonempty : ∀ text, .word text ∈ ts → text ≠ []) :
    ((∀ text, .inject text ∈ (unwind ts).2.2 → text ≠ []) ∧
      (unwind ts).2.2.Chain' Injection.Apart) ∧
      ∀ call ∈ (unwind ts).2.2.head?, call.typesText = false := by
  induction ts with
  | nil => simp [unwind]
  | cons t rest ih =>
    have restTyped := ih fun text member => nonempty text (List.mem_cons_of_mem _ member)
    cases t with
    | word text =>
      rcases later : unwind rest with ⟨words, _ | pending, calls⟩ <;> simp_all [unwind]
    | backspace => simpa [unwind] using restTyped
    | key key =>
      have kept : ∀ word ∈ (unwind rest).1, word ≠ [] := fun word member =>
        nonempty word (List.mem_cons_of_mem _ (mem_unwind_words rest word member))
      have stretch := segmentCalls_typed (unwind rest).1 (unwind rest).2.1 (unwind rest).2.2 kept
        restTyped.1 restTyped.2
      exact ⟨⟨fun text member => stretch.1 text (by simpa [unwind] using member),
        (chain_sendKey _ _).mpr stretch.2⟩, by simp [unwind, Injection.typesText]⟩

theorem tokenCalls_typed (ts : List Token) (nonempty : ∀ text, .word text ∈ ts → text ≠ []) :
    (∀ text, .inject text ∈ tokenCalls ts → text ≠ []) ∧
      (tokenCalls ts).Chain' Injection.Apart :=
  have later := unwind_later_typed ts nonempty
  segmentCalls_typed _ _ _
    (fun word member => nonempty word (mem_unwind_words ts word member)) later.1 later.2

end Typed

-- `VoiceCommands.process(text, inject_fn, send_key_fn)` for every command map and text: the
-- words typed are the words that no backspace cancels, and with no key command each backspace
-- that finds no word sends Ctrl+BackSpace before they are typed; a key command sends
-- `action[4:]` between the calls of the words before it and those of the words after it;
-- `inject_fn` never gets an empty string and never comes twice in a row; and the result says
-- whether a word matched a command
theorem process_trace (commands : CommandMap) (text : List Char) :
    injected (process commands text).1 = (standing (tokens commands text)).1 ∧
      ((∀ t ∈ tokens commands text, t.isKey = false) →
        (process commands text).1 =
          List.replicate (standing (tokens commands text)).2 ctrlBackSpace ++
            flush (standing (tokens commands text)).1) ∧
      (∀ before word after key, split text = before ++ word :: after →
        token commands word = .key key →
        (process commands text).1 =
          (process commands (join before)).1 ++
            .sendKey key :: (process commands (join after)).1) ∧
      (∀ typed, .inject typed ∈ (process commands text).1 → typed ≠ []) ∧
      (process commands text).1.Chain' Injection.Apart ∧
      ((process commands text).2 = true ↔
        ∃ word ∈ split text, ∃ action, matchCommand commands (clean word) = some action ∧
          action.isEmpty = false) := by
  have whole := tokens_whole commands text
  have typed := tokenCalls_typed (tokens commands text) fun word member empty => by
    simpa [empty, split] using whole word member
  refine ⟨?_, fun keyFree => ?_, fun before word after key cut keyed => ?_, ?_, ?_, ?_⟩
  · rw [process_eq_tokenCalls]
    exact injected_tokenCalls _ whole
  · rw [process_eq_tokenCalls, tokenCalls, unwind_of_keyFree _ keyFree]
    simp [segmentCalls]
  · -- the words on either side of the key command are split back into themselves
    have parts : ∀ w ∈ before ++ word :: after, split w = [w] := fun w member =>
      split_of_mem_split text w (cut ▸ member)
    rw [process_eq_tokenCalls, process_eq_tokenCalls, process_eq_tokenCalls, tokens, tokens,
      tokens, split_join_of_words before fun w member => parts w (by simp [member]),
      split_join_of_words after fun w member => parts w (by simp [member]), cut, List.map_append,
      List.map_cons, keyed]
    exact tokenCalls_append_key _ _ _
  · rw [process_eq_tokenCalls]
    exact typed.1
  · rw [process_eq_tokenCalls]
    exact typed.2
  · rw [process_hadCommands]
    simp [tokens, isCommand_token]

def backspaceCommands : CommandMap where
  entries := [("назад", "backspace"), ("ввод", "key:Return")]
  keys_nodup := by decide

-- two backspaces after one word: the second finds none and sends Ctrl+BackSpace; then Enter
set_option maxRecDepth 1000 in
theorem process_trace_backspaces :
    (process backspaceCommands "раз назад назад".data).1 =
        List.replicate (standing (tokens backspaceCommands "раз назад назад".data)).2
            ctrlBackSpace ++
          flush (standing (tokens backspaceCommands "раз назад назад".data)).1 ∧
      (process backspaceCommands "раз назад назад ввод два".data).1 =
        (process backspaceCommands (join ["раз".data, "назад".data, "назад".data])).1 ++
          .sendKey "Return".data :: (process backspaceCommands (join ["два".data])).1 :=
  ⟨(process_trace backspaceCommands _).2.1 (by decide),
    (process_trace backspaceCommands _).2.2.1 _ "ввод".data _ _ (by decide) (by decide)⟩

end WhisperLinux.Commands
