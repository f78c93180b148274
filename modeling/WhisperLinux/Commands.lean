import WhisperLinux.Python.Text
import WhisperLinux.Python.Difflib

set_option autoImplicit false

namespace WhisperLinux.Commands

open Python Python.Difflib

-- `word.strip(".,!?;:-\"'()[]").lower()`
def clean (word : List Char) : List Char := lowerText (stripChars isPunctuation word)

-- `VoiceCommands._commands`: a dict from command words to actions, in insertion order
structure CommandMap where
  entries : List (String × String)
  keys_nodup : (entries.map Prod.fst).Nodup

def defaultCommands : CommandMap where
  entries :=
    [("enter", "key:Return"), ("энтер", "key:Return"), ("ввод", "key:Return"),
      ("backspace", "backspace"), ("бэкспейс", "backspace"), ("бекспейс", "backspace"),
      ("назад", "backspace"), ("tab", "key:Tab"), ("таб", "key:Tab"),
      ("табуляция", "key:Tab"), ("escape", "key:Escape"), ("эскейп", "key:Escape"),
      ("стоп", "key:Escape")]
  keys_nodup := by decide

-- `FUZZY_THRESHOLD = 0.75`
def fuzzyThreshold : Fraction := ⟨3, 4⟩

-- `_match_command`: the exact entry, else the first entry of best ratio >= 0.75
def matchCommand (commands : CommandMap) (word : List Char) : Option String :=
  if word.isEmpty then none
  else
    match commands.entries.lookup (String.mk word) with
    | some action => some action
    | none =>
      (commands.entries.foldl
        (fun (best : Fraction × Option String) (entry : String × String) =>
          let r := ratio entry.1.data word
          if r.atLeast fuzzyThreshold && r.greater best.1 then (r, some entry.2) else best)
        (⟨0, 1⟩, none)).2

-- the calls `process` makes on `inject_fn` and `send_key_fn`
inductive Injection where
  | inject (text : List Char)
  | sendKey (key : List Char)
  deriving DecidableEq, Repr

-- the locals of the loop of `process`
structure Scan where
  buffer : List (List Char)
  hadCommands : Bool
  calls : List Injection
  deriving DecidableEq, Repr

-- `if buffer: inject_fn(" ".join(buffer))`
def flush (buffer : List (List Char)) : List Injection :=
  if buffer.isEmpty then [] else [.inject (join buffer)]

-- one word of `for word in words`; an empty action is falsy and the word is kept as text
def scanWord (commands : CommandMap) (scan : Scan) (word : List Char) : Scan :=
  match matchCommand commands (clean word) with
  | some action =>
    if action.isEmpty then { scan with buffer := scan.buffer ++ [word] }
    else if action = "backspace" then
      if scan.buffer.isEmpty then
        { scan with hadCommands := true, calls := scan.calls ++ [.sendKey "ctrl+BackSpace".data] }
      else { scan with hadCommands := true, buffer := scan.buffer.dropLast }
    else
      { buffer := [], hadCommands := true,
        calls := scan.calls ++ flush scan.buffer ++ [.sendKey (action.data.drop 4)] }
  | none => { scan with buffer := scan.buffer ++ [word] }

-- `VoiceCommands.process`: the calls made, and the returned `had_commands`
def process (commands : CommandMap) (text : List Char) : List Injection × Bool :=
  let words := split text
  if words.isEmpty then ([], false)
  else
    let scan := words.foldl (scanWord commands) ⟨[], false, []⟩
    (scan.calls ++ flush scan.buffer, scan.hadCommands)

-- `WhisperLinuxApp._inject_text`
def injectText (voiceCommands : Bool) (commands : CommandMap) (text : List Char) :
    List Injection :=
  if voiceCommands then (process commands text).1 else [.inject text]

theorem foldl_scanWord_of_plain (commands : CommandMap) (words : List (List Char))
    (plain : ∀ word ∈ words, matchCommand commands (clean word) = none) (scan : Scan) :
    words.foldl (scanWord commands) scan = { scan with buffer := scan.buffer ++ words } := by
  induction words generalizing scan with
  | nil => simp
  | cons word rest ih =>
    rw [List.foldl_cons, ih fun w member => plain w (List.mem_cons_of_mem _ member)]
    simp [scanWord, plain word (List.mem_cons_self _ _)]

theorem injectText_without_commands (commands : CommandMap) (text : List Char)
    (nonempty : split text ≠ [])
    (plain : ∀ word ∈ split text, matchCommand commands (clean word) = none) :
    injectText true commands text = [.inject (join (split text))] ∧
      (injectText true commands text = injectText false commands text ↔
        join (split text) = text) := by
  have calls : injectText true commands text = [.inject (join (split text))] := by
    simp [injectText, process, foldl_scanWord_of_plain commands _ plain, flush, nonempty]
  exact ⟨calls, by rw [calls]; simp [injectText]⟩

set_option maxRecDepth 1000 in
theorem injectText_without_commands_hello :
    injectText true defaultCommands "hello world".data =
        [.inject (join (split "hello world".data))] ∧
      (injectText true defaultCommands "hello world".data =
          injectText false defaultCommands "hello world".data ↔
        join (split "hello world".data) = "hello world".data) :=
  injectText_without_commands defaultCommands _ (by decide) (by decide)

-- whisper-cli prints one line per segment; the command path rejoins the lines with a space
set_option maxRecDepth 1000 in
theorem injectText_joins_lines :
    split "hello\nworld".data ≠ [] ∧
      (∀ word ∈ split "hello\nworld".data, matchCommand defaultCommands (clean word) = none) ∧
      injectText true defaultCommands "hello\nworld".data ≠
        injectText false defaultCommands "hello\nworld".data := by
  decide

end WhisperLinux.Commands
