import WhisperLinux.Python.ConfigParser
import WhisperLinux.Commands

set_option autoImplicit false

namespace WhisperLinux

open Python Commands

-- Python's float values as the config file holds them: `str(x)` when saved and
-- `float(text)` when loaded, none where `float` raises `ValueError`
structure Floats (F : Type) where
  str : F → List Char
  float : List Char → Option F

-- the `Config` dataclass, `F` standing for Python's float; `_gpu_devices` only feeds the
-- tray's device menu and is left out
structure Config (F : Type) where
  whisperCli : List Char
  model : List Char
  modelsDir : List Char
  language : List Char
  threads : Int
  gpuDevice : Int
  displayServer : List Char
  audioDevice : List Char
  pasteKeys : List Char
  useClipboardFallback : Bool
  notification : Bool
  inputMode : List Char
  outputMode : List Char
  wakeWord : List Char
  wakeModel : List Char
  silenceTimeout : F
  vadThreshold : Int
  minSpeechMs : Int
  maxSpeechS : F
  endSignal : Bool
  voiceCommands : Bool
  voiceCommandsMap : CommandMap

-- `dict[word] = action`
def Commands.CommandMap.assign (m : CommandMap) (word action : String) : CommandMap where
  entries := Python.assign word action m.entries
  keys_nodup := nodup_assign word action m.entries m.keys_nodup

-- what the detectors `_load` calls find on this machine
structure Host where
  -- `_find_executable(_WHISPER_CLI_NAMES, _WHISPER_SEARCH_DIRS)`
  executable : Option (List Char)
  -- `_MODEL_SEARCH_DIRS`
  searchDirs : List (List Char)
  -- `_detect_models_dir()`
  modelsDir : List Char
  -- `_find_model(search_dirs)`
  findModel : List (List Char) → Option (List Char)
  -- `os.environ.get(name)`
  env : List Char → Option (List Char)
  -- `_detect_audio_device()`
  audioDevice : List Char
  -- the `ggml_vulkan: N = name` lines of `cli -m model -f /dev/null`, none when it fails
  vulkanDevices : List Char → List Char → Option (List (Int × List Char))

namespace Config

variable {F : Type}

-- the dataclass defaults, given the float literals `3.0` and `30.0`
def init (silenceTimeout maxSpeechS : F) : Config F where
  whisperCli := []
  model := []
  modelsDir := []
  language := "ru".toList
  threads := 4
  gpuDevice := -1
  displayServer := []
  audioDevice := []
  pasteKeys := "shift+Insert".toList
  useClipboardFallback := false
  notification := true
  inputMode := "hotkey".toList
  outputMode := "batch".toList
  wakeWord := "марфуша".toList
  wakeModel := []
  silenceTimeout := silenceTimeout
  vadThreshold := 300
  minSpeechMs := 500
  maxSpeechS := maxSpeechS
  endSignal := true
  voiceCommands := true
  voiceCommandsMap := defaultCommands

def mainSection : List Char := "whisper-linux".toList

def commandsSection : List Char := "voice-commands".toList

-- the options `save` sets in "whisper-linux", in its order, with the texts it gives them
def options (floats : Floats F) (c : Config F) : List (List Char × List Char) :=
  [("whisper_cli".toList, c.whisperCli), ("model".toList, c.model),
    ("models_dir".toList, c.modelsDir), ("language".toList, c.language),
    ("threads".toList, strInt c.threads), ("gpu_device".toList, strInt c.gpuDevice),
    ("display_server".toList, c.displayServer), ("audio_device".toList, c.audioDevice),
    ("paste_keys".toList, c.pasteKeys),
    ("use_clipboard_fallback".toList, strBool c.useClipboardFallback),
    ("notification".toList, strBool c.notification), ("input_mode".toList, c.inputMode),
    ("output_mode".toList, c.outputMode), ("wake_word".toList, c.wakeWord),
    ("wake_model".toList, c.wakeModel), ("silence_timeout".toList, floats.str c.silenceTimeout),
    ("vad_threshold".toList, strInt c.vadThreshold),
    ("min_speech_ms".toList, strInt c.minSpeechMs),
    ("max_speech_s".toList, floats.str c.maxSpeechS), ("end_signal".toList, strBool c.endSignal),
    ("voice_commands".toList, strBool c.voiceCommands)]

-- `save`: the text written to `CONFIG_FILE`, or the exception a `set` raises before the
-- file is opened
def save (floats : Floats F) (c : Config F) : Except ConfigError (List Char) := do
  let cp ← ConfigParser.empty.addSection mainSection
  let cp ← (c.options floats).foldlM (fun cp o => cp.set mainSection o.1 o.2) cp
  let cp ← cp.addSection commandsSection
  let cp ← c.voiceCommandsMap.entries.foldlM
    (fun cp e => cp.set commandsSection e.1.toList e.2.toList) cp
  pure cp.write

def getfloat (floats : Floats F) (cp : ConfigParser (List Char)) (sect option : List Char)
    (fallback : F) : Except ConfigError F :=
  cp.getConv (fun text => match floats.float text with
    | some x => .ok x
    | none => .error (.notAFloat text)) sect option fallback

-- the old `mode` option, taken over when the file has no `input_mode`
def migrateMode (oldMode : Option (List Char)) (hasInputMode : Bool) (c : Config F) : Config F :=
  match oldMode with
  | some mode =>
    if !mode.isEmpty && !hasInputMode then
      if mode = "stream".toList then
        { c with inputMode := "listen".toList, outputMode := "stream".toList }
      else { c with inputMode := "hotkey".toList, outputMode := "batch".toList }
    else c
  | none => c

-- `_load` on section "whisper-linux": each option read with the current value as fallback
def loadMain (floats : Floats F) (cp : ConfigParser (List Char)) (c : Config F) :
    Except ConfigError (Config F) := do
  let whisperCli ← cp.get mainSection "whisper_cli".toList c.whisperCli
  let model ← cp.get mainSection "model".toList c.model
  let modelsDir ← cp.get mainSection "models_dir".toList c.modelsDir
  let language ← cp.get mainSection "language".toList c.language
  let threads ← cp.getint mainSection "threads".toList c.threads
  let gpuDevice ← cp.getint mainSection "gpu_device".toList c.gpuDevice
  let displayServer ← cp.get mainSection "display_server".toList c.displayServer
  let audioDevice ← cp.get mainSection "audio_device".toList c.audioDevice
  let pasteKeys ← cp.get mainSection "paste_keys".toList c.pasteKeys
  let useClipboardFallback ←
    cp.getboolean mainSection "use_clipboard_fallback".toList c.useClipboardFallback
  let notification ← cp.getboolean mainSection "notification".toList c.notification
  let oldMode ← cp.get? mainSection "mode".toList
  let migrated := migrateMode oldMode (cp.hasOption mainSection "input_mode".toList) c
  let inputMode ← cp.get mainSection "input_mode".toList migrated.inputMode
  let outputMode ← cp.get mainSection "output_mode".toList migrated.outputMode
  let wakeWord ← cp.get mainSection "wake_word".toList c.wakeWord
  let wakeModel ← cp.get mainSection "wake_model".toList c.wakeModel
  let silenceTimeout ← getfloat floats cp mainSection "silence_timeout".toList c.silenceTimeout
  let vadThreshold ← cp.getint mainSection "vad_threshold".toList c.vadThreshold
  let minSpeechMs ← cp.getint mainSection "min_speech_ms".toList c.minSpeechMs
  let maxSpeechS ← getfloat floats cp mainSection "max_speech_s".toList c.maxSpeechS
  let endSignal ← cp.getboolean mainSection "end_signal".toList c.endSignal
  let voiceCommands ← cp.getboolean mainSection "voice_commands".toList c.voiceCommands
  pure { c with
    whisperCli := whisperCli, model := model, modelsDir := modelsDir, language := language,
    threads := threads, gpuDevice := gpuDevice, displayServer := displayServer,
    audioDevice := audioDevice, pasteKeys := pasteKeys,
    useClipboardFallback := useClipboardFallback, notification := notification,
    inputMode := inputMode, outputMode := outputMode, wakeWord := wakeWord,
    wakeModel := wakeModel, silenceTimeout := silenceTimeout, vadThreshold := vadThreshold,
    minSpeechMs := minSpeechMs, maxSpeechS := maxSpeechS, endSignal := endSignal,
    voiceCommands := voiceCommands }

-- `merged = dict(DEFAULT_VOICE_COMMANDS); merged.update(saved)`
def mergeCommands (saved : List (List Char × List Char)) : CommandMap :=
  saved.foldl (fun m e => m.assign (String.mk e.1) (String.mk e.2)) defaultCommands

-- `model_search_dirs`: `models_dir` when set, then each of `_MODEL_SEARCH_DIRS` not listed yet
def modelSearchDirs (host : Host) (c : Config F) : List (List Char) :=
  host.searchDirs.foldl (fun dirs d => if d ∈ dirs then dirs else dirs ++ [d])
    (if c.modelsDir.isEmpty then [] else [c.modelsDir])

-- `str.upper` on ASCII letters
def upper (c : Char) : Char :=
  if 0x61 ≤ c.toNat ∧ c.toNat ≤ 0x7A then Char.ofNat (c.toNat - 0x20) else c

-- the device `_detect_gpu_device` picks from the lines it parsed: the first NVIDIA one, else
-- the first AMD or RADEON one, else 0; `devices[idx] = name` keeps a repeated index in place
def selectGpu (lines : List (Int × List Char)) : Int :=
  let devices := lines.foldl (fun d line => Python.assign line.1 line.2 d) []
  let named (word : String) (device : Int × List Char) := occursIn word.toList (device.2.map upper)
  match devices.find? (named "NVIDIA") with
  | some device => device.1
  | none =>
    match devices.find? fun device => named "AMD" device || named "RADEON" device with
    | some device => device.1
    | none => 0

def detectGpuDevice (host : Host) (c : Config F) : Int :=
  let cli := if c.whisperCli.isEmpty then host.executable else some c.whisperCli
  let model := if c.model.isEmpty then host.findModel (c.modelSearchDirs host) else some c.model
  match cli, model with
  | some cli, some model =>
    if cli.isEmpty || model.isEmpty then 0
    else (host.vulkanDevices cli model).elim 0 selectGpu
  | _, _ => 0

def detectDisplayServer (host : Host) : List Char :=
  let xdg := lowerText ((host.env "XDG_SESSION_TYPE".toList).getD [])
  if occursIn "wayland".toList xdg then "wayland".toList
  else if occursIn "x11".toList xdg then "x11".toList
  else if !((host.env "WAYLAND_DISPLAY".toList).getD []).isEmpty then "wayland".toList
  else if !((host.env "DISPLAY".toList).getD []).isEmpty then "x11".toList
  else "x11".toList

-- the end of `_load`: what is still empty is detected, and `gpu_device` when negative
def detect (host : Host) (c : Config F) : Config F :=
  let c := if c.whisperCli.isEmpty then { c with whisperCli := host.executable.getD "whisper-cli".toList } else c
  let c := if c.modelsDir.isEmpty then { c with modelsDir := host.modelsDir } else c
  let c := if c.model.isEmpty then { c with model := (host.findModel (c.modelSearchDirs host)).getD [] } else c
  let c := if c.displayServer.isEmpty then { c with displayServer := detectDisplayServer host } else c
  let c := if c.audioDevice.isEmpty then { c with audioDevice := host.audioDevice } else c
  if c.gpuDevice < 0 then { c with gpuDevice := c.detectGpuDevice host } else c

-- `Config()`: `__post_init__` sets the default commands and runs `_load`, which reads
-- `CONFIG_FILE` when it exists, then its two sections, then detects what is missing
def postInit (floats : Floats F) (host : Host) (c : Config F) (file : Option (List Char)) :
    Except ConfigError (Config F) := do
  let cp ← (file.elim (pure .empty) ConfigParser.read : Except ConfigError _)
  let c := { c with voiceCommandsMap := defaultCommands }
  let c ← (if cp.hasSection mainSection then c.loadMain floats cp else pure c)
  let c ← (if cp.hasSection commandsSection then
      (fun saved => { c with voiceCommandsMap := mergeCommands saved }) <$> cp.items commandsSection
    else pure c)
  pure (c.detect host)

end Config

end WhisperLinux
