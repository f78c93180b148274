import Mathlib.Data.List.Basic

set_option autoImplicit false

namespace WhisperLinux.Audio

-- `SimpleVAD`, the energy detector of audio.py, on raw s16le bytes

def sampleRate : Nat := 16000

def frameMs : Nat := 30

def trailingSilenceMs : Nat := 300

-- `self._frame_bytes` and `self._silence_frames`
def frameBytes : Nat := sampleRate * 2 * frameMs / 1000

def silenceFrames : Nat := trailingSilenceMs / frameMs

-- `config.vad_threshold`, `config.min_speech_ms`, and the per-frame
-- `max_bytes = int(self._max_speech_s * self._sample_rate * 2)`, taken as its integer value
structure VadConfig where
  threshold : Int
  minSpeechMs : Int
  maxBytes : Int

-- a little-endian signed 16-bit sample
def sample (lo hi : UInt8) : Int :=
  let v := lo.toNat + 256 * hi.toNat
  if v < 32768 then v else v - 65536

-- `array.array("h").frombytes` of the even prefix
def samples : List UInt8 → List Int
  | lo :: hi :: rest => sample lo hi :: samples rest
  | _ => []

-- `self._rms(frame) >= self._threshold`, read on exact values: the root mean square is
-- at least `t` iff `t <= 0` or `t * t * n <= sum of squares`; `_rms` is 0.0 without samples
def isLoud (threshold : Int) (frame : List UInt8) : Bool :=
  let values := samples frame
  decide (threshold ≤ 0) ||
    !values.isEmpty &&
      decide (threshold * threshold * values.length ≤ values.foldl (fun sum s => sum + s * s) 0)

-- the fields `feed` changes per frame: `_speech_buffer`, `_in_speech`, `_silent_count`
structure Speech where
  speechBuffer : List UInt8
  inSpeech : Bool
  silentCount : Nat
  deriving DecidableEq, Repr

structure SimpleVAD where
  buffer : List UInt8
  speech : Speech
  deriving DecidableEq, Repr

-- the callbacks, and the debug record of a segment `_emit_speech` drops
inductive VadEvent where
  | speechStart
  | speechEnd (pcm : List UInt8)
  | discarded (pcm : List UInt8)
  deriving DecidableEq, Repr

def Speech.idle : Speech := ⟨[], false, 0⟩

-- `SimpleVAD(config)` and `reset()`
def SimpleVAD.init : SimpleVAD := ⟨[], Speech.idle⟩

def emitSpeech (cfg : VadConfig) (speech : Speech) : Speech × List VadEvent :=
  let pcm := speech.speechBuffer
  let durationMs := pcm.length * 1000 / (sampleRate * 2)
  (Speech.idle, if cfg.minSpeechMs ≤ durationMs then [.speechEnd pcm] else [.discarded pcm])

-- the `if rms >= self._threshold: ... elif self._in_speech: ...` statement for one frame
def classifyFrame (cfg : VadConfig) (speech : Speech) (frame : List UInt8) :
    Speech × List VadEvent :=
  if isLoud cfg.threshold frame then
    (⟨speech.speechBuffer ++ frame, true, 0⟩, if speech.inSpeech then [] else [.speechStart])
  else if speech.inSpeech then
    let next : Speech := ⟨speech.speechBuffer ++ frame, true, speech.silentCount + 1⟩
    if silenceFrames ≤ next.silentCount then emitSpeech cfg next else (next, [])
  else (speech, [])

-- the body of the `while` loop of `feed`: the statement above, then the length cap
def processFrame (cfg : VadConfig) (speech : Speech) (frame : List UInt8) :
    Speech × List VadEvent :=
  let classified := classifyFrame cfg speech frame
  if classified.1.inSpeech ∧ cfg.maxBytes ≤ classified.1.speechBuffer.length then
    ((emitSpeech cfg classified.1).1, classified.2 ++ (emitSpeech cfg classified.1).2)
  else classified

-- `while len(self._buffer) >= self._frame_bytes`, with its number of rounds as fuel
def feedLoop (cfg : VadConfig) : Nat → List UInt8 → Speech → SimpleVAD × List VadEvent
  | 0, buffer, speech => (⟨buffer, speech⟩, [])
  | fuel + 1, buffer, speech =>
    if frameBytes ≤ buffer.length then
      let framed := processFrame cfg speech (buffer.take frameBytes)
      let rest := feedLoop cfg fuel (buffer.drop frameBytes) framed.1
      (rest.1, framed.2 ++ rest.2)
    else (⟨buffer, speech⟩, [])

def andThen (first : SimpleVAD × List VadEvent) (next : SimpleVAD → SimpleVAD × List VadEvent) :
    SimpleVAD × List VadEvent :=
  ((next first.1).1, first.2 ++ (next first.1).2)

def SimpleVAD.feed (cfg : VadConfig) (vad : SimpleVAD) (chunk : List UInt8) :
    SimpleVAD × List VadEvent :=
  let buffer := vad.buffer ++ chunk
  feedLoop cfg (buffer.length / frameBytes) buffer vad.speech

theorem frameBytes_eq : frameBytes = 960 := rfl

theorem feedLoop_short (cfg : VadConfig) (fuel : Nat) (buffer : List UInt8) (speech : Speech)
    (short : buffer.length < frameBytes) :
    feedLoop cfg fuel buffer speech = (⟨buffer, speech⟩, []) := by
  cases fuel <;> simp [feedLoop, Nat.not_le.mpr short]

theorem feedLoop_frame (cfg : VadConfig) (fuel : Nat) (buffer : List UInt8) (speech : Speech)
    (full : frameBytes ≤ buffer.length) :
    feedLoop cfg (fuel + 1) buffer speech =
      ((feedLoop cfg fuel (buffer.drop frameBytes)
          (processFrame cfg speech (buffer.take frameBytes)).1).1,
        (processFrame cfg speech (buffer.take frameBytes)).2 ++
          (feedLoop cfg fuel (buffer.drop frameBytes)
            (processFrame cfg speech (buffer.take frameBytes)).1).2) := by
  simp [feedLoop, full]

end WhisperLinux.Audio
