import WhisperLinux.Audio.VadSegments

set_option autoImplicit false

namespace WhisperLinux.Audio

-- `feed` read frame by frame: the 960-byte frames of everything fed since construction or the
-- last `reset()`, each run through the body of the `while` loop in turn; and what the byte
-- strings handed to `_emit_speech` are in terms of those frames.

section Framing

def framesOf : Nat → List UInt8 → List (List UInt8)
  | 0, _ => []
  | count + 1, bytes => bytes.take frameBytes :: framesOf count (bytes.drop frameBytes)

-- the frames the `while` loop of `feed` cuts from its buffer, and the bytes it leaves there
def frames (bytes : List UInt8) : List (List UInt8) := framesOf (bytes.length / frameBytes) bytes

end Framing

section Segments

variable (cfg : VadConfig)

def Begins (segment : List (List UInt8)) : Prop :=
  ∀ first rest, segment = first :: rest → isLoud cfg.threshold first = true

-- `silenceFrames` quiet frames in a row only as the segment's last frames
def NoLongPause (segment : List (List UInt8)) : Prop :=
  ∀ before pause after, segment = before ++ pause ++ after → pause.length = silenceFrames →
    (∀ frame ∈ pause, isLoud cfg.threshold frame = false) → after = []

-- what becomes of a closed segment: `on_speech_end` when it lasts `min_speech_ms`, else it is
-- discarded
def verdict (pcm : List UInt8) : VadEvent :=
  if cfg.minSpeechMs ≤ ((pcm.length * 1000 / 32000 : Nat) : Int) then .speechEnd pcm
  else .discarded pcm

-- a stretch of the frames: one outside every segment, or a segment `_emit_speech` received
inductive Piece where
  | gap (frame : List UInt8)
  | segment (frames : List (List UInt8))

def Piece.frames : Piece → List (List UInt8)
  | .gap frame => [frame]
  | .segment frames => frames

-- the events of each frame of a segment: `on_speech_start` at its first frame and, once the
-- segment is closed, its verdict at its last
def segmentEvents (closed : Bool) (segment : List (List UInt8)) : List (List VadEvent) :=
  (List.range segment.length).map fun i =>
    (if i = 0 then [.speechStart] else []) ++
      if closed ∧ i + 1 = segment.length then [verdict cfg segment.flatten] else []

-- the byte string an event carries: what `_emit_speech` was handed
def VadEvent.segmentBytes : VadEvent → Option (List UInt8)
  | .speechStart => none
  | .speechEnd pcm => some pcm
  | .discarded pcm => some pcm

def Piece.events : Piece → List (List VadEvent)
  | .gap _ => [[]]
  | .segment frames => segmentEvents cfg true frames

-- a gap frame is quiet; a segment is not empty, begins loud, and pauses for the trailing
-- silence only at its end
def Piece.Valid : Piece → Prop
  | .gap frame => isLoud cfg.threshold frame = false
  | .segment frames => frames ≠ [] ∧ Begins cfg frames ∧ NoLongPause cfg frames

@[simp] theorem segmentBytes_speechStart : VadEvent.speechStart.segmentBytes = none := rfl

@[simp] theorem segmentBytes_verdict (pcm : List UInt8) :
    (verdict cfg pcm).segmentBytes = some pcm := by
  unfold verdict
  split <;> rfl

end Segments

end WhisperLinux.Audio
