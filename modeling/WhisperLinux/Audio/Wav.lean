import WhisperLinux.Audio.VadSegments
import Mathlib.Algebra.Group.Nat.Basic
import Mathlib.Algebra.Group.Int

set_option autoImplicit false

namespace WhisperLinux.Audio

-- `_write_wav`, the 44-byte RIFF/WAVE header and the samples that `_process_speech_segment`
-- hands to the transcriber, and a reader of such files to say what the header means.

-- the bytes of an ASCII tag such as `b"RIFF"`
def ascii (tag : String) : List UInt8 := tag.toList.map fun c => UInt8.ofNat c.toNat

def toLE : Nat → Nat → List UInt8
  | 0, _ => []
  | width + 1, value => UInt8.ofNat (value % 256) :: toLE width (value / 256)

-- `struct.pack("<I", value)` for a width of 4 and `struct.pack("<H", value)` for 2; `none`
-- where the value does not fit and `struct.pack` raises
def pack (width value : Nat) : Option (List UInt8) :=
  if value < 256 ^ width then some (toLE width value) else none

-- the `f.write` calls of `_write_wav`, in order; a `none` is a `struct.pack` that raises
def wavWrites (pcm : List UInt8) (sampleRate channels bits : Nat) : List (Option (List UInt8)) :=
  let dataSize := pcm.length
  let byteRate := sampleRate * channels * bits / 8
  let blockAlign := channels * bits / 8
  [some (ascii "RIFF"), pack 4 (36 + dataSize), some (ascii "WAVE"), some (ascii "fmt "),
    pack 4 16, pack 2 1, pack 2 channels, pack 4 sampleRate, pack 4 byteRate,
    pack 2 blockAlign, pack 2 bits, some (ascii "data"), pack 4 dataSize, some pcm]

-- what the file holds after the writes, and whether they all ran: the file keeps the writes
-- made before a `struct.pack` raised
def runWrites : List (Option (List UInt8)) → List UInt8 × Bool
  | [] => ([], true)
  | none :: _ => ([], false)
  | some bytes :: rest => (bytes ++ (runWrites rest).1, (runWrites rest).2)

-- `_write_wav(path, pcm_data, sample_rate, channels, bits)`: the file's bytes, and whether it
-- returned
def writeWav (pcm : List UInt8) (sampleRate channels bits : Nat) : List UInt8 × Bool :=
  runWrites (wavWrites pcm sampleRate channels bits)

-- a 44-byte PCM header for 16000 Hz, mono, 16 bits, then the samples
def wavLayout (pcm : List UInt8) : List UInt8 :=
  ascii "RIFF" ++ toLE 4 (36 + pcm.length) ++ ascii "WAVE" ++ ascii "fmt " ++ toLE 4 16 ++
    toLE 2 1 ++ toLE 2 1 ++ toLE 4 16000 ++ toLE 4 32000 ++ toLE 2 2 ++ toLE 2 16 ++
    ascii "data" ++ toLE 4 pcm.length ++ pcm

structure WavFormat where
  format : Nat
  channels : Nat
  sampleRate : Nat
  byteRate : Nat
  blockAlign : Nat
  bits : Nat
  deriving DecidableEq, Repr

def ofLE : List UInt8 → Nat
  | [] => 0
  | byte :: rest => byte.toNat + 256 * ofLE rest

def readField (width : Nat) (bytes : List UInt8) : Option (Nat × List UInt8) :=
  if width ≤ bytes.length then some (ofLE (bytes.take width), bytes.drop width) else none

def readTag (tag : String) (bytes : List UInt8) : Option (List UInt8) :=
  if bytes.take 4 = ascii tag then some (bytes.drop 4) else none

def readFormat (bytes : List UInt8) : Option (WavFormat × List UInt8) := do
  let format ← readField 2 bytes
  let channels ← readField 2 format.2
  let sampleRate ← readField 4 channels.2
  let byteRate ← readField 4 sampleRate.2
  let blockAlign ← readField 2 byteRate.2
  let bits ← readField 2 blockAlign.2
  pure (⟨format.1, channels.1, sampleRate.1, byteRate.1, blockAlign.1, bits.1⟩, bits.2)

-- a reader of canonical RIFF/WAVE files: a RIFF chunk over the rest of the file, a 16-byte
-- "fmt " chunk, then a "data" chunk whose size is the number of bytes left; the format and
-- the samples
def readWav (file : List UInt8) : Option (WavFormat × List UInt8) := do
  let riff ← readField 4 (← readTag "RIFF" file)
  guard (riff.1 = riff.2.length)
  let fmtSize ← readField 4 (← readTag "fmt " (← readTag "WAVE" riff.2))
  guard (fmtSize.1 = 16)
  let format ← readFormat fmtSize.2
  let data ← readField 4 (← readTag "data" format.2)
  guard (data.1 = data.2.length)
  pure (format.1, data.2)

section Codec

@[simp] theorem length_toLE (width value : Nat) : (toLE width value).length = width := by
  induction width generalizing value with
  | zero => rfl
  | succ width ih => simp [toLE, ih]

theorem ofLE_toLE (width value : Nat) : ofLE (toLE width value) = value % 256 ^ width := by
  induction width generalizing value with
  | zero => simp [toLE, ofLE, Nat.mod_one]
  | succ width ih =>
    have byte : value % 256 < UInt8.size := Nat.mod_lt _ (by decide)
    rw [toLE, ofLE, ih, UInt8.toNat_ofNat_of_lt byte, Nat.pow_succ', Nat.mod_mul]

theorem pack_of_lt (width value : Nat) (fits : value < 256 ^ width) :
    pack width value = some (toLE width value) := by
  simp [pack, fits]

@[simp] theorem readField_toLE (width value : Nat) (rest : List UInt8)
    (fits : value < 256 ^ width) :
    readField width (toLE width value ++ rest) = some (value, rest) := by
  simp [readField, List.take_append_eq_append_take, List.drop_append_eq_append_drop,
    ofLE_toLE, Nat.mod_eq_of_lt fits]

@[simp] theorem readTag_ascii (tag : String) (rest : List UInt8) (four : (ascii tag).length = 4) :
    readTag tag (ascii tag ++ rest) = some rest := by
  simp [readTag, ← four]

end Codec

-- `_write_wav(path, pcm)` with its defaults writes `wavLayout pcm` whenever the RIFF size fits
-- in 32 bits, and a reader recovers the format and the samples; every segment the VAD delivers
-- fits when the cap on a segment leaves room for the header and a frame
theorem wav_file_layout :
    (∀ pcm : List UInt8, 36 + pcm.length < 2 ^ 32 →
      writeWav pcm 16000 1 16 = (wavLayout pcm, true) ∧
        (wavLayout pcm).length = 44 + pcm.length ∧
        readWav (wavLayout pcm) = some (⟨1, 1, 16000, 32000, 2, 16⟩, pcm)) ∧
    ∀ (cfg : VadConfig) (calls : List VadCall) (pcm : List UInt8), cfg.maxBytes + 996 < 2 ^ 32 →
      VadEvent.speechEnd pcm ∈ (SimpleVAD.init.run cfg calls).2 → 36 + pcm.length < 2 ^ 32 := by
  refine ⟨fun pcm fits => ?_, fun cfg calls pcm room delivered => ?_⟩
  · -- each tag is four bytes, and both sizes fit in their 32-bit fields
    have riff : (ascii "RIFF").length = 4 := rfl
    have wave : (ascii "WAVE").length = 4 := rfl
    have fmt : (ascii "fmt ").length = 4 := rfl
    have data : (ascii "data").length = 4 := rfl
    have riffSize : 36 + pcm.length < 256 ^ 4 := fits
    have dataSize : pcm.length < 256 ^ 4 := by omega
    refine ⟨?_, by simp [wavLayout, riff, wave, fmt, data]; omega, ?_⟩
    · simp [writeWav, wavWrites, runWrites, pack_of_lt _ _ riffSize, pack_of_lt _ _ dataSize,
        pack_of_lt, wavLayout]
    · simp_arith [readWav, readFormat, wavLayout, riff, wave, fmt, data,
        readField_toLE _ _ _ riffSize, readField_toLE _ _ _ dataSize]
  · obtain ⟨-, -, -, short⟩ := (run_valid cfg calls _ (idle_valid cfg)).2 _ delivered
    rw [frameBytes_eq] at short
    omega

-- two samples, and the one-frame segment of a VAD that delivers anything
set_option maxRecDepth 8000 in
theorem wav_file_layout_two_samples :
    (writeWav [1, 2] 16000 1 16 = (wavLayout [1, 2], true) ∧ (wavLayout [1, 2]).length = 46 ∧
        readWav (wavLayout [1, 2]) = some (⟨1, 1, 16000, 32000, 2, 16⟩, [1, 2])) ∧
      36 + (List.replicate 960 (0 : UInt8)).length < 2 ^ 32 :=
  ⟨wav_file_layout.1 [1, 2] (by decide),
    wav_file_layout.2 ⟨0, 0, 1⟩ [.feed (List.replicate 960 0)] _ (by decide) (by decide)⟩

end WhisperLinux.Audio
