import WhisperLinux.Audio.Vad

set_option autoImplicit false

namespace WhisperLinux.Audio

-- the calls the app makes on its VAD: `feed` from the reader, `reset` with each chime
inductive VadCall where
  | feed (chunk : List UInt8)
  | reset

def SimpleVAD.call (cfg : VadConfig) (vad : SimpleVAD) : VadCall → SimpleVAD × List VadEvent
  | .feed chunk => vad.feed cfg chunk
  | .reset => (SimpleVAD.init, [])

def SimpleVAD.run (cfg : VadConfig) : SimpleVAD → List VadCall → SimpleVAD × List VadEvent
  | vad, [] => (vad, [])
  | vad, call :: rest => andThen (vad.call cfg call) fun next => next.run cfg rest

-- a segment in progress is whole frames, below the cap, and there is none outside speech
structure Speech.Valid (cfg : VadConfig) (speech : Speech) : Prop where
  whole : speech.speechBuffer.length % frameBytes = 0
  idle : speech.inSpeech = false → speech.speechBuffer = []
  capped : speech.inSpeech = true → (speech.speechBuffer.length : Int) < cfg.maxBytes

-- a segment one frame past a valid one, as `_emit_speech` may receive it
structure Speech.Grown (cfg : VadConfig) (speech : Speech) : Prop where
  nonempty : speech.speechBuffer ≠ []
  whole : speech.speechBuffer.length % frameBytes = 0
  short : (speech.speechBuffer.length : Int) < frameBytes + max 1 cfg.maxBytes

-- what `on_speech_end` may receive
def Delivered (cfg : VadConfig) : VadEvent → Prop
  | .speechEnd pcm =>
    pcm ≠ [] ∧ pcm.length % frameBytes = 0 ∧
      cfg.minSpeechMs ≤ ((pcm.length * 1000 / 32000 : Nat) : Int) ∧
      (pcm.length : Int) < frameBytes + max 1 cfg.maxBytes
  | _ => True

theorem idle_valid (cfg : VadConfig) : Speech.idle.Valid cfg :=
  ⟨rfl, fun _ => rfl, fun absurd => nomatch absurd⟩

theorem grown_of_valid (cfg : VadConfig) (speech : Speech) (frame : List UInt8) (count : Nat)
    (valid : speech.Valid cfg) (framed : frame.length = frameBytes) :
    (⟨speech.speechBuffer ++ frame, true, count⟩ : Speech).Grown cfg := by
  refine ⟨by simp [← List.length_pos, framed, frameBytes_eq], ?_, ?_⟩
  · simp [List.length_append, framed, Nat.add_mod_right, valid.whole]
  · cases inSpeech : speech.inSpeech
    · simp only [valid.idle inSpeech, List.nil_append, framed]
      omega
    · have capped := valid.capped inSpeech
      simp only [List.length_append, framed]
      omega

theorem emitSpeech_fst (cfg : VadConfig) (speech : Speech) :
    (emitSpeech cfg speech).1 = Speech.idle := rfl

theorem idle_inSpeech : Speech.idle.inSpeech = false := rfl

theorem emitSpeech_delivered (cfg : VadConfig) (speech : Speech) (grown : speech.Grown cfg) :
    ∀ event ∈ (emitSpeech cfg speech).2, Delivered cfg event := by
  intro event member
  by_cases long : cfg.minSpeechMs ≤ ((speech.speechBuffer.length * 1000 / 32000 : Nat) : Int)
  next =>
    simp only [emitSpeech, sampleRate, long, if_true, List.mem_singleton] at member
    subst member
    exact ⟨grown.nonempty, grown.whole, long, grown.short⟩
  next =>
    simp only [emitSpeech, sampleRate, long, if_false, List.mem_singleton] at member
    simp [member, Delivered]

-- what one classification can do: nothing outside speech, or grow the segment by the frame
-- and keep it or close it on silence
theorem classifyFrame_cases (cfg : VadConfig) (speech : Speech) (frame : List UInt8) :
    (speech.inSpeech = false ∧ classifyFrame cfg speech frame = (speech, [])) ∨
      ∃ count, classifyFrame cfg speech frame =
          (⟨speech.speechBuffer ++ frame, true, count⟩,
            if speech.inSpeech then [] else [.speechStart]) ∨
        classifyFrame cfg speech frame =
          emitSpeech cfg ⟨speech.speechBuffer ++ frame, true, count⟩ := by
  unfold classifyFrame
  by_cases loud : isLoud cfg.threshold frame
  · exact .inr ⟨0, .inl (by simp [loud])⟩
  · by_cases inSpeech : speech.inSpeech
    · by_cases silent : silenceFrames ≤ speech.silentCount + 1
      · exact .inr ⟨speech.silentCount + 1, .inr (by simp [loud, inSpeech, silent])⟩
      · exact .inr ⟨speech.silentCount + 1, .inl (by simp [loud, inSpeech, silent])⟩
    · exact .inl ⟨by simpa using inSpeech, by simp [loud, inSpeech]⟩

theorem processFrame_valid (cfg : VadConfig) (speech : Speech) (frame : List UInt8)
    (valid : speech.Valid cfg) (framed : frame.length = frameBytes) :
    (processFrame cfg speech frame).1.Valid cfg ∧
      ∀ event ∈ (processFrame cfg speech frame).2, Delivered cfg event := by
  have started : ∀ event ∈ (if speech.inSpeech then [] else [VadEvent.speechStart]),
      Delivered cfg event := by
    split <;> simp [Delivered]
  obtain ⟨quiet, classified⟩ | ⟨count, classified | classified⟩ :=
    classifyFrame_cases cfg speech frame
  · simp only [processFrame, classified, quiet]
    exact ⟨valid, by simp⟩
  · have grown := grown_of_valid cfg speech frame count valid framed
    by_cases capped : cfg.maxBytes ≤ ((speech.speechBuffer ++ frame).length : Int)
    · simp only [processFrame, classified, capped, and_self, if_true, emitSpeech_fst]
      refine ⟨idle_valid cfg, fun event member => ?_⟩
      rcases List.mem_append.mp member with early | emitted
      · exact started event early
      · exact emitSpeech_delivered cfg _ grown event emitted
    · simp only [processFrame, classified, capped, and_false, if_false]
      exact ⟨⟨grown.whole, (fun absurd => nomatch absurd), fun _ => Int.not_le.mp capped⟩,
        started⟩
  · have grown := grown_of_valid cfg speech frame count valid framed
    simp only [processFrame, classified, emitSpeech_fst, idle_inSpeech, Bool.false_eq_true,
      false_and, if_false]
    exact ⟨idle_valid cfg, emitSpeech_delivered cfg _ grown⟩

theorem mem_andThen (first : SimpleVAD × List VadEvent)
    (next : SimpleVAD → SimpleVAD × List VadEvent) (event : VadEvent) :
    event ∈ (andThen first next).2 ↔ event ∈ first.2 ∨ event ∈ (next first.1).2 := by
  simp [andThen]

theorem feedLoop_valid (cfg : VadConfig) (fuel : Nat) (buffer : List UInt8) (speech : Speech)
    (valid : speech.Valid cfg) :
    (feedLoop cfg fuel buffer speech).1.speech.Valid cfg ∧
      ∀ event ∈ (feedLoop cfg fuel buffer speech).2, Delivered cfg event := by
  induction fuel generalizing buffer speech with
  | zero => exact ⟨valid, by simp [feedLoop]⟩
  | succ fuel ih =>
    by_cases full : frameBytes ≤ buffer.length
    next =>
      have framed := processFrame_valid cfg speech (buffer.take frameBytes) valid
        (by simp [full])
      have rest := ih (buffer.drop frameBytes) _ framed.1
      rw [feedLoop_frame cfg _ _ _ full]
      refine ⟨rest.1, fun event member => ?_⟩
      rcases List.mem_append.mp member with here | later
      · exact framed.2 event here
      · exact rest.2 event later
    next =>
      rw [feedLoop_short cfg _ _ _ (Nat.not_le.mp full)]
      exact ⟨valid, by simp⟩

theorem run_valid (cfg : VadConfig) (calls : List VadCall) (vad : SimpleVAD)
    (valid : vad.speech.Valid cfg) :
    (vad.run cfg calls).1.speech.Valid cfg ∧
      ∀ event ∈ (vad.run cfg calls).2, Delivered cfg event := by
  induction calls generalizing vad with
  | nil => exact ⟨valid, by simp [SimpleVAD.run]⟩
  | cons call rest ih =>
    have called : (vad.call cfg call).1.speech.Valid cfg ∧
        ∀ event ∈ (vad.call cfg call).2, Delivered cfg event := by
      cases call with
      | feed chunk => exact feedLoop_valid cfg _ _ _ valid
      | reset => exact ⟨idle_valid cfg, by simp [SimpleVAD.call]⟩
    have later := ih _ called.1
    refine ⟨later.1, fun event member => ?_⟩
    rcases (mem_andThen _ _ event).mp member with here | there
    · exact called.2 event here
    · exact later.2 event there

theorem speechEnd_within_bounds (cfg : VadConfig) (calls : List VadCall) (pcm : List UInt8)
    (delivered : VadEvent.speechEnd pcm ∈ (SimpleVAD.init.run cfg calls).2) :
    pcm ≠ [] ∧ pcm.length % 960 = 0 ∧
      cfg.minSpeechMs ≤ ((pcm.length * 1000 / 32000 : Nat) : Int) ∧
      (pcm.length : Int) < 960 + max 1 cfg.maxBytes :=
  (run_valid cfg calls _ (idle_valid cfg)).2 _ delivered

-- one loud frame under a one-byte cap is emitted at once
set_option maxRecDepth 8000 in
theorem speechEnd_within_bounds_one_frame :
    VadEvent.speechEnd (List.replicate 960 0) ∈
        (SimpleVAD.init.run ⟨0, 0, 1⟩ [.feed (List.replicate 960 0)]).2 ∧
      List.replicate 960 (0 : UInt8) ≠ [] ∧ (List.replicate 960 (0 : UInt8)).length % 960 = 0 ∧
      (0 : Int) ≤ (((List.replicate 960 (0 : UInt8)).length * 1000 / 32000 : Nat) : Int) ∧
      ((List.replicate 960 (0 : UInt8)).length : Int) < 960 + max 1 1 :=
  have delivered : VadEvent.speechEnd (List.replicate 960 0) ∈
      (SimpleVAD.init.run ⟨0, 0, 1⟩ [.feed (List.replicate 960 0)]).2 := by decide
  ⟨delivered, speechEnd_within_bounds ⟨0, 0, 1⟩ _ _ delivered⟩

end WhisperLinux.Audio
