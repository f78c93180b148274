import WhisperLinux.Config
import WhisperLinux.Python.Regex
import WhisperLinux.Python.Words

set_option autoImplicit false

namespace WhisperLinux.Transcriber

open Python Python.Difflib Regex

-- The hallucination filter of `Transcriber.transcribe`: a text is dropped when one of
-- `_HALLUCINATION_PATTERNS` occurs in it, or when it holds more words or characters than
-- `duration_s` seconds of speech can. `duration_s` is `len(pcm_data) / (16000 * 2)`, kept
-- as an exact fraction.

section Patterns

-- the Unicode classes `re` matches `\w` and `\d` with
structure UnicodeClasses where
  isWord : Char → Bool
  isDecimal : Char → Bool

-- `\s` and `\s+`
def space : Regex := .atom isSpace

def spaces : Regex := .plus space

-- a pattern text without special characters, compiled with `re.IGNORECASE`
def lit (s : String) : Regex := .literal s.toList

def subtitle : Regex := lit "субтитр"

def subtitleEditor : Regex := .seqs [lit "редактор", spaces, subtitle]

def subtitleTranslation (classes : UnicodeClasses) : Regex :=
  .seqs [lit "перевод", .star (.atom classes.isWord), spaces, subtitle]

def hallucinationPatterns (classes : UnicodeClasses) : List Regex :=
  [subtitle,
    subtitleEditor,
    subtitleTranslation classes,
    lit "подредактир",
    .seqs [lit "продолжение", spaces, lit "следует"],
    .seqs [lit "спасибо", spaces, lit "за", spaces,
      .alts [lit "просмотр", lit "подписк", lit "внимание"]],
    lit "подписывайтесь",
    .seqs [lit "не", spaces, lit "забудьте", spaces, lit "подписаться"],
    .seqs [lit "ставьте", spaces, lit "лайк"],
    .seqs [lit "с", spaces, lit "вами", spaces, lit "был", .opt (.oneOf "аио".toList), space],
    .seqs [lit "а", .plus (.oneOf "пп".toList), lit "ортизатор"],
    .seqs [lit "добро", spaces, lit "пожаловать"],
    .seqs [lit "до", spaces, lit "новых", spaces, lit "встреч"],
    .seqs [lit "до", spaces, lit "свидания", .star (.atom (· != '\n')), lit "друзья"],
    .seqs [lit "subtitle", .opt (lit "s"), spaces,
      .alts [lit "by", lit "made", lit "edited", lit "created"]],
    .seqs [lit "thank", .opt (lit "s"), spaces, lit "for", spaces, lit "watching"],
    .seqs [lit "subscribe", spaces, .alts [lit "to", lit "and"]],
    .seqs [lit "please", spaces, .alts [lit "like", lit "subscribe"]],
    .seqs [lit "don", .opt (.literal ['\x27']), lit "t", spaces, lit "forget", spaces, lit "to",
      spaces, lit "subscribe"],
    .seqs [lit "copyright", spaces, .atom classes.isDecimal, .atom classes.isDecimal,
      .atom classes.isDecimal, .atom classes.isDecimal]]

-- `_HALLUCINATION_RE`: the patterns joined by "|"
def hallucinationRe (classes : UnicodeClasses) : Regex := .alts (hallucinationPatterns classes)

-- every text the two longer subtitle patterns find, the first one finds: they never change
-- the filter's verdict
theorem search_without_subtitle_variants (classes : UnicodeClasses) (text : List Char) :
    (hallucinationRe classes).search text =
      (Regex.alts (subtitle :: (hallucinationPatterns classes).drop 3)).search text := by
  rw [Bool.eq_iff_iff, hallucinationRe, search_alts, search_alts]
  constructor
  · rintro ⟨r, member, found⟩
    simp only [hallucinationPatterns, List.mem_cons] at member
    rcases member with rfl | rfl | rfl | later
    · exact ⟨_, List.mem_cons_self _ _, found⟩
    · exact ⟨_, List.mem_cons_self _ _, search_of_mem_seqs _ subtitle (by simp [subtitleEditor]) text found⟩
    · exact ⟨_, List.mem_cons_self _ _,
        search_of_mem_seqs _ subtitle (by simp [subtitleTranslation]) text found⟩
    · exact ⟨r, List.mem_cons_of_mem _ (by simpa [hallucinationPatterns] using later), found⟩
  · rintro ⟨r, member, found⟩
    refine ⟨r, ?_, found⟩
    rcases List.mem_cons.mp member with rfl | later
    · exact List.mem_cons_self _ _
    · exact List.mem_of_mem_drop later

end Patterns

section Filter

def maxWordsPerSec : Nat := 5

def maxCharsPerSec : Nat := 25

-- `count > max(floor, duration_s * perSec)` on the exact value of `duration_s`
def exceeds (count floor perSec : Nat) (duration : Fraction) : Bool :=
  floor < count && duration.num * perSec < count * duration.den

-- layer 2 of `_is_hallucination`: more words, or more characters other than " ", than
-- `duration_s` seconds of speech can hold
def tooFast (text : List Char) (duration : Fraction) : Bool :=
  exceeds (split text).length 2 maxWordsPerSec duration ||
    exceeds (text.filter (· != ' ')).length 10 maxCharsPerSec duration

-- `_is_hallucination(text, duration_s)`; `duration_s > 0` for a positive denominator
def isHallucination (classes : UnicodeClasses) (text : List Char) (duration : Fraction) : Bool :=
  if (hallucinationRe classes).search text then true
  else if 0 < duration.num then tooFast text duration
  else false

theorem exceeds_of_shorter (count floor perSec : Nat) (short long : Fraction) (positive : 0 < short.den)
    (shorter : short.num * long.den ≤ long.num * short.den) (over : exceeds count floor perSec long = true) :
    exceeds count floor perSec short = true := by
  simp only [exceeds, Bool.and_eq_true, decide_eq_true_eq] at over ⊢
  refine ⟨over.1, Nat.lt_of_mul_lt_mul_right (a := long.den) ?_⟩
  calc short.num * perSec * long.den
      = short.num * long.den * perSec := Nat.mul_right_comm _ _ _
    _ ≤ long.num * short.den * perSec := Nat.mul_le_mul_right _ shorter
    _ = long.num * perSec * short.den := Nat.mul_right_comm _ _ _
    _ < count * long.den * short.den := Nat.mul_lt_mul_of_pos_right over.2 positive
    _ = count * short.den * long.den := Nat.mul_right_comm _ _ _

theorem tooFast_of_shorter (text : List Char) (short long : Fraction) (positive : 0 < short.den)
    (shorter : short.num * long.den ≤ long.num * short.den) (rejected : tooFast text long = true) :
    tooFast text short = true := by
  simp only [tooFast, Bool.or_eq_true] at rejected ⊢
  exact rejected.imp (exceeds_of_shorter _ _ _ short long positive shorter)
    (exceeds_of_shorter _ _ _ short long positive shorter)

-- the filter gets stricter as the audio gets shorter: what it rejects for a duration, it
-- rejects for every shorter positive one
theorem isHallucination_of_shorter (classes : UnicodeClasses) (text : List Char)
    (short long : Fraction) (spoken : 0 < short.num) (positive : 0 < short.den)
    (shorter : short.num * long.den ≤ long.num * short.den)
    (rejected : isHallucination classes text long = true) :
    isHallucination classes text short = true := by
  unfold isHallucination at rejected ⊢
  by_cases matched : (hallucinationRe classes).search text = true
  · rw [if_pos matched]
  · rw [if_neg matched, if_pos spoken]
    rw [if_neg matched] at rejected
    split at rejected
    · exact tooFast_of_shorter text short long positive shorter rejected
    · cases rejected

set_option maxRecDepth 1000 in
theorem six_words_too_fast_for_half_second :
    0 < (16000 : Nat) ∧ 0 < (32000 : Nat) ∧ 16000 * 32000 ≤ 32000 * 32000 ∧
      isHallucination ⟨Char.isAlphanum, Char.isDigit⟩ "раз два три четыре пять шесть".toList
        ⟨32000, 32000⟩ = true ∧
      isHallucination ⟨Char.isAlphanum, Char.isDigit⟩ "раз два три четыре пять шесть".toList
        ⟨16000, 32000⟩ = true :=
  have rejected : isHallucination ⟨Char.isAlphanum, Char.isDigit⟩
      "раз два три четыре пять шесть".toList ⟨32000, 32000⟩ = true := by
    decide
  ⟨by decide, by decide, by decide, rejected,
    isHallucination_of_shorter _ _ ⟨16000, 32000⟩ ⟨32000, 32000⟩ (by decide) (by decide) (by decide)
      rejected⟩

end Filter

section Transcribe

variable {F : Type}

-- `subprocess.run(cmd, capture_output=True, text=True, timeout=300)` when it returns
structure Completed where
  returncode : Int
  stdout : List Char
  stderr : List Char

-- what `transcribe` raises: `FileNotFoundError` with the path, `subprocess.TimeoutExpired`,
-- and `RuntimeError` with the return code and the first 200 characters of stderr
inductive TranscribeError where
  | fileNotFound (path : List Char)
  | timeoutExpired
  | failed (returncode : Int) (stderr : List Char)
  deriving DecidableEq, Repr

-- the `cmd` of `transcribe`, with `model or self.config.model`
def transcribeCommand (c : Config F) (wav : List Char) (model : Option (List Char)) :
    List (List Char) :=
  [c.whisperCli, "-m".toList, (model.filter fun m => !m.isEmpty).getD c.model, "-f".toList, wav,
    "-nt".toList, "-np".toList, "-t".toList, strInt c.threads, "-l".toList, c.language,
    "-dev".toList, strInt c.gpuDevice]

-- `text.replace(p, "")` for a non-empty `p`: its occurrences removed from left to right
def removeAll (p : List Char) : Nat → List Char → List Char
  | _, [] => []
  | skip + 1, _ :: cs => removeAll p skip cs
  | 0, c :: cs =>
    if p.isPrefixOf (c :: cs) then removeAll p (p.length - 1) cs else c :: removeAll p 0 cs

def blankAudio : List Char := "[BLANK_AUDIO]".toList

-- `result.stdout.strip().replace("[BLANK_AUDIO]", "").strip()`
def cleanTranscript (stdout : List Char) : List Char :=
  strip (removeAll blankAudio 0 (strip stdout))

-- `Transcriber.transcribe`: `isFile` is `os.path.isfile`, `run` the `whisper-cli` process,
-- none when it times out
def transcribe (classes : UnicodeClasses) (c : Config F) (isFile : List Char → Bool)
    (run : List (List Char) → Option Completed) (wav : List Char) (model : Option (List Char))
    (duration : Fraction) : Except TranscribeError (List Char) :=
  if !isFile wav then .error (.fileNotFound wav)
  else
    match run (transcribeCommand c wav model) with
    | none => .error .timeoutExpired
    | some result =>
      if result.returncode != 0 then .error (.failed result.returncode (result.stderr.take 200))
      else
        let text := cleanTranscript result.stdout
        if !text.isEmpty && isHallucination classes text duration then .ok [] else .ok text

end Transcribe

end WhisperLinux.Transcriber
