import WhisperLinux.Python.Lower
import WhisperLinux.Python.Difflib

set_option autoImplicit false

namespace WhisperLinux.Transcriber

open Python Python.Difflib

structure WakeWordDetector where
  wakeWord : List Char
  variants : List (List Char)

-- `_build_variants`: the phrase, and the phrase without each inflectional suffix it ends
-- with when more than two characters remain; a set, so only membership matters
def buildVariants (word : List Char) : List (List Char) :=
  word :: ["а", "я", "ша", "жа"].filterMap fun suffix =>
    if suffix.data.isSuffixOf word && suffix.length + 2 < word.length then
      some (word.take (word.length - suffix.length))
    else none

-- `WakeWordDetector(wake_word)`: `wake_word.lower().strip()`
def WakeWordDetector.new (wakeWord : List Char) : WakeWordDetector :=
  let word := strip (lowerText wakeWord)
  ⟨word, buildVariants word⟩

-- `FUZZY_THRESHOLD = 0.7`
def fuzzyThreshold : Fraction := ⟨7, 10⟩

def WakeWordDetector.isFuzzyMatch (detector : WakeWordDetector) (word : List Char) : Bool :=
  (ratio detector.wakeWord word).atLeast fuzzyThreshold ||
    detector.variants.any fun variant => (ratio variant word).atLeast fuzzyThreshold

-- the token test of both methods: `word and self._is_fuzzy_match(word)`
def WakeWordDetector.matchesToken (detector : WakeWordDetector) (word : List Char) : Bool :=
  !word.isEmpty && detector.isFuzzyMatch word

def WakeWordDetector.containsWakeWord (detector : WakeWordDetector) (text : List Char) : Bool :=
  let textLower := strip (lowerText text)
  occursIn detector.wakeWord textLower ||
    (split textLower).any fun word => detector.matchesToken (stripChars isPunctuation word)

-- `".,!?;:- "`, stripped from both ends of the residue
def isTrailing (c : Char) : Bool := ['.', ',', '!', '?', ';', ':', '-', ' '].contains c

-- the tokens the fallback path of `strip_wake_word` keeps
def WakeWordDetector.keptTokens (detector : WakeWordDetector) (text : List Char) :
    List (List Char) :=
  (split text).filter fun word =>
    !detector.matchesToken (lowerText (stripChars isPunctuation word))

-- `strip_wake_word`: every literal occurrence if there is one, else every fuzzy token
def WakeWordDetector.stripWakeWord (detector : WakeWordDetector) (text : List Char) :
    List Char :=
  if searchIgnoreCase detector.wakeWord text then
    stripChars isTrailing (strip (collapseSpaces false (subAll detector.wakeWord text)))
  else stripChars isTrailing (strip (join (detector.keptTokens text)))

-- a literal occurrence and a misspelled one: the literal path leaves the misspelled one; and
-- 'İ', which `str.lower` writes as "i̇" but `re.IGNORECASE` folds to "i": the phrase is then in
-- the lower-cased text but not found by the pattern, and the token path keeps it
set_option maxRecDepth 1000 in
theorem stripWakeWord_keeps_misspelling :
    (WakeWordDetector.new "дуняша".data).containsWakeWord "дуняша дуняща".data = true ∧
      (WakeWordDetector.new "дуняша".data).containsWakeWord
        ((WakeWordDetector.new "дуняша".data).stripWakeWord "дуняша дуняща".data) = true ∧
      (WakeWordDetector.new "İpek".data).containsWakeWord "İpekçiler geldi".data = true ∧
      (WakeWordDetector.new "İpek".data).containsWakeWord
        ((WakeWordDetector.new "İpek".data).stripWakeWord "İpekçiler geldi".data) = true := by
  decide

-- the final `strip(".,!?;:- ")` trims the ends of the whole residue: a sign or a final mark far
-- from the wake phrase goes, and quotes around it that are not in the set stay
set_option maxRecDepth 1000 in
theorem stripWakeWord_trims_result_ends :
    (WakeWordDetector.new "дуняша".data).stripWakeWord "-5 градусов, «Дуняша»!".data =
        "5 градусов, «»".data ∧
      (WakeWordDetector.new "дуняша".data).stripWakeWord "Дуняша, включи свет!".data =
        "включи свет".data := by
  decide

section FuzzyPath

/-! Without a literal occurrence `strip_wake_word` drops every token that passes the fuzzy
match; the residue is made of the other tokens, trimmed at its two ends. -/

set_option maxRecDepth 1000 in
theorem stripSet_isTrailing : StripSet isTrailing :=
  .of_ranges isTrailing _ (within_of_contains _) (by decide) (by decide) (by decide)

-- what the residue's ends may lose: whitespace, or the trailing marks, all of them punctuation
def isCut (c : Char) : Bool := isSpace c || isTrailing c

theorem isPunctuation_of_isCut (c : Char) (cut : isCut c = true) (visible : isSpace c = false) :
    isPunctuation c = true := by
  have marks : ∀ d ∈ ['.', ',', '!', '?', ';', ':', '-', ' '], isSpace d = false →
      isPunctuation d = true := by
    decide
  simp only [isCut, visible, Bool.false_or] at cut
  exact marks c (by simpa [isTrailing] using cut) visible

variable (detector : WakeWordDetector) (text : List Char)

-- the lower-cased, stripped residue of the fuzzy path, as words
def WakeWordDetector.residueWords : List (List Char) :=
  stripWords isSpace (stripWords isTrailing
    (stripWords isSpace ((detector.keptTokens text).map lowerText)))

theorem lowerText_residue (absent : searchIgnoreCase detector.wakeWord text = false) :
    strip (lowerText (detector.stripWakeWord text)) = join (detector.residueWords text) := by
  rw [WakeWordDetector.stripWakeWord, if_neg (by simp [absent]), strip, strip,
    lowerText_stripChars isTrailing stripSet_isTrailing,
    lowerText_stripChars isSpace stripSet_isSpace, lowerText_join,
    stripChars_join isSpace (by decide), stripChars_join isTrailing (by decide),
    stripChars_join isSpace (by decide)]
  rfl

theorem mem_keptTokens (token : List Char) (kept : token ∈ detector.keptTokens text) :
    token ∈ split text ∧ (∀ c ∈ token, isSpace c = false) ∧
      detector.matchesToken (lowerText (stripChars isPunctuation token)) = false := by
  simp only [WakeWordDetector.keptTokens, List.mem_filter, Bool.not_eq_true'] at kept
  exact ⟨kept.1, (mem_split text token kept.1).2, kept.2⟩

theorem mem_residueWords (word : List Char) (member : word ∈ detector.residueWords text) :
    ∃ token ∈ detector.keptTokens text, Trimmed isCut word (lowerText token) := by
  obtain ⟨w₁, m₁, t₁⟩ := trimmed_of_mem_stripWords _ word member
  obtain ⟨w₂, m₂, t₂⟩ := trimmed_of_mem_stripWords _ w₁ m₁
  obtain ⟨w₃, m₃, t₃⟩ := trimmed_of_mem_stripWords _ w₂ m₂
  obtain ⟨token, kept, rfl⟩ := List.mem_map.mp m₃
  have space : ∀ c, isSpace c = true → isCut c = true := fun c h => by simp [isCut, h]
  have trailing : ∀ c, isTrailing c = true → isCut c = true := fun c h => by simp [isCut, h]
  exact ⟨token, kept, (t₁.mono space).trans ((t₂.mono trailing).trans (t₃.mono space))⟩

theorem residueWords_spaceFree (word : List Char) (member : word ∈ detector.residueWords text) :
    ∀ c ∈ word, isSpace c = false := by
  obtain ⟨token, kept, trimmed⟩ := mem_residueWords detector text word member
  exact fun c inside => spaceFree_lowerText token (mem_keptTokens detector text token kept).2.1 c
    (trimmed.inside.subset inside)

theorem residue_tokens_unmatched (token : List Char)
    (member : token ∈ split (join (detector.residueWords text))) :
    detector.matchesToken (stripChars isPunctuation token) = false := by
  have inside := mem_split_join _ (residueWords_spaceFree detector text) token member
  obtain ⟨kept, keptMember, before, after, whole, cutBefore, cutAfter⟩ :=
    mem_residueWords detector text token inside
  obtain ⟨-, free, unmatched⟩ := mem_keptTokens detector text kept keptMember
  have visible := spaceFree_lowerText kept free
  have same : stripChars isPunctuation (lowerText kept) = stripChars isPunctuation token := by
    rw [whole]
    exact stripChars_frame _ _ _ _
      (fun c h => isPunctuation_of_isCut c (cutBefore c h) (visible c (by simp [whole, h])))
      (fun c h => isPunctuation_of_isCut c (cutAfter c h) (visible c (by simp [whole, h])))
  rw [← same, ← lowerText_stripChars isPunctuation stripSet_isPunctuation]
  exact unmatched

-- a space-free phrase in the residue would lie in one kept token, so in the lower-cased text
theorem residue_without_phrase (phrase : List Char) (free : ∀ c ∈ phrase, isSpace c = false)
    (unlowered : occursIn phrase (lowerText text) = false) :
    occursIn phrase (join (detector.residueWords text)) = false := by
  cases found : occursIn phrase (join (detector.residueWords text))
  · rfl
  · have nonempty : phrase ≠ [] := by
      rintro rfl
      rw [(occursIn_iff _ _).mpr List.nil_infix] at unlowered
      cases unlowered
    obtain ⟨word, member, within⟩ :=
      infix_of_infix_join _ free _ ((occursIn_iff _ _).mp found) nonempty
    obtain ⟨token, kept, trimmed⟩ := mem_residueWords _ text word member
    have token_lowered := lowerText_mem_split text token (mem_keptTokens _ text token kept).1
    have lowered : phrase <:+: lowerText text :=
      within.trans (trimmed.inside.trans (mem_split _ _ token_lowered).1)
    rw [(occursIn_iff _ _).mpr lowered] at unlowered
    cases unlowered

theorem stripWakeWord_without_literal (wake text : List Char)
    (free : ∀ c ∈ (WakeWordDetector.new wake).wakeWord, isSpace c = false)
    (absent : searchIgnoreCase (WakeWordDetector.new wake).wakeWord text = false)
    (unlowered : occursIn (WakeWordDetector.new wake).wakeWord (lowerText text) = false) :
    (WakeWordDetector.new wake).containsWakeWord
      ((WakeWordDetector.new wake).stripWakeWord text) = false := by
  simp only [WakeWordDetector.containsWakeWord]
  rw [lowerText_residue _ _ absent, residue_without_phrase _ text _ free unlowered, Bool.false_or,
    List.any_eq_false]
  intro token member
  rw [residue_tokens_unmatched _ text token member]
  decide

set_option maxRecDepth 1000 in
theorem stripWakeWord_without_literal_greeting :
    (∀ c ∈ (WakeWordDetector.new "дуняша".data).wakeWord, isSpace c = false) ∧
      searchIgnoreCase (WakeWordDetector.new "дуняша".data).wakeWord "Дуняшка, привет!".data =
        false ∧
      occursIn (WakeWordDetector.new "дуняша".data).wakeWord (lowerText "Дуняшка, привет!".data) =
        false ∧
      (WakeWordDetector.new "дуняша".data).containsWakeWord
        ((WakeWordDetector.new "дуняша".data).stripWakeWord "Дуняшка, привет!".data) = false :=
  have free : ∀ c ∈ (WakeWordDetector.new "дуняша".data).wakeWord, isSpace c = false := by
    decide
  have absent : searchIgnoreCase (WakeWordDetector.new "дуняша".data).wakeWord
      "Дуняшка, привет!".data = false := by
    decide
  have unlowered : occursIn (WakeWordDetector.new "дуняша".data).wakeWord
      (lowerText "Дуняшка, привет!".data) = false := by
    decide
  ⟨free, absent, unlowered, stripWakeWord_without_literal _ _ free absent unlowered⟩

end FuzzyPath

end WhisperLinux.Transcriber
