import WhisperLinux.Python.Words

set_option autoImplicit false

namespace WhisperLinux.Python

/-! What `str.lower` does to the words of a text. Whitespace is neither cased nor
case-ignorable, so the final-sigma test never looks across it: lower-casing a text lower-cases
its words one by one, and commutes with `split`, `join` and the `strip` calls of the daemon. -/

section Characters

theorem toNat_ofNat_of_valid (m : Nat) (valid : m.isValidChar) : (Char.ofNat m).toNat = m := by
  rw [Char.ofNat, dif_pos valid]
  rfl

theorem toNat_lower (c : Char) : (lower c).toNat = lowerCode c.toNat :=
  toNat_ofNat_of_valid _ (isValidChar_lowerCode c.toNat c.valid)

@[simp] theorem lower_lower (c : Char) : lower (lower c) = lower c := by
  rw [lower, toNat_lower, lowerCode_lowerCode]
  rfl

-- a test that passes only code points of untouched ranges does not see `lower`
theorem lower_keeps (p : Char → Bool) (R : List (Nat × Nat))
    (within : ∀ c, p c = true → ∃ range ∈ R, range.1 ≤ c.toNat ∧ c.toNat ≤ range.2)
    (untouched : Untouched R) (c : Char) : p (lower c) = p c := by
  have outside (d : Char) (apart : ∀ range ∈ R, range.2 < d.toNat ∨ d.toNat < range.1) :
      p d = false := by
    cases pass : p d
    · rfl
    · obtain ⟨range, inR, above, below⟩ := within d pass
      exact absurd (apart range inR) (by omega)
  rcases lowerCode_cases c.toNat with same | ⟨r, member, low, high, -, moved⟩
  · rw [lower, same, Char.ofNat_toNat]
  · have image := (toNat_lower c).trans moved
    rw [outside c fun range inR => by have := (untouched range inR r member).1; omega,
      outside (lower c) fun range inR => by have := (untouched range inR r member).2; omega]

theorem lower_of_noCapitals (R : List (Nat × Nat)) (none : NoCapitals R) (c : Char)
    (inside : ∃ range ∈ R, range.1 ≤ c.toNat ∧ c.toNat ≤ range.2) : lower c = c := by
  obtain ⟨range, inR, above, below⟩ := inside
  rcases lowerCode_cases c.toNat with same | ⟨r, member, low, high, -, -⟩
  · rw [lower, same, Char.ofNat_toNat]
  · exact absurd (none range inR r member) (by omega)

theorem within_of_inRanges (R : List (Nat × Nat)) (c : Char) (inside : inRanges c.toNat R = true) :
    ∃ range ∈ R, range.1 ≤ c.toNat ∧ c.toNat ≤ range.2 :=
  mem_of_inRanges c.toNat R inside

theorem within_of_contains (chars : List Char) (c : Char) (inside : chars.contains c = true) :
    ∃ range ∈ chars.map fun d => (d.toNat, d.toNat), range.1 ≤ c.toNat ∧ c.toNat ≤ range.2 :=
  ⟨(c.toNat, c.toNat), List.mem_map_of_mem _ (by simpa using inside), le_rfl, le_rfl⟩

set_option maxRecDepth 1000 in
theorem untouched_whitespace : Untouched whitespaceRanges := by decide

set_option maxRecDepth 1000 in
theorem untouched_punctuation : Untouched (punctuation.map fun d => (d.toNat, d.toNat)) := by
  decide

set_option maxRecDepth 1000 in
theorem whitespace_uncased : RangesApart whitespaceRanges casedRanges := by decide

@[simp] theorem isSpace_lower (c : Char) : isSpace (lower c) = isSpace c :=
  lower_keeps isSpace _ (within_of_inRanges _) untouched_whitespace c

@[simp] theorem isPunctuation_lower (c : Char) : isPunctuation (lower c) = isPunctuation c :=
  lower_keeps isPunctuation _ (within_of_contains _) untouched_punctuation c

set_option maxRecDepth 1000 in
@[simp] theorem lower_space : lower ' ' = ' ' := by decide

set_option maxRecDepth 1000 in
theorem lower_ne_sigma (c : Char) : lower c ≠ 'Σ' := fun sigma => by
  have fixed := lower_lower c
  rw [sigma] at fixed
  exact absurd fixed (by decide)

set_option maxRecDepth 1000 in
theorem lower_ne_dotted (c : Char) : lower c ≠ 'İ' := fun dotted => by
  have fixed := lower_lower c
  rw [dotted] at fixed
  exact absurd fixed (by decide)

-- what `lowerAt` may write for `c`
def lowerImages (c : Char) : List Char :=
  if c = 'Σ' then ['ς', 'σ'] else if c = 'İ' then ['i', '\u0307'] else [lower c]

theorem mem_lowerAt (before after : List Char) (c d : Char) (member : d ∈ lowerAt before c after) :
    d ∈ lowerImages c := by
  unfold lowerAt at member
  unfold lowerImages
  split_ifs at member ⊢ <;> aesop

theorem mem_lowerFrom (before s : List Char) (d : Char) (member : d ∈ lowerFrom before s) :
    ∃ c ∈ s, d ∈ lowerImages c := by
  induction s generalizing before with
  | nil => cases member
  | cons c s ih =>
    rcases List.mem_append.mp member with here | later
    · exact ⟨c, .head _, mem_lowerAt before s c d here⟩
    · obtain ⟨e, inside, image⟩ := ih (c :: before) later
      exact ⟨e, .tail _ inside, image⟩

-- a test that `lower` does not change and that fails on what 'Σ' and 'İ' become fails on the
-- lower case of every character it fails on
theorem images_keep (p : Char → Bool) (keeps : ∀ c, p (lower c) = p c)
    (special : p 'ς' = false ∧ p 'σ' = false ∧ p 'i' = false ∧ p '\u0307' = false) (c : Char)
    (fails : p c = false) : ∀ d ∈ lowerImages c, p d = false := by
  unfold lowerImages
  split_ifs <;> simp [special, keeps, fails]

theorem lowerText_keeps (p : Char → Bool) (keeps : ∀ c, p (lower c) = p c)
    (special : p 'ς' = false ∧ p 'σ' = false ∧ p 'i' = false ∧ p '\u0307' = false)
    (s : List Char) (fails : ∀ c ∈ s, p c = false) : ∀ d ∈ lowerText s, p d = false := by
  intro d member
  obtain ⟨c, inside, image⟩ := mem_lowerFrom [] s d member
  exact images_keep p keeps special c (fails c inside) d image

theorem lowerAt_ne_nil (before after : List Char) (c : Char) : lowerAt before c after ≠ [] := by
  unfold lowerAt
  split_ifs <;> simp

theorem lowerAt_eq_concat (before after : List Char) (c : Char) :
    ∃ front d, lowerAt before c after = front ++ [d] ∧ d ∈ lowerImages c :=
  ⟨(lowerAt before c after).dropLast, (lowerAt before c after).getLast (lowerAt_ne_nil _ _ _),
    (List.dropLast_append_getLast _).symm, mem_lowerAt before after c _ (List.getLast_mem _)⟩

theorem lowerAt_eq_cons (before after : List Char) (c : Char) :
    ∃ d ds, lowerAt before c after = d :: ds ∧ d ∈ lowerImages c := by
  cases shape : lowerAt before c after with
  | nil => exact absurd shape (lowerAt_ne_nil _ _ _)
  | cons d ds => exact ⟨d, ds, rfl, mem_lowerAt before after c d (by simp [shape])⟩

end Characters

section Context

@[simp] theorem startsCased_nil : startsCased [] = false := rfl

theorem startsCased_cons (c : Char) (s : List Char) :
    startsCased (c :: s) = if isCaseIgnorable c then startsCased s else isCased c := by
  unfold startsCased
  by_cases ignorable : isCaseIgnorable c <;> simp [List.dropWhile_cons, ignorable]

theorem startsCased_append (s t : List Char) (stops : startsCased t = false) :
    startsCased (s ++ t) = startsCased s := by
  induction s with
  | nil => exact stops
  | cons c s ih => rw [List.cons_append, startsCased_cons, startsCased_cons, ih]

theorem startsCased_of_uncased (s : List Char) (uncased : ∀ c ∈ s, isCased c = false) :
    startsCased s = false := by
  induction s with
  | nil => rfl
  | cons c s ih =>
    rw [startsCased_cons, ih fun d inside => uncased d (.tail _ inside), uncased c (.head _), ite_self]

theorem lowerAt_congr (before before' after after' : List Char) (c : Char)
    (sameBefore : startsCased before = startsCased before')
    (sameAfter : startsCased after = startsCased after') :
    lowerAt before c after = lowerAt before' c after' := by
  simp only [lowerAt, finalSigma, sameBefore, sameAfter]

-- `str.lower` reads what precedes a character only through `startsCased`
theorem lowerFrom_congr (before before' : List Char)
    (same : startsCased before = startsCased before') (s : List Char) :
    lowerFrom before s = lowerFrom before' s := by
  induction s generalizing before before' with
  | nil => rfl
  | cons c s ih =>
    rw [lowerFrom_cons, lowerFrom_cons, lowerAt_congr before before' s s c same rfl,
      ih (c :: before) (c :: before') (by rw [startsCased_cons, startsCased_cons, same])]

-- the characters of `s` see past `t` only from a sigma, through a cased letter
theorem lowerFrom_append (before s t : List Char) (apart : 'Σ' ∉ s ∨ startsCased t = false) :
    lowerFrom before (s ++ t) = lowerFrom before s ++ lowerFrom (s.reverse ++ before) t := by
  induction s generalizing before with
  | nil => rfl
  | cons c s ih =>
    have first : lowerAt before c (s ++ t) = lowerAt before c s := by
      by_cases sigma : c = 'Σ'
      · have stops : startsCased t = false :=
          apart.resolve_left fun absent => absent (sigma ▸ List.mem_cons_self _ _)
        simp only [lowerAt, finalSigma, startsCased_append s t stops]
      · simp only [lowerAt, if_neg sigma]
    have rest : 'Σ' ∉ s ∨ startsCased t = false :=
      apart.imp (fun absent inside => absent (.tail _ inside)) id
    rw [List.cons_append, lowerFrom_cons, lowerFrom_cons, first, ih (c :: before) rest,
      List.append_assoc, List.reverse_cons, List.append_assoc, List.singleton_append]

theorem lowerText_concat (s : List Char) (c : Char) :
    ∃ written, lowerText (s ++ [c]) = written ++ lowerAt s.reverse c [] := by
  suffices ∀ before, ∃ written, lowerFrom before (s ++ [c]) = written ++ lowerAt (s.reverse ++ before) c [] by
    simpa using this []
  induction s with
  | nil => exact fun before => ⟨[], by simp⟩
  | cons a s ih =>
    intro before
    obtain ⟨written, rest⟩ := ih (a :: before)
    exact ⟨lowerAt before a (s ++ [c]) ++ written, by simp [rest]⟩

theorem lowerAt_of_plain (before after : List Char) (c : Char) (sigma : c ≠ 'Σ') (dotted : c ≠ 'İ') :
    lowerAt before c after = [lower c] := by
  simp only [lowerAt, if_neg sigma, if_neg dotted]

-- characters other than 'Σ' and 'İ' that `lower` keeps are kept by `str.lower`
theorem lowerFrom_of_fixed (before s : List Char)
    (fixed : ∀ c ∈ s, c ≠ 'Σ' ∧ c ≠ 'İ' ∧ lower c = c) : lowerFrom before s = s := by
  induction s generalizing before with
  | nil => rfl
  | cons c s ih =>
    obtain ⟨sigma, dotted, same⟩ := fixed c (.head _)
    rw [lowerFrom_cons, lowerAt_of_plain _ _ c sigma dotted, same,
      ih _ fun d inside => fixed d (.tail _ inside)]
    rfl

set_option maxRecDepth 1000 in
theorem noCapitals_ascii : NoCapitals [(0x0, 0x40), (0x5B, 0x7F)] := by decide

-- ASCII text without capitals is its own lower case
theorem lowerText_of_ascii (s : List Char)
    (small : ∀ c ∈ s, c.toNat < 0x41 ∨ 0x5A < c.toNat ∧ c.toNat < 0x80) : lowerText s = s := by
  refine lowerFrom_of_fixed [] s fun c inside => ⟨?_, ?_, ?_⟩
  · rintro rfl; exact absurd (small _ inside) (by decide)
  · rintro rfl; exact absurd (small _ inside) (by decide)
  · exact lower_of_noCapitals _ noCapitals_ascii c (by
      rcases small c inside with low | high
      · exact ⟨(0x0, 0x40), by simp, by omega, by omega⟩
      · exact ⟨(0x5B, 0x7F), by simp, by omega, by omega⟩)

theorem plain_of_uncased (c : Char) (uncased : isCased c = false) : c ≠ 'Σ' ∧ c ≠ 'İ' := by
  constructor <;> rintro rfl <;> exact absurd uncased (by decide)

end Context

section Words

-- whitespace, which the final-sigma test does not see past
structure Barrier (b : Char) : Prop where
  uncased : isCased b = false
  notIgnorable : isCaseIgnorable b = false

set_option maxRecDepth 2000 in
theorem barrier_of_isSpace (c : Char) (space : isSpace c = true) : Barrier c :=
  ⟨inRanges_of_apart whitespaceRanges casedRanges whitespace_uncased c.toNat
    (mem_of_inRanges _ _ space),
    inRanges_of_apart whitespaceRanges caseIgnorableRanges (by decide) c.toNat
      (mem_of_inRanges _ _ space)⟩

theorem lowerText_append_barrier (s t : List Char) (b : Char) (barrier : Barrier b) :
    lowerText (s ++ b :: t) = lowerText s ++ lower b :: lowerText t := by
  have stops : startsCased (b :: t) = false := by
    simp only [startsCased_cons, barrier.notIgnorable, barrier.uncased, Bool.false_eq_true, if_false]
  obtain ⟨sigma, dotted⟩ := plain_of_uncased b barrier.uncased
  rw [lowerText, lowerFrom_append [] s _ (.inr stops), lowerFrom_cons,
    lowerAt_of_plain _ _ b sigma dotted,
    lowerFrom_congr (b :: _) [] (by simp only [startsCased_cons, barrier.notIgnorable, barrier.uncased,
      Bool.false_eq_true, if_false, startsCased_nil])]
  rfl

theorem lowerText_join (words : List (List Char)) :
    lowerText (join words) = join (words.map lowerText) := by
  induction words with
  | nil => rfl
  | cons first rest ih =>
    cases rest with
    | nil => simp
    | cons next rest =>
      rw [join_cons_cons, lowerText_append_barrier _ _ ' ' (barrier_of_isSpace ' ' (by decide)),
        lower_space, ih]
      rfl

theorem isEmpty_lowerText (s : List Char) : (lowerText s).isEmpty = s.isEmpty := by
  cases s with
  | nil => rfl
  | cons c s => simp [lowerText, lowerAt_ne_nil]

theorem lowerText_ne_nil (s : List Char) (nonempty : s ≠ []) : lowerText s ≠ [] := fun empty => by
  have same := isEmpty_lowerText s
  rw [empty, List.isEmpty_nil] at same
  exact nonempty (List.isEmpty_iff.mp same.symm)

theorem spaceFree_lowerText (s : List Char) (free : ∀ c ∈ s, isSpace c = false) :
    ∀ c ∈ lowerText s, isSpace c = false :=
  lowerText_keeps isSpace isSpace_lower (by decide) s free

theorem splitOnP_lowerText (s : List Char) :
    (lowerText s).splitOnP isSpace = (s.splitOnP isSpace).map lowerText := by
  induction' h : s.length using Nat.strong_induction_on with n ih generalizing s
  by_cases free : ∀ c ∈ s, isSpace c = false
  · rw [List.splitOnP_eq_single _ _ fun c inside => by simp [spaceFree_lowerText s free c inside],
      List.splitOnP_eq_single _ _ fun c inside => by simp [free c inside]]
    rfl
  · have whole := List.takeWhile_append_dropWhile (fun c => !isSpace c) s
    cases rest : s.dropWhile (fun c => !isSpace c) with
    | nil =>
      refine absurd (fun c inside => ?_) free
      have := List.dropWhile_eq_nil_iff.mp rest c inside
      simpa using this
    | cons b back =>
      have space : isSpace b = true := by
        have stop := List.head?_dropWhile_not (fun c => !isSpace c) s
        rw [rest] at stop
        simpa using stop
      set word := s.takeWhile fun c => !isSpace c
      have free : ∀ c ∈ word, isSpace c = false := fun c inside => by
        simpa using List.mem_takeWhile_imp inside
      have single : word.splitOnP isSpace = [word] :=
        List.splitOnP_eq_single _ _ fun c inside => by simp [free c inside]
      have lowered : (lowerText word).splitOnP isSpace = [lowerText word] :=
        List.splitOnP_eq_single _ _ fun c inside => by simp [spaceFree_lowerText _ free c inside]
      rw [rest] at whole
      rw [← whole, lowerText_append_barrier _ _ b (barrier_of_isSpace b space),
        splitOnP_append_sep _ _ _ (by rwa [isSpace_lower]), splitOnP_append_sep _ _ _ space,
        lowered, single, ih back.length (by rw [← h, ← whole]; simp; omega) back rfl]
      rfl

theorem split_lowerText (s : List Char) : split (lowerText s) = (split s).map lowerText := by
  rw [split, split, splitOnP_lowerText, List.filter_map]
  congr 1
  apply List.filter_congr
  intro word _
  rw [Function.comp_apply, isEmpty_lowerText]

-- a token of `s.split()` lower-cased is a token of `s.lower().split()`
theorem lowerText_mem_split (s token : List Char) (member : token ∈ split s) :
    lowerText token ∈ split (lowerText s) := by
  rw [split_lowerText]
  exact List.mem_map_of_mem _ member

end Words

section Strip

-- what `str.strip` may cut without changing a word's lower case: uncased characters that
-- `lower` keeps, and that no other character becomes
structure StripSet (q : Char → Bool) : Prop where
  cut : ∀ c, q c = true → isCased c = false ∧ lower c = c
  kept : ∀ c, q c = false → ∀ d ∈ lowerImages c, q d = false

theorem StripSet.of_ranges (q : Char → Bool) (R : List (Nat × Nat))
    (within : ∀ c, q c = true → ∃ range ∈ R, range.1 ≤ c.toNat ∧ c.toNat ≤ range.2)
    (untouched : Untouched R) (uncased : RangesApart R casedRanges)
    (special : q 'ς' = false ∧ q 'σ' = false ∧ q 'i' = false ∧ q '\u0307' = false) : StripSet q where
  cut c cuts := ⟨inRanges_of_apart R casedRanges uncased c.toNat (within c cuts),
    lower_of_noCapitals R (fun range inR r member => (untouched range inR r member).1) c
      (within c cuts)⟩
  kept := images_keep q (lower_keeps q R within untouched) special

set_option maxRecDepth 1000 in
theorem stripSet_isSpace : StripSet isSpace :=
  .of_ranges isSpace _ (within_of_inRanges _) untouched_whitespace whitespace_uncased (by decide)

set_option maxRecDepth 1000 in
theorem stripSet_isPunctuation : StripSet isPunctuation :=
  .of_ranges isPunctuation _ (within_of_contains _) untouched_punctuation (by decide) (by decide)

variable (q : Char → Bool) (set : StripSet q)
include set

theorem lowerText_cons_of_cut (c : Char) (s : List Char) (cuts : q c = true) :
    lowerText (c :: s) = c :: lowerText s := by
  obtain ⟨uncased, same⟩ := set.cut c cuts
  obtain ⟨sigma, dotted⟩ := plain_of_uncased c uncased
  rw [lowerText, lowerFrom_cons, lowerAt_of_plain _ _ c sigma dotted, same,
    lowerFrom_congr [c] [] (startsCased_of_uncased [c] (by simpa using uncased))]
  rfl

theorem lowerText_concat_of_cut (s : List Char) (c : Char) (cuts : q c = true) :
    lowerText (s ++ [c]) = lowerText s ++ [c] := by
  obtain ⟨uncased, same⟩ := set.cut c cuts
  obtain ⟨sigma, dotted⟩ := plain_of_uncased c uncased
  rw [lowerText, lowerFrom_append [] s [c] (.inr (startsCased_of_uncased [c] (by simpa using uncased))),
    lowerFrom_cons, lowerAt_of_plain _ _ c sigma dotted, same]
  rfl

theorem lowerText_dropWhile (s : List Char) :
    lowerText (s.dropWhile q) = (lowerText s).dropWhile q := by
  induction s with
  | nil => rfl
  | cons c s ih =>
    cases cuts : q c
    · obtain ⟨d, ds, first, image⟩ := lowerAt_eq_cons [] s c
      rw [List.dropWhile_cons_of_neg (by simp [cuts]), lowerText, lowerFrom_cons, first,
        List.cons_append, List.dropWhile_cons_of_neg (by simp [set.kept c cuts d image])]
    · rw [List.dropWhile_cons_of_pos cuts, ih, lowerText_cons_of_cut q set c s cuts,
        List.dropWhile_cons_of_pos cuts]

theorem lowerText_rdropWhile (s : List Char) :
    lowerText (s.rdropWhile q) = (lowerText s).rdropWhile q := by
  induction s using List.reverseRecOn with
  | nil => rfl
  | append_singleton front c ih =>
    cases cuts : q c
    · obtain ⟨written, last⟩ := lowerText_concat front c
      obtain ⟨ds, d, shape, image⟩ := lowerAt_eq_concat front.reverse [] c
      rw [List.rdropWhile_concat_neg q front c (by simp [cuts]), last, shape, ← List.append_assoc,
        List.rdropWhile_concat_neg q _ d (by simp [set.kept c cuts d image])]
    · rw [List.rdropWhile_concat_pos q front c cuts, ih, lowerText_concat_of_cut q set front c cuts,
        List.rdropWhile_concat_pos q _ c cuts]

theorem lowerText_stripChars (s : List Char) :
    lowerText (stripChars q s) = stripChars q (lowerText s) := by
  rw [stripChars, stripChars, lowerText_rdropWhile q set, lowerText_dropWhile q set]

end Strip

-- what `str.lower` writes, it keeps
set_option maxRecDepth 1000 in
theorem plain_of_mem_lowerImages (c d : Char) (image : d ∈ lowerImages c) :
    d ≠ 'Σ' ∧ d ≠ 'İ' ∧ lower d = d := by
  unfold lowerImages at image
  split_ifs at image
  · rcases List.mem_pair.mp image with rfl | rfl <;> decide
  · rcases List.mem_pair.mp image with rfl | rfl <;> decide
  · rw [List.mem_singleton.mp image]
    exact ⟨lower_ne_sigma c, lower_ne_dotted c, lower_lower c⟩

theorem lowerText_lowerText (s : List Char) : lowerText (lowerText s) = lowerText s :=
  lowerFrom_of_fixed [] _ fun d inside =>
    have ⟨c, _, image⟩ := mem_lowerFrom [] s d inside
    plain_of_mem_lowerImages c d image

end WhisperLinux.Python
