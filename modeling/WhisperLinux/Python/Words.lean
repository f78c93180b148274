import WhisperLinux.Python.Text

set_option autoImplicit false

namespace WhisperLinux.Python

/-! What `str.strip`, `str.split` and `" ".join` do to the words of a text: a text built by
`join` is stripped word by word and split back into its words, and a space-free phrase inside
it lies inside one word. -/

section Join

@[simp] theorem join_nil : join [] = [] := rfl

@[simp] theorem join_singleton (word : List Char) : join [word] = word := by
  simp [join, List.intercalate]

@[simp] theorem join_cons_cons (word next : List Char) (rest : List (List Char)) :
    join (word :: next :: rest) = word ++ ' ' :: join (next :: rest) := by
  simp [join, List.intercalate, List.intersperse_cons_cons]

theorem join_append_singleton (words : List (List Char)) (nonempty : words ≠ [])
    (word : List Char) : join (words ++ [word]) = join words ++ ' ' :: word := by
  induction words with
  | nil => contradiction
  | cons first rest ih =>
    cases rest with
    | nil => simp
    | cons next rest =>
      have shorter := ih (List.cons_ne_nil _ _)
      simp only [List.cons_append, join_cons_cons] at shorter ⊢
      rw [shorter]
      simp

theorem reverse_join (words : List (List Char)) :
    (join words).reverse = join (words.map List.reverse).reverse := by
  induction words with
  | nil => rfl
  | cons first rest ih =>
    cases rest with
    | nil => simp
    | cons next rest =>
      rw [join_cons_cons, List.reverse_append, List.reverse_cons, ih,
        show (first :: next :: rest).map List.reverse =
          first.reverse :: (next :: rest).map List.reverse from rfl,
        List.reverse_cons, join_append_singleton _ (by simp)]
      simp

end Join

section Strip

-- the words of `join words` that `dropWhile q` leaves, for a `q` that holds of the space
def dropFront (q : Char → Bool) : List (List Char) → List (List Char)
  | [] => []
  | word :: rest => if word.all q then dropFront q rest else word.dropWhile q :: rest

-- the words of `join words` that `rdropWhile q` leaves
def dropBack (q : Char → Bool) (words : List (List Char)) : List (List Char) :=
  ((dropFront q (words.map List.reverse).reverse).map List.reverse).reverse

-- the words of `join words` that `stripChars q` leaves
def stripWords (q : Char → Bool) (words : List (List Char)) : List (List Char) :=
  dropBack q (dropFront q words)

section
variable (q : Char → Bool) (space : q ' ' = true)
include space

theorem dropWhile_join (words : List (List Char)) :
    (join words).dropWhile q = join (dropFront q words) := by
  induction words with
  | nil => rfl
  | cons word rest ih =>
    by_cases all : word.all q
    · have cut : ∀ c ∈ word, q c = true := List.all_eq_true.mp all
      rw [dropFront, if_pos all, ← ih]
      cases rest with
      | nil => simpa [List.dropWhile_eq_nil_iff] using cut
      | cons next rest =>
        rw [join_cons_cons, List.dropWhile_append_of_pos cut, List.dropWhile_cons_of_pos space]
    · have kept : (word.dropWhile q).isEmpty = false := by
        simpa [List.dropWhile_eq_nil_iff] using all
      rw [dropFront, if_neg all]
      cases rest with
      | nil => simp
      | cons next rest => rw [join_cons_cons, join_cons_cons, List.dropWhile_append, kept]; rfl

theorem rdropWhile_join (words : List (List Char)) :
    (join words).rdropWhile q = join (dropBack q words) := by
  rw [List.rdropWhile, reverse_join, dropWhile_join q space, reverse_join]
  rfl

theorem stripChars_join (words : List (List Char)) :
    stripChars q (join words) = join (stripWords q words) := by
  rw [stripChars, dropWhile_join q space, rdropWhile_join q space]
  rfl

end

-- `word` is `whole` with characters passing `q` cut from both ends
def Trimmed (q : Char → Bool) (word whole : List Char) : Prop :=
  ∃ before after, whole = before ++ word ++ after ∧ (∀ c ∈ before, q c = true) ∧
    ∀ c ∈ after, q c = true

section
variable {q : Char → Bool}

theorem Trimmed.refl (word : List Char) : Trimmed q word word :=
  ⟨[], [], by simp, by simp, by simp⟩

theorem Trimmed.trans {word middle whole : List Char} :
    Trimmed q word middle → Trimmed q middle whole → Trimmed q word whole
  | ⟨before, after, inner, cutBefore, cutAfter⟩, ⟨before', after', outer, cutBefore', cutAfter'⟩ =>
    ⟨before' ++ before, after ++ after', by simp [outer, inner],
      by simp only [List.mem_append]; rintro c (h | h) <;> simp [*],
      by simp only [List.mem_append]; rintro c (h | h) <;> simp [*]⟩

theorem Trimmed.mono {r : Char → Bool} (weaker : ∀ c, q c = true → r c = true)
    {word whole : List Char} : Trimmed q word whole → Trimmed r word whole
  | ⟨before, after, split, cutBefore, cutAfter⟩ =>
    ⟨before, after, split, fun c h => weaker c (cutBefore c h), fun c h => weaker c (cutAfter c h)⟩

theorem Trimmed.reverse {word whole : List Char} :
    Trimmed q word whole → Trimmed q word.reverse whole.reverse
  | ⟨before, after, split, cutBefore, cutAfter⟩ =>
    ⟨after.reverse, before.reverse, by simp [split], by simpa using cutAfter, by simpa using cutBefore⟩

theorem Trimmed.inside {word whole : List Char} : Trimmed q word whole → word <:+: whole
  | ⟨before, after, split, _, _⟩ => ⟨before, after, split.symm⟩

theorem trimmed_of_mem_dropFront (words : List (List Char)) (word : List Char)
    (member : word ∈ dropFront q words) : ∃ whole ∈ words, Trimmed q word whole := by
  induction words with
  | nil => cases member
  | cons first rest ih =>
    rw [dropFront] at member
    split at member
    · obtain ⟨whole, inside, trimmed⟩ := ih member
      exact ⟨whole, .tail _ inside, trimmed⟩
    · rcases List.mem_cons.mp member with rfl | later
      · exact ⟨first, .head _, first.takeWhile q, [], by simp,
          fun c h => List.mem_takeWhile_imp h, by simp⟩
      · exact ⟨word, .tail _ later, .refl word⟩

theorem trimmed_of_mem_dropBack (words : List (List Char)) (word : List Char)
    (member : word ∈ dropBack q words) : ∃ whole ∈ words, Trimmed q word whole := by
  simp only [dropBack, List.mem_reverse, List.mem_map] at member
  obtain ⟨reversed, inside, rfl⟩ := member
  obtain ⟨whole, outside, trimmed⟩ := trimmed_of_mem_dropFront _ reversed inside
  simp only [List.mem_reverse, List.mem_map] at outside
  obtain ⟨original, kept, rfl⟩ := outside
  exact ⟨original, kept, by simpa using trimmed.reverse⟩

theorem trimmed_of_mem_stripWords (words : List (List Char)) (word : List Char)
    (member : word ∈ stripWords q words) : ∃ whole ∈ words, Trimmed q word whole := by
  obtain ⟨middle, inside, outer⟩ := trimmed_of_mem_dropBack _ word member
  obtain ⟨whole, kept, inner⟩ := trimmed_of_mem_dropFront words middle inside
  exact ⟨whole, kept, outer.trans inner⟩

end

theorem rdropWhile_append_of_pos (q : Char → Bool) (s rest : List Char)
    (cut : ∀ c ∈ rest, q c = true) : (s ++ rest).rdropWhile q = s.rdropWhile q := by
  simp only [List.rdropWhile, List.reverse_append]
  rw [List.dropWhile_append_of_pos (by simpa using cut)]

theorem stripChars_frame (q : Char → Bool) (before word after : List Char)
    (cutBefore : ∀ c ∈ before, q c = true) (cutAfter : ∀ c ∈ after, q c = true) :
    stripChars q (before ++ word ++ after) = stripChars q word := by
  rw [stripChars, List.append_assoc, List.dropWhile_append_of_pos cutBefore, List.dropWhile_append]
  split
  · next empty =>
    have gone : word.dropWhile q = [] := List.isEmpty_iff.mp empty
    rw [stripChars, gone, List.dropWhile_eq_nil_iff.mpr cutAfter]
  · rw [rdropWhile_append_of_pos q _ _ cutAfter]
    rfl

theorem stripChars_stripChars (q : Char → Bool) (s : List Char) :
    stripChars q (stripChars q s) = stripChars q s := by
  have first := List.dropWhile_eq_self_iff.mp (List.dropWhile_idempotent q s)
  have front : (stripChars q s).dropWhile q = stripChars q s := by
    refine List.dropWhile_eq_self_iff.mpr fun nonempty => ?_
    have within := List.rdropWhile_prefix q (s.dropWhile q)
    simp only [List.get_eq_getElem, stripChars, within.getElem nonempty] at first ⊢
    exact first (Nat.lt_of_lt_of_le nonempty within.length_le)
  rw [stripChars, front, stripChars, List.rdropWhile_idempotent]

end Strip

section Split

theorem splitOnP_append_sep {α : Type} (p : α → Bool) (front : List α) (sep : α)
    (isSep : p sep = true) (back : List α) :
    (front ++ sep :: back).splitOnP p = front.splitOnP p ++ back.splitOnP p := by
  induction front with
  | nil => simp [isSep]
  | cons x front ih =>
    rw [List.cons_append, List.splitOnP_cons, List.splitOnP_cons, ih]
    split
    · rfl
    · cases pieces : front.splitOnP p with
      | nil => exact absurd pieces (List.splitOnP_ne_nil _ _)
      | cons first rest => rfl

theorem splitOnP_pieces {α : Type} (p : α → Bool) (s : List α) :
    ∃ first rest, s.splitOnP p = first :: rest ∧ first <+: s ∧ (∀ c ∈ first, p c = false) ∧
      ∀ piece ∈ rest, piece <:+: s ∧ ∀ c ∈ piece, p c = false := by
  induction s with
  | nil => exact ⟨[], [], rfl, List.prefix_rfl, by simp, by simp⟩
  | cons x s ih =>
    obtain ⟨first, rest, pieces, start, clean, others⟩ := ih
    rw [List.splitOnP_cons, pieces]
    split
    · refine ⟨[], first :: rest, rfl, List.nil_prefix, by simp, ?_⟩
      intro piece member
      rcases List.mem_cons.mp member with rfl | later
      · exact ⟨start.isInfix.trans (List.suffix_cons x s).isInfix, clean⟩
      · exact ⟨(others piece later).1.trans (List.suffix_cons x s).isInfix, (others piece later).2⟩
    · next separator =>
      refine ⟨x :: first, rest, rfl, List.prefix_cons_inj x |>.mpr start, ?_, ?_⟩
      · intro c member
        rcases List.mem_cons.mp member with rfl | later
        · simpa using separator
        · exact clean c later
      · intro piece member
        exact ⟨(others piece member).1.trans (List.suffix_cons x s).isInfix,
          (others piece member).2⟩

theorem mem_split (s word : List Char) (member : word ∈ split s) :
    word <:+: s ∧ ∀ c ∈ word, isSpace c = false := by
  obtain ⟨first, rest, pieces, start, clean, others⟩ := splitOnP_pieces isSpace s
  simp only [split, pieces, List.mem_filter, List.mem_cons] at member
  rcases member.1 with rfl | later
  · exact ⟨start.isInfix, clean⟩
  · exact others word later

theorem split_join (words : List (List Char)) : split (join words) = (words.map split).flatten := by
  induction words with
  | nil => rfl
  | cons word rest ih =>
    cases rest with
    | nil => simp
    | cons next rest =>
      rw [join_cons_cons, split, splitOnP_append_sep _ _ _ (by decide), List.filter_append]
      rw [← split, ← split, ih]
      simp

theorem mem_split_join (words : List (List Char))
    (free : ∀ word ∈ words, ∀ c ∈ word, isSpace c = false) (token : List Char)
    (member : token ∈ split (join words)) : token ∈ words := by
  rw [split_join] at member
  obtain ⟨pieces, outer, inner⟩ := List.mem_flatten.mp member
  obtain ⟨word, inside, rfl⟩ := List.mem_map.mp outer
  have single : word.splitOnP isSpace = [word] :=
    List.splitOnP_eq_single _ _ fun c h => by simp [free word inside c h]
  simp only [split, single, List.mem_filter, List.mem_singleton] at inner
  exact inner.1 ▸ inside

theorem split_of_mem_split (s word : List Char) (member : word ∈ split s) : split word = [word] := by
  have single : word.splitOnP isSpace = [word] :=
    List.splitOnP_eq_single _ _ fun c h => by simp [(mem_split s word member).2 c h]
  have nonempty := (List.mem_filter.mp member).2
  simpa [split, single] using nonempty

theorem split_join_of_words (words : List (List Char))
    (whole : ∀ word ∈ words, split word = [word]) : split (join words) = words := by
  rw [split_join]
  induction words with
  | nil => rfl
  | cons word rest ih =>
    simp [whole word (List.mem_cons_self _ _),
      ih fun w member => whole w (List.mem_cons_of_mem _ member)]

end Split

section Occurs

theorem occursIn_iff (p s : List Char) : occursIn p s = true ↔ p <:+: s := by
  simp only [occursIn, List.any_eq_true, List.mem_tails, List.isPrefixOf_iff_prefix,
    List.infix_iff_prefix_suffix]
  exact ⟨fun ⟨t, suffix, start⟩ => ⟨t, start, suffix⟩, fun ⟨t, start, suffix⟩ => ⟨t, suffix, start⟩⟩

theorem prefix_append_sep (front back : List Char) (sep : Char) (p : List Char)
    (absent : sep ∉ p) (start : p <+: front ++ sep :: back) : p <+: front := by
  induction front generalizing p with
  | nil =>
    cases p with
    | nil => exact List.nil_prefix
    | cons c p =>
      obtain ⟨rfl, -⟩ := List.cons_prefix_cons.mp start
      simp at absent
  | cons x front ih =>
    cases p with
    | nil => exact List.nil_prefix
    | cons c p =>
      obtain ⟨rfl, rest⟩ := List.cons_prefix_cons.mp start
      exact List.cons_prefix_cons.mpr ⟨rfl, ih p (fun member => absent (.tail _ member)) rest⟩

theorem infix_append_sep (p front back : List Char) (sep : Char) (absent : sep ∉ p)
    (inside : p <:+: front ++ sep :: back) : p <:+: front ∨ p <:+: back := by
  induction front with
  | nil =>
    rcases List.infix_cons_iff.mp inside with start | later
    · left
      cases p with
      | nil => exact List.nil_infix
      | cons c p =>
        obtain ⟨rfl, -⟩ := List.cons_prefix_cons.mp start
        simp at absent
    · exact .inr later
  | cons x front ih =>
    rcases List.infix_cons_iff.mp inside with start | later
    · exact .inl (prefix_append_sep (x :: front) back sep p absent start).isInfix
    · rcases ih later with early | late
      · exact .inl (early.trans (List.suffix_cons x front).isInfix)
      · exact .inr late

-- a space-free phrase inside a join of words lies inside one word
theorem infix_of_infix_join (p : List Char) (free : ∀ c ∈ p, isSpace c = false)
    (words : List (List Char)) (inside : p <:+: join words) (nonempty : p ≠ []) :
    ∃ word ∈ words, p <:+: word := by
  induction words with
  | nil => exact absurd (List.eq_nil_of_infix_nil inside) nonempty
  | cons word rest ih =>
    cases rest with
    | nil => exact ⟨word, .head _, by simpa using inside⟩
    | cons next rest =>
      have absent : ' ' ∉ p := fun member => absurd (free ' ' member) (by decide)
      rw [join_cons_cons] at inside
      rcases infix_append_sep p word _ ' ' absent inside with here | later
      · exact ⟨word, .head _, here⟩
      · obtain ⟨found, member, within⟩ := ih later
        exact ⟨found, .tail _ member, within⟩

end Occurs

end WhisperLinux.Python
