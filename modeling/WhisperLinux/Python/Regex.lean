import Mathlib.Computability.Language
import WhisperLinux.Python.Text

set_option autoImplicit false

namespace WhisperLinux.Python

-- The part of Python's `re` the hallucination filter uses: patterns built from character
-- tests, concatenation, alternation and repetition, and `search`, which asks whether some
-- substring of the text matches. `Regex.denotes` is the language a pattern matches; the
-- derivative matcher computes `search`, and `Regex.search_iff` says it finds exactly that.

inductive Regex where
  | empty
  | epsilon
  | atom (test : Char → Bool)
  | seq (r s : Regex)
  | alt (r s : Regex)
  | star (r : Regex)

namespace Regex

def denotes : Regex → Language Char
  | empty => 0
  | epsilon => 1
  | atom test => {w | ∃ c, w = [c] ∧ test c = true}
  | seq r s => r.denotes * s.denotes
  | alt r s => r.denotes + s.denotes
  | star r => KStar.kstar r.denotes

@[simp] theorem denotes_empty : empty.denotes = 0 := rfl

@[simp] theorem denotes_epsilon : epsilon.denotes = 1 := rfl

@[simp] theorem mem_atom (test : Char → Bool) (w : List Char) :
    w ∈ (atom test).denotes ↔ ∃ c, w = [c] ∧ test c = true := Iff.rfl

-- `A|B`, `AB`, `A?`, `A+` and a pattern character under `re.IGNORECASE`
def alts (rs : List Regex) : Regex := rs.foldr alt empty

def seqs (rs : List Regex) : Regex := rs.foldr seq epsilon

def opt (r : Regex) : Regex := alt r epsilon

def plus (r : Regex) : Regex := seq r (star r)

def literal (s : List Char) : Regex := seqs (s.map fun c => atom (matchesLiteral c))

-- `[abc]` under `re.IGNORECASE`
def oneOf (s : List Char) : Regex := atom (matchesClass s)

-- the matcher: `nullable` and the Brzozowski derivative, with constructors that drop the
-- empty language so that derivatives stay small
def nullable : Regex → Bool
  | empty => false
  | epsilon => true
  | atom _ => false
  | seq r s => r.nullable && s.nullable
  | alt r s => r.nullable || s.nullable
  | star _ => true

def mkSeq : Regex → Regex → Regex
  | empty, _ => empty
  | _, empty => empty
  | epsilon, s => s
  | r, s => seq r s

def mkAlt : Regex → Regex → Regex
  | empty, s => s
  | r, empty => r
  | r, s => alt r s

def deriv (c : Char) : Regex → Regex
  | empty => empty
  | epsilon => empty
  | atom test => if test c then epsilon else empty
  | seq r s =>
    if r.nullable then mkAlt (mkSeq (r.deriv c) s) (s.deriv c) else mkSeq (r.deriv c) s
  | alt r s => mkAlt (r.deriv c) (s.deriv c)
  | star r => mkSeq (r.deriv c) (star r)

-- whether some prefix of the text matches
def matchesPrefix (r : Regex) : List Char → Bool
  | [] => r.nullable
  | c :: cs => r.nullable || (r.deriv c).matchesPrefix cs

-- `pattern.search(text) is not None`
def search (r : Regex) (text : List Char) : Bool := text.tails.any r.matchesPrefix

section Language

theorem nil_mem_mul (l m : Language Char) : [] ∈ l * m ↔ [] ∈ l ∧ [] ∈ m := by
  rw [Language.mem_mul]
  constructor
  · rintro ⟨a, ha, b, hb, same⟩
    obtain ⟨rfl, rfl⟩ := List.append_eq_nil.mp same
    exact ⟨ha, hb⟩
  · rintro ⟨ha, hb⟩
    exact ⟨[], ha, [], hb, rfl⟩

theorem cons_mem_mul (l m : Language Char) (c : Char) (w : List Char) :
    c :: w ∈ l * m ↔ (∃ a b, w = a ++ b ∧ c :: a ∈ l ∧ b ∈ m) ∨ ([] ∈ l ∧ c :: w ∈ m) := by
  rw [Language.mem_mul]
  constructor
  · rintro ⟨a, ha, b, hb, same⟩
    cases a with
    | nil => exact .inr ⟨ha, same ▸ hb⟩
    | cons d a =>
      obtain ⟨rfl, rfl⟩ := List.cons.inj same
      exact .inl ⟨a, b, rfl, ha, hb⟩
  · rintro (⟨a, b, rfl, ha, hb⟩ | ⟨ha, hb⟩)
    · exact ⟨c :: a, ha, b, hb, rfl⟩
    · exact ⟨[], ha, c :: w, hb, rfl⟩

theorem cons_mem_kstar (l : Language Char) (c : Char) (w : List Char) :
    c :: w ∈ KStar.kstar l ↔ ∃ a b, w = a ++ b ∧ c :: a ∈ l ∧ b ∈ KStar.kstar l := by
  constructor
  · rw [Language.mem_kstar_iff_exists_nonempty]
    rintro ⟨chunks, same, good⟩
    cases chunks with
    | nil => simp at same
    | cons first rest =>
      obtain ⟨hf, nonempty⟩ := good first (List.mem_cons_self _ _)
      cases first with
      | nil => exact absurd rfl nonempty
      | cons d a =>
        simp only [List.flatten_cons, List.cons_append, List.cons.injEq] at same
        obtain ⟨rfl, rfl⟩ := same
        exact ⟨a, rest.flatten, rfl, hf, Language.join_mem_kstar fun y member =>
          (good y (List.mem_cons_of_mem _ member)).1⟩
  · rintro ⟨a, b, rfl, ha, hb⟩
    obtain ⟨chunks, rfl, good⟩ := Language.mem_kstar.mp hb
    exact Language.mem_kstar.mpr ⟨(c :: a) :: chunks, rfl, fun y member =>
      (List.mem_cons.mp member).elim (fun same => same ▸ ha) (good y)⟩

end Language

section Matcher

theorem nullable_iff (r : Regex) : r.nullable = true ↔ [] ∈ r.denotes := by
  induction r with
  | empty => exact ⟨fun h => absurd h Bool.false_ne_true, fun h => absurd h (Language.not_mem_zero _)⟩
  | epsilon => exact ⟨fun _ => Language.nil_mem_one, fun _ => rfl⟩
  | atom test => simp [nullable]
  | seq r s ihr ihs => simp only [nullable, Bool.and_eq_true, ihr, ihs, denotes, nil_mem_mul]
  | alt r s ihr ihs => simp only [nullable, Bool.or_eq_true, ihr, ihs, denotes, Language.mem_add]
  | star r => exact ⟨fun _ => Language.nil_mem_kstar _, fun _ => rfl⟩

@[simp] theorem denotes_mkSeq (r s : Regex) : (mkSeq r s).denotes = r.denotes * s.denotes := by
  cases r <;> cases s <;> simp [mkSeq, denotes]

@[simp] theorem denotes_mkAlt (r s : Regex) : (mkAlt r s).denotes = r.denotes + s.denotes := by
  cases r <;> cases s <;> simp [mkAlt, denotes]

theorem mem_deriv (c : Char) (r : Regex) (w : List Char) :
    w ∈ (r.deriv c).denotes ↔ c :: w ∈ r.denotes := by
  induction r generalizing w with
  | empty => exact Iff.rfl
  | epsilon => simp [deriv, Language.mem_one, Language.not_mem_zero]
  | atom test =>
    by_cases passes : test c = true
    · simp only [deriv, passes, if_true, denotes_epsilon, Language.mem_one, mem_atom, List.cons.injEq]
      exact ⟨fun done => ⟨c, ⟨rfl, done⟩, passes⟩, fun ⟨_, ⟨_, done⟩, _⟩ => done⟩
    · simp [deriv, passes, Language.not_mem_zero]
  | seq r s ihr ihs =>
    simp only [deriv, denotes, cons_mem_mul]
    split
    · next empty =>
      simp only [denotes_mkAlt, denotes_mkSeq, Language.mem_add, Language.mem_mul, ihr, ihs,
        (nullable_iff r).mp empty, true_and]
      constructor
      · rintro (⟨a, ha, b, hb, rfl⟩ | h)
        · exact .inl ⟨a, b, rfl, ha, hb⟩
        · exact .inr h
      · rintro (⟨a, b, rfl, ha, hb⟩ | h)
        · exact .inl ⟨a, ha, b, hb, rfl⟩
        · exact .inr h
    · next full =>
      have absent : [] ∉ r.denotes := fun h => full ((nullable_iff r).mpr h)
      simp only [denotes_mkSeq, Language.mem_mul, ihr, absent, false_and, or_false]
      constructor
      · rintro ⟨a, ha, b, hb, rfl⟩
        exact ⟨a, b, rfl, ha, hb⟩
      · rintro ⟨a, b, rfl, ha, hb⟩
        exact ⟨a, ha, b, hb, rfl⟩
  | alt r s ihr ihs => simp only [deriv, denotes, denotes_mkAlt, Language.mem_add, ihr, ihs]
  | star r ih =>
    simp only [deriv, denotes_mkSeq, denotes, Language.mem_mul, cons_mem_kstar, ih]
    constructor
    · rintro ⟨a, ha, b, hb, rfl⟩
      exact ⟨a, b, rfl, ha, hb⟩
    · rintro ⟨a, b, rfl, ha, hb⟩
      exact ⟨a, ha, b, hb, rfl⟩

theorem matchesPrefix_iff (r : Regex) (text : List Char) :
    r.matchesPrefix text = true ↔ ∃ p, p <+: text ∧ p ∈ r.denotes := by
  induction text generalizing r with
  | nil => simp [matchesPrefix, nullable_iff]
  | cons c cs ih =>
    simp only [matchesPrefix, Bool.or_eq_true, nullable_iff, ih, mem_deriv, List.prefix_cons_iff]
    constructor
    · rintro (empty | ⟨p, front, member⟩)
      · exact ⟨[], .inl rfl, empty⟩
      · exact ⟨c :: p, .inr ⟨p, rfl, front⟩, member⟩
    · rintro ⟨p, rfl | ⟨t, rfl, front⟩, member⟩
      · exact .inl member
      · exact .inr ⟨t, front, member⟩

-- the matcher finds a match exactly when some substring of the text is in the language
theorem search_iff (r : Regex) (text : List Char) :
    r.search text = true ↔ ∃ p, p <:+: text ∧ p ∈ r.denotes := by
  simp only [search, List.any_eq_true, List.mem_tails, matchesPrefix_iff, List.infix_iff_prefix_suffix]
  constructor
  · rintro ⟨t, suffix, p, front, member⟩
    exact ⟨p, ⟨t, front, suffix⟩, member⟩
  · rintro ⟨p, ⟨t, front, suffix⟩, member⟩
    exact ⟨t, suffix, p, front, member⟩

end Matcher

section Builders

@[simp] theorem mem_alts (rs : List Regex) (w : List Char) :
    w ∈ (alts rs).denotes ↔ ∃ r ∈ rs, w ∈ r.denotes := by
  induction rs with
  | nil => simp [alts, denotes, Language.not_mem_zero]
  | cons r rs ih =>
    simp only [alts, List.foldr_cons, denotes, Language.mem_add, List.mem_cons, exists_eq_or_imp]
    rw [← ih]
    rfl

theorem search_alts (rs : List Regex) (text : List Char) :
    (alts rs).search text = true ↔ ∃ r ∈ rs, r.search text = true := by
  simp only [search_iff, mem_alts]
  constructor
  · rintro ⟨p, within, r, member, matched⟩
    exact ⟨r, member, p, within, matched⟩
  · rintro ⟨r, member, p, within, matched⟩
    exact ⟨p, within, r, member, matched⟩

theorem mem_seqs_cons (r : Regex) (rs : List Regex) (w : List Char) :
    w ∈ (seqs (r :: rs)).denotes ↔ ∃ a b, w = a ++ b ∧ a ∈ r.denotes ∧ b ∈ (seqs rs).denotes := by
  simp only [seqs, List.foldr_cons, denotes, Language.mem_mul]
  constructor
  · rintro ⟨a, ha, b, hb, rfl⟩
    exact ⟨a, b, rfl, ha, hb⟩
  · rintro ⟨a, b, rfl, ha, hb⟩
    exact ⟨a, ha, b, hb, rfl⟩

theorem infix_of_mem_seqs (rs : List Regex) (r : Regex) (part : r ∈ rs) (w : List Char)
    (matched : w ∈ (seqs rs).denotes) : ∃ p, p <:+: w ∧ p ∈ r.denotes := by
  induction rs generalizing w with
  | nil => contradiction
  | cons first rest ih =>
    obtain ⟨a, b, rfl, ha, hb⟩ := (mem_seqs_cons first rest w).mp matched
    rcases List.mem_cons.mp part with rfl | later
    · exact ⟨a, (List.prefix_append a b).isInfix, ha⟩
    · obtain ⟨p, within, member⟩ := ih later b hb
      exact ⟨p, within.trans (List.suffix_append a b).isInfix, member⟩

theorem search_of_mem_seqs (rs : List Regex) (r : Regex) (part : r ∈ rs) (text : List Char)
    (found : (seqs rs).search text = true) : r.search text = true := by
  obtain ⟨w, within, matched⟩ := (search_iff _ text).mp found
  obtain ⟨p, inside, member⟩ := infix_of_mem_seqs rs r part w matched
  exact (search_iff r text).mpr ⟨p, inside.trans within, member⟩

end Builders

end Regex

end WhisperLinux.Python
