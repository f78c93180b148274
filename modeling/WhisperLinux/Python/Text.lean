import WhisperLinux.Python.Unicode
import Mathlib.Data.List.DropRight
import Mathlib.Data.List.Infix

set_option autoImplicit false

namespace WhisperLinux.Python

/-! Python's `str` is a sequence of code points. The daemon's text helpers are modelled on
`List Char`, and the library calls they make (`str.split`, `str.strip`, `str.lower`,
`" ".join`, the two regular expressions of `strip_wake_word`) are the definitions below. -/

-- `str.isspace`, the whitespace of `str.split()`, `str.strip()` and `re`'s `\s`
def isSpace (c : Char) : Bool := inRanges c.toNat whitespaceRanges

-- `_sre.unicode_tolower`, the simple lower-case mapping
def lower (c : Char) : Char := Char.ofNat (lowerCode c.toNat)

def isCased (c : Char) : Bool := inRanges c.toNat casedRanges

def isCaseIgnorable (c : Char) : Bool := inRanges c.toNat caseIgnorableRanges

section Lower

-- the first character of `s` that is not case-ignorable is cased
def startsCased (s : List Char) : Bool :=
  match s.dropWhile isCaseIgnorable with
  | c :: _ => isCased c
  | [] => false

-- `handle_capital_sigma`: a cased letter before the sigma and none after it, case-ignorable
-- characters skipped; `before` is read backwards
def finalSigma (before after : List Char) : Bool := startsCased before && !startsCased after

-- `lower_ucs4` on the character `c` of `before.reverse ++ c :: after`: the full mapping, which
-- differs from the simple one for 'İ' alone, and the final sigma
def lowerAt (before : List Char) (c : Char) (after : List Char) : List Char :=
  if c = 'Σ' then [if finalSigma before after then 'ς' else 'σ']
  else if c = 'İ' then ['i', '\u0307']
  else [lower c]

def lowerFrom (before : List Char) : List Char → List Char
  | [] => []
  | c :: after => lowerAt before c after ++ lowerFrom (c :: before) after

-- `str.lower`
def lowerText (s : List Char) : List Char := lowerFrom [] s

end Lower

-- `s.split()`: cut at every whitespace character and drop the empty pieces
def split (s : List Char) : List (List Char) :=
  (s.splitOnP isSpace).filter fun word => !word.isEmpty

-- `s.strip(chars)`, the characters given by a membership test
def stripChars (inChars : Char → Bool) (s : List Char) : List Char :=
  (s.dropWhile inChars).rdropWhile inChars

def strip (s : List Char) : List Char := stripChars isSpace s

-- `" ".join(words)`
def join (words : List (List Char)) : List Char := [' '].intercalate words

-- `re.sub(r"\s+", " ", s)`; `inRun` says the previous character was whitespace
def collapseSpaces : Bool → List Char → List Char
  | _, [] => []
  | inRun, c :: cs =>
    if isSpace c then
      if inRun then collapseSpaces true cs else ' ' :: collapseSpaces true cs
    else c :: collapseSpaces false cs

-- `p in s`
def occursIn (p s : List Char) : Bool := s.tails.any p.isPrefixOf

section IgnoreCase

-- `_sre.unicode_iscased`
def reIsCased (c : Char) : Bool := inRanges c.toNat reCasedRanges

-- the lower cases a text character may have to match the literal `p` under `re.IGNORECASE`:
-- `p`'s own, and those `_EXTRA_CASES` adds to it
def foldsOf (p : Char) : List Char :=
  lower p :: ((extraCases.lookup (lower p).toNat).getD []).map Char.ofNat

-- `_compile` on a literal: LITERAL for a character without case, otherwise LITERAL_UNI_IGNORE
-- or IN_UNI_IGNORE, which test the text character's lower case
def matchesLiteral (p t : Char) : Bool :=
  if reIsCased p then (foldsOf p).contains (lower t) else t == p

-- `_optimize_charset` on a class of literals: IN_UNI_IGNORE tests the text character's lower
-- case against the members' folds when a member is cased, IN tests the character itself
def matchesClass (members : List Char) (t : Char) : Bool :=
  if members.any reIsCased then (members.flatMap foldsOf).contains (lower t)
  else (members.flatMap foldsOf).contains t

def matchesAt : List Char → List Char → Bool
  | [], _ => true
  | _ :: _, [] => false
  | p :: ps, t :: ts => matchesLiteral p t && matchesAt ps ts

-- `pattern.search(s)` for `re.compile(re.escape(p), re.IGNORECASE)`
def searchIgnoreCase (p s : List Char) : Bool := s.tails.any (matchesAt p)

-- `pattern.sub("", s)` for a non-empty `p`: leftmost matches, resumed after each one;
-- `skip` counts the characters of the current match still to delete
def subIgnoreCase (p : List Char) : Nat → List Char → List Char
  | _, [] => []
  | skip + 1, _ :: cs => subIgnoreCase p skip cs
  | 0, c :: cs =>
    if matchesAt p (c :: cs) then subIgnoreCase p (p.length - 1) cs
    else c :: subIgnoreCase p 0 cs

-- the empty pattern matches between all characters and deletes nothing
def subAll (p s : List Char) : List Char :=
  if p.isEmpty then s else subIgnoreCase p 0 s

end IgnoreCase

-- `".,!?;:-\"'()[]"`, the characters `VoiceCommands.process`, `contains_wake_word` and
-- `strip_wake_word` strip from each token (39 is the apostrophe)
def punctuation : List Char :=
  ['.', ',', '!', '?', ';', ':', '-', '"', Char.ofNat 39, '(', ')', '[', ']']

def isPunctuation (c : Char) : Bool := punctuation.contains c

@[simp] theorem lowerFrom_nil (before : List Char) : lowerFrom before [] = [] := rfl

@[simp] theorem lowerFrom_cons (before : List Char) (c : Char) (after : List Char) :
    lowerFrom before (c :: after) = lowerAt before c after ++ lowerFrom (c :: before) after := rfl

@[simp] theorem lowerText_nil : lowerText [] = [] := rfl

end WhisperLinux.Python
