import Mathlib.Data.List.Basic

set_option autoImplicit false

namespace WhisperLinux.Python.Difflib

-- `difflib.SequenceMatcher(None, a, b).ratio()`, the similarity both fuzzy matchers use.
-- With `isjunk=None` the junk set is empty; `autojunk` still drops the popular characters of
-- a `b` of 200 or more characters from the index. Ratios are exact fractions: the matchers
-- only compare them with each other and with 0.7 and 0.75.

structure Fraction where
  num : Nat
  den : Nat
  deriving DecidableEq, Repr

-- `p >= q` and `p > q` on the values `num / den` (denominators are positive)
def Fraction.atLeast (p q : Fraction) : Bool := q.num * p.den ≤ p.num * q.den

def Fraction.greater (p q : Fraction) : Bool := q.num * p.den < p.num * q.den

structure Block where
  i : Nat
  j : Nat
  size : Nat
  deriving DecidableEq, Repr

-- `self.b2j[x]` after `__chain_b`: the positions of `x` in `b`, none for a popular `x`
def b2j (b : List Char) (x : Char) : List Nat :=
  if 200 ≤ b.length ∧ b.length / 100 + 1 < b.count x then []
  else (List.range b.length).filter fun j => b[j]? == some x

-- one `j` of the inner loop of `find_longest_match`:
-- `k = newj2len[j] = j2lenget(j-1, 0) + 1`, and the best block so far
def rowStep (j2len : Nat → Nat) (i : Nat) (row : (Nat → Nat) × Block) (j : Nat) :
    (Nat → Nat) × Block :=
  let k := (if j = 0 then 0 else j2len (j - 1)) + 1
  ((fun j' => if j' = j then k else row.1 j'),
    if row.2.size < k then ⟨i + 1 - k, j + 1 - k, k⟩ else row.2)

-- the outer loop `for i in range(alo, ahi)`; the `continue` and `break` on `j` keep
-- exactly the indices in `[blo, bhi)`
def scanRows (a b : List Char) (blo bhi : Nat) :
    List Nat → (Nat → Nat) → Block → Block
  | [], _, best => best
  | i :: rows, j2len, best =>
    let js := (match a[i]? with | some x => b2j b x | none => []).filter
      fun j => blo ≤ j && j < bhi
    let row := js.foldl (rowStep j2len i) (fun _ => 0, best)
    scanRows a b blo bhi rows row.1 row.2

-- the two `while` loops extending the block over equal non-junk elements
def extendBack (a b : List Char) (alo blo : Nat) : Nat → Block → Block
  | 0, m => m
  | fuel + 1, m =>
    if alo < m.i ∧ blo < m.j ∧ a[m.i - 1]? = b[m.j - 1]? then
      extendBack a b alo blo fuel ⟨m.i - 1, m.j - 1, m.size + 1⟩
    else m

def extendForward (a b : List Char) (ahi bhi : Nat) : Nat → Block → Block
  | 0, m => m
  | fuel + 1, m =>
    if m.i + m.size < ahi ∧ m.j + m.size < bhi ∧ a[m.i + m.size]? = b[m.j + m.size]? then
      extendForward a b ahi bhi fuel { m with size := m.size + 1 }
    else m

def findLongestMatch (a b : List Char) (alo ahi blo bhi : Nat) : Block :=
  let best := scanRows a b blo bhi (List.range' alo (ahi - alo)) (fun _ => 0) ⟨alo, blo, 0⟩
  extendForward a b ahi bhi (ahi - alo) (extendBack a b alo blo (ahi - alo) best)

-- the total size of the blocks `get_matching_blocks` finds in `a[alo:ahi]`, `b[blo:bhi]`;
-- its queue only fixes the order of the blocks, not their sizes. Every recursive call has
-- a shorter `a` range, so `len(a) + 1` is enough fuel.
def matchedSize (a b : List Char) : Nat → Nat → Nat → Nat → Nat → Nat
  | 0, _, _, _, _ => 0
  | fuel + 1, alo, ahi, blo, bhi =>
    let m := findLongestMatch a b alo ahi blo bhi
    if m.size = 0 then 0
    else
      m.size +
        (if alo < m.i ∧ blo < m.j then matchedSize a b fuel alo m.i blo m.j else 0) +
        (if m.i + m.size < ahi ∧ m.j + m.size < bhi then
          matchedSize a b fuel (m.i + m.size) ahi (m.j + m.size) bhi
        else 0)

-- `_calculate_ratio(matches, len(a) + len(b))`
def ratio (a b : List Char) : Fraction :=
  if a.length + b.length = 0 then ⟨1, 1⟩
  else ⟨2 * matchedSize a b (a.length + 1) 0 a.length 0 b.length, a.length + b.length⟩

end WhisperLinux.Python.Difflib
