import WhisperLinux.Python.Text

set_option autoImplicit false

namespace WhisperLinux.Python

-- `configparser.ConfigParser()` as `Config._load` and `Config.save` use it: the delimiters
-- "=" and ":", the comment prefixes "#" and ";" (whole lines only), empty lines kept in
-- values, `strict=True`, `optionxform = str.lower` and `BasicInterpolation`

-- a dict in insertion order; assigning to a key already there keeps its place
abbrev Options (α : Type) := List (List Char × α)

def assign {κ α : Type} [DecidableEq κ] (key : κ) (value : α) : List (κ × α) → List (κ × α)
  | [] => [(key, value)]
  | entry :: rest => if entry.1 = key then (key, value) :: rest else entry :: assign key value rest

theorem keys_assign {κ β : Type} [DecidableEq κ] (key : κ) (value : β) (l : List (κ × β)) (k : κ) :
    k ∈ (assign key value l).map Prod.fst ↔ k = key ∨ k ∈ l.map Prod.fst := by
  induction l with
  | nil => simp [assign]
  | cons e rest ih =>
    simp only [assign, List.map_cons]
    split
    · next same => simp [same]
    · simp [ih, or_left_comm]

theorem nodup_assign {κ β : Type} [DecidableEq κ] (key : κ) (value : β) (l : List (κ × β))
    (nodup : (l.map Prod.fst).Nodup) : ((assign key value l).map Prod.fst).Nodup := by
  induction l with
  | nil => simp [assign]
  | cons e rest ih =>
    simp only [List.map_cons, List.nodup_cons] at nodup
    simp only [assign]
    split
    · next same => simpa [← same] using nodup
    · next other =>
      simp only [List.map_cons, List.nodup_cons, keys_assign, not_or]
      exact ⟨⟨other, nodup.1⟩, ih nodup.2⟩

structure ConfigParser (α : Type) where
  defaults : Options α
  sections : List (List Char × Options α)
  deriving DecidableEq, Repr

def ConfigParser.empty {α : Type} : ConfigParser α := ⟨[], []⟩

def defaultSection : List Char := "DEFAULT".toList

-- the exceptions raised on the paths `Config` takes, with the data their messages name;
-- `int()`, `float()` and `getboolean` raise the last three
inductive ConfigError where
  | noSection (sect : List Char)
  | invalidSectionName (sect : List Char)
  | duplicateSection (sect : List Char) (line : Option Nat)
  | duplicateOption (sect option : List Char) (line : Nat)
  | missingSectionHeader (line : Nat) (text : List Char)
  | parsing (lines : List (Nat × List Char))
  | invalidInterpolation (value : List Char) (position : Nat)
  | badReference (option rest : List Char)
  | strayPercent (option rest : List Char)
  | missingOption (option reference : List Char)
  | interpolationDepth (option : List Char)
  | notAnInt (text : List Char)
  | notAFloat (text : List Char)
  | notABoolean (text : List Char)
  deriving DecidableEq, Repr

section Interpolation

-- `value.replace("%%", "")`
def dropEscapes : List Char → List Char
  | '%' :: '%' :: rest => dropEscapes rest
  | c :: rest => c :: dropEscapes rest
  | [] => []

-- the name `_KEYCRE = %\(([^)]+)\)s` captures in a text that follows "%(", if it matches
def keyReference (s : List Char) : Option (List Char) :=
  match s.dropWhile (· != ')') with
  | ')' :: 's' :: _ => if s.takeWhile (· != ')') = [] then none else some (s.takeWhile (· != ')'))
  | _ => none

-- `_KEYCRE.sub("", text)`; `skip` counts the characters of the current match still to delete
def dropReferences : Nat → List Char → List Char
  | _, [] => []
  | skip + 1, _ :: cs => dropReferences skip cs
  | 0, '%' :: '(' :: cs =>
    match keyReference cs with
    | some name => dropReferences (name.length + 2) cs
    | none => '%' :: '(' :: dropReferences 0 cs
  | 0, c :: cs => c :: dropReferences 0 cs

-- `BasicInterpolation.before_set`: a "%" that is neither "%%" nor a reference is refused
def beforeSet (value : List Char) : Except ConfigError (List Char) :=
  let tmp := dropReferences 0 (dropEscapes value)
  if '%' ∈ tmp then .error (.invalidInterpolation value (tmp.indexOf '%')) else .ok value

-- the loop of `_interpolate_some` over `rest`: "%%" is a "%", "%(name)s" the value of
-- `optionxform(name)` (expanded by `nested` when it holds a "%"); `skip` as above
def expandReferences (lookup : List Char → Option (List Char)) (option : List Char)
    (nested : List Char → Except ConfigError (List Char)) :
    Nat → List Char → Except ConfigError (List Char)
  | _, [] => .ok []
  | skip + 1, _ :: cs => expandReferences lookup option nested skip cs
  | 0, '%' :: '%' :: cs => (['%'] ++ ·) <$> expandReferences lookup option nested 0 cs
  | 0, '%' :: rest@('(' :: cs) =>
    match keyReference cs with
    | none => .error (.badReference option ('%' :: rest))
    | some name =>
      match lookup (lowerText name) with
      | none => .error (.missingOption option (lowerText name))
      | some v => do
        let expanded ← if '%' ∈ v then nested v else pure v
        let after ← expandReferences lookup option nested (name.length + 2) cs
        pure (expanded ++ after)
  | 0, '%' :: cs => .error (.strayPercent option ('%' :: cs))
  | 0, c :: cs => ([c] ++ ·) <$> expandReferences lookup option nested 0 cs

-- `_interpolate_some` with `depth` levels left before `InterpolationDepthError`
-- (`MAX_INTERPOLATION_DEPTH = 10`)
def interpolateSome (lookup : List Char → Option (List Char)) (option : List Char) :
    Nat → List Char → Except ConfigError (List Char)
  | 0, _ => .error (.interpolationDepth option)
  | depth + 1, rest => expandReferences lookup option (interpolateSome lookup option depth) 0 rest

def beforeGet (lookup : List Char → Option (List Char)) (option value : List Char) :
    Except ConfigError (List Char) :=
  interpolateSome lookup option 10 value

end Interpolation

section Access

variable {α : Type}

def ConfigParser.hasSection (cp : ConfigParser α) (sect : List Char) : Bool :=
  sect ∈ cp.sections.map Prod.fst

def ConfigParser.hasOption (cp : ConfigParser α) (sect option : List Char) : Bool :=
  if sect.isEmpty || sect == defaultSection then lowerText option ∈ cp.defaults.map Prod.fst
  else
    match cp.sections.lookup sect with
    | none => false
    | some options =>
      lowerText option ∈ options.map Prod.fst || lowerText option ∈ cp.defaults.map Prod.fst

-- `_unify_values`: the section's options, then the defaults; `NoSectionError` as none
def ConfigParser.unify (cp : ConfigParser α) (sect : List Char) :
    Option (List Char → Option α) :=
  match cp.sections.lookup sect with
  | some options => some fun option => (options.lookup option).orElse fun _ => cp.defaults.lookup option
  | none => if sect == defaultSection then some cp.defaults.lookup else none

def ConfigParser.modifySection (cp : ConfigParser α) (name : List Char) (f : Options α → Options α) :
    ConfigParser α :=
  if name == defaultSection then { cp with defaults := f cp.defaults }
  else { cp with sections := cp.sections.map fun s => if s.1 = name then (s.1, f s.2) else s }

def ConfigParser.addSection (cp : ConfigParser α) (sect : List Char) :
    Except ConfigError (ConfigParser α) :=
  if sect == defaultSection then .error (.invalidSectionName sect)
  else if cp.hasSection sect then .error (.duplicateSection sect none)
  else .ok { cp with sections := cp.sections ++ [(sect, [])] }

end Access

section Strings

-- `ConfigParser.set`: the value checked by `before_set` unless it is empty, the option
-- name passed through `optionxform`
def ConfigParser.set (cp : ConfigParser (List Char)) (sect option value : List Char) :
    Except ConfigError (ConfigParser (List Char)) := do
  let value ← if value.isEmpty then pure value else beforeSet value
  if sect.isEmpty || sect == defaultSection then
    pure { cp with defaults := assign (lowerText option) value cp.defaults }
  else
    match cp.sections.lookup sect with
    | none => throw (.noSection sect)
    | some options =>
      pure { cp with sections := assign sect (assign (lowerText option) value options) cp.sections }

-- `cp.get(section, option)` with the fallback left to the caller: none when the section
-- or the option is missing
def ConfigParser.get? (cp : ConfigParser (List Char)) (sect option : List Char) :
    Except ConfigError (Option (List Char)) :=
  match cp.unify sect with
  | none => .ok none
  | some lookup =>
    match lookup (lowerText option) with
    | none => .ok none
    | some value => some <$> beforeGet lookup (lowerText option) value

def ConfigParser.get (cp : ConfigParser (List Char)) (sect option fallback : List Char) :
    Except ConfigError (List Char) :=
  (·.getD fallback) <$> cp.get? sect option

-- `_get_conv`: the option converted by `conv`, the fallback when it is missing
def ConfigParser.getConv {β : Type} (cp : ConfigParser (List Char))
    (conv : List Char → Except ConfigError β) (sect option : List Char) (fallback : β) :
    Except ConfigError β := do
  match ← cp.get? sect option with
  | none => pure fallback
  | some text => conv text

-- `items(section)`: the defaults updated by the section, each value interpolated
def ConfigParser.items (cp : ConfigParser (List Char)) (sect : List Char) :
    Except ConfigError (List (List Char × List Char)) :=
  let merged (options : Options (List Char)) :=
    options.foldl (fun d entry => assign entry.1 entry.2 d) cp.defaults
  let interpolated (d : Options (List Char)) :=
    d.mapM fun entry => (entry.1, ·) <$> beforeGet d.lookup entry.1 entry.2
  match cp.sections.lookup sect with
  | some options => interpolated (merged options)
  | none => if sect == defaultSection then interpolated cp.defaults else .error (.noSection sect)

end Strings

section Write

-- `str(value).replace("\n", "\n\t")`
def indentContinuations (value : List Char) : List Char :=
  value.flatMap fun c => if c = '\n' then ['\n', '\t'] else [c]

-- the lines `_write_section` writes: the header, "key = value" and an empty line
def sectionLines (name : List Char) (options : Options (List Char)) : List (List Char) :=
  ('[' :: name ++ [']']) ::
    options.map (fun entry => entry.1 ++ " = ".toList ++ indentContinuations entry.2) ++ [[]]

-- `write(fp)`: the DEFAULT section when it holds options, then every section
def ConfigParser.write (cp : ConfigParser (List Char)) : List Char :=
  let sections := (if cp.defaults.isEmpty then [] else [(defaultSection, cp.defaults)]) ++ cp.sections
  (sections.flatMap fun s => sectionLines s.1 s.2).flatMap (· ++ ['\n'])

end Write

section Read

-- universal newlines: "\r\n" and "\r" are read as "\n"
def translateNewlines : List Char → List Char
  | '\r' :: '\n' :: rest => '\n' :: translateNewlines rest
  | '\r' :: rest => '\n' :: translateNewlines rest
  | c :: rest => c :: translateNewlines rest
  | [] => []

-- the lines `for line in fp` yields, without their "\n"
def fileLines (text : List Char) : List (List Char) :=
  let pieces := (translateNewlines text).splitOn '\n'
  if pieces.getLast? = some [] then pieces.dropLast else pieces

-- `line.strip().startswith(prefix)` for a comment prefix
def isComment (line : List Char) : Bool :=
  match strip line with
  | '#' :: _ => true
  | ';' :: _ => true
  | _ => false

-- `SECTCRE.match(value)`: "[", then the longest non-empty header before a "]"
def sectionHeader : List Char → Option (List Char)
  | '[' :: rest =>
    match (rest.rdropWhile (· != ']')).dropLast with
    | [] => none
    | header => some header
  | _ => none

def isDelimiter (c : Char) : Bool := c == '=' || c == ':'

-- `_optcre.match(value)`: the option before the first delimiter without the spaces that
-- precede it, and the value after it without the spaces that follow
def optionLine (value : List Char) : Option (List Char × List Char) :=
  match value.dropWhile (! isDelimiter ·) with
  | [] => none
  | _ :: after =>
    some ((value.takeWhile (! isDelimiter ·)).rdropWhile isSpace, after.dropWhile isSpace)

-- the locals of `_read`: the dicts filled so far with each value a list of lines,
-- `sectname` (whose dict is `cursect`), `optname` (empty for None), `indent_level`,
-- `elements_added` and the bogus lines of the pending `ParsingError`
structure Reading where
  parser : ConfigParser (List (List Char))
  sectname : Option (List Char)
  optname : List Char
  indentLevel : Nat
  addedSections : List (List Char)
  addedOptions : List (List Char × List Char)
  errors : List (Nat × List Char)

def Reading.init : Reading := ⟨.empty, none, [], 0, [], [], []⟩

def Reading.modify (st : Reading)
    (f : Options (List (List Char)) → Options (List (List Char))) : Reading :=
  match st.sectname with
  | none => st
  | some name => { st with parser := st.parser.modifySection name f }

-- `cursect[optname].append(value)`
def Reading.extend (st : Reading) (value : List Char) : Reading :=
  st.modify fun options =>
    options.map fun entry => if entry.1 = st.optname then (entry.1, entry.2 ++ [value]) else entry

def Reading.enterSection (st : Reading) (lineno : Nat) (name : List Char) :
    Except ConfigError Reading :=
  if st.parser.hasSection name then
    if name ∈ st.addedSections then .error (.duplicateSection name (some lineno))
    else .ok { st with sectname := some name, optname := [], addedSections := st.addedSections ++ [name] }
  else if name == defaultSection then .ok { st with sectname := some name, optname := [] }
  else
    .ok { st with
      parser := { st.parser with sections := st.parser.sections ++ [(name, [])] }
      sectname := some name, optname := [], addedSections := st.addedSections ++ [name] }

def Reading.option (st : Reading) (lineno : Nat) (line sect value : List Char) :
    Except ConfigError Reading :=
  match optionLine value with
  | none => .ok { st with errors := st.errors ++ [(lineno, line)] }
  | some (name, optval) =>
    let st := if name.isEmpty then { st with errors := st.errors ++ [(lineno, line)] } else st
    let key := lowerText (name.rdropWhile isSpace)
    if (sect, key) ∈ st.addedOptions then .error (.duplicateOption sect key lineno)
    else
      .ok ({ st with optname := key, addedOptions := st.addedOptions ++ [(sect, key)] }.modify
        (assign key [strip optval]))

-- one pass of the loop of `_read`
def Reading.line (st : Reading) (lineno : Nat) (line : List Char) : Except ConfigError Reading :=
  let value := if isComment line then [] else strip line
  if value.isEmpty then
    if !isComment line && st.sectname.isSome && !st.optname.isEmpty then .ok (st.extend [])
    else .ok st
  else
    let indent := (line.takeWhile isSpace).length
    if st.sectname.isSome && !st.optname.isEmpty && st.indentLevel < indent then .ok (st.extend value)
    else
      let st := { st with indentLevel := indent }
      match sectionHeader value with
      | some name => st.enterSection lineno name
      | none =>
        match st.sectname with
        | none => .error (.missingSectionHeader lineno line)
        | some sect => st.option lineno line sect value

-- `'\n'.join(val).rstrip()`
def joinLines (lines : List (List Char)) : List Char :=
  (['\n'].intercalate lines).rdropWhile isSpace

def ConfigParser.joinMultilineValues (cp : ConfigParser (List (List Char))) :
    ConfigParser (List Char) :=
  ⟨cp.defaults.map (fun e => (e.1, joinLines e.2)),
    cp.sections.map fun s => (s.1, s.2.map fun e => (e.1, joinLines e.2))⟩

-- `_read` on a fresh parser: the lines numbered from 1, the values joined, then the
-- `ParsingError` if a line was bogus
def ConfigParser.read (text : List Char) : Except ConfigError (ConfigParser (List Char)) := do
  let st ← ((fileLines text).enumFrom 1).foldlM (fun st line => st.line line.1 line.2) Reading.init
  if st.errors.isEmpty then pure st.parser.joinMultilineValues else throw (.parsing st.errors)

end Read

section Numbers

def strInt : Int → List Char
  | .ofNat m => Nat.toDigits 10 m
  | .negSucc m => '-' :: Nat.toDigits 10 (m + 1)

-- `_PyUnicode_TransformDecimalAndSpaceToASCII`: ASCII kept, other whitespace written as a
-- space and decimal digits as ASCII ones; the first other character ends the text as "?"
def transformDecimalAndSpace : List Char → List Char
  | [] => []
  | c :: rest =>
    if c.toNat < 127 then c :: transformDecimalAndSpace rest
    else if isSpace c then ' ' :: transformDecimalAndSpace rest
    else match decimalCode c.toNat with
      | some d => Char.ofNat (48 + d) :: transformDecimalAndSpace rest
      | none => ['?']

-- `Py_ISSPACE`, the ASCII whitespace `PyLong_FromString` skips
def isAsciiSpace (c : Char) : Bool := c == ' ' || 9 ≤ c.toNat && c.toNat ≤ 13

-- the digits of `PyLong_FromString` after the first one, with single underscores between digits
def digitsFrom (acc : Nat) : List Char → Option Nat
  | [] => some acc
  | '_' :: c :: rest => if c.isDigit then digitsFrom (acc * 10 + (c.toNat - 48)) rest else none
  | c :: rest => if c.isDigit then digitsFrom (acc * 10 + (c.toNat - 48)) rest else none

def digitsValue : List Char → Option Nat
  | c :: rest => if c.isDigit then digitsFrom (c.toNat - 48) rest else none
  | [] => none

-- `int(text)`: the text made ASCII, then spaces around an optional sign and the digits
def pyInt (text : List Char) : Option Int :=
  match stripChars isAsciiSpace (transformDecimalAndSpace text) with
  | '-' :: digits => (digitsValue digits).map fun n => -(n : Int)
  | '+' :: digits => (digitsValue digits).map fun n => (n : Int)
  | digits => (digitsValue digits).map fun n => (n : Int)

def strBool (b : Bool) : List Char := if b then "True".toList else "False".toList

def booleanStates : List (List Char × Bool) :=
  [("1".toList, true), ("yes".toList, true), ("true".toList, true), ("on".toList, true),
    ("0".toList, false), ("no".toList, false), ("false".toList, false), ("off".toList, false)]

def convertToBoolean (value : List Char) : Except ConfigError Bool :=
  match booleanStates.lookup (lowerText value) with
  | some b => .ok b
  | none => .error (.notABoolean value)

def ConfigParser.getint (cp : ConfigParser (List Char)) (sect option : List Char)
    (fallback : Int) : Except ConfigError Int :=
  cp.getConv (fun text => match pyInt text with
    | some n => .ok n
    | none => .error (.notAnInt text)) sect option fallback

def ConfigParser.getboolean (cp : ConfigParser (List Char)) (sect option : List Char)
    (fallback : Bool) : Except ConfigError Bool :=
  cp.getConv convertToBoolean sect option fallback

end Numbers

end WhisperLinux.Python
