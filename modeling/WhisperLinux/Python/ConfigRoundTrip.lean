import WhisperLinux.Python.ConfigParser
import WhisperLinux.Python.Words
import Mathlib.Data.List.DropRight
import Mathlib.Data.List.Nodup

set_option autoImplicit false

namespace WhisperLinux.Python

-- what `write` must be given for `read` to give it back: values on one line, without "%"
-- and without the spaces `strip` removes; option names that `optionxform` keeps, that hold
-- no delimiter and that do not make their line a comment or a section header

structure Plain (s : List Char) : Prop where
  noNewline : '\n' ∉ s
  noReturn : '\r' ∉ s
  noPercent : '%' ∉ s
  front : s.dropWhile isSpace = s
  back : s.rdropWhile isSpace = s

instance (s : List Char) : Decidable (Plain s) :=
  decidable_of_iff ('\n' ∉ s ∧ '\r' ∉ s ∧ '%' ∉ s ∧ s.dropWhile isSpace = s ∧ s.rdropWhile isSpace = s)
    ⟨fun h => ⟨h.1, h.2.1, h.2.2.1, h.2.2.2.1, h.2.2.2.2⟩, fun h => ⟨h.1, h.2, h.3, h.4, h.5⟩⟩

structure Word (w : List Char) : Prop where
  plain : Plain w
  nonempty : w ≠ []
  lower : lowerText w = w
  noDelimiter : ∀ c ∈ w, isDelimiter c = false
  first : ∀ c, w.head? = some c → c ≠ '#' ∧ c ≠ ';' ∧ c ≠ '['

instance (w : List Char) : Decidable (Word w) :=
  decidable_of_iff (Plain w ∧ w ≠ [] ∧ lowerText w = w ∧ (∀ c ∈ w, isDelimiter c = false) ∧
      ∀ c ∈ w.head?, c ≠ '#' ∧ c ≠ ';' ∧ c ≠ '[')
    ⟨fun h => ⟨h.1, h.2.1, h.2.2.1, h.2.2.2.1, h.2.2.2.2⟩, fun h => ⟨h.1, h.2, h.3, h.4, h.5⟩⟩

structure SectionName (name : List Char) : Prop where
  nonempty : name ≠ []
  noNewline : '\n' ∉ name
  noReturn : '\r' ∉ name
  notDefault : name ≠ defaultSection

-- the options of one section (or of the defaults) `write` can hand to `read`
structure Writable (options : Options (List Char)) : Prop where
  nodup : (options.map Prod.fst).Nodup
  entries : ∀ e ∈ options, Word e.1 ∧ Plain e.2

structure ConfigParser.Writable (cp : ConfigParser (List Char)) : Prop where
  names : (cp.sections.map Prod.fst).Nodup
  sectionNames : ∀ s ∈ cp.sections, SectionName s.1
  defaults : Python.Writable cp.defaults
  options : ∀ s ∈ cp.sections, Python.Writable s.2

section Interpolation

variable (v : List Char) (noPercent : '%' ∉ v)
include noPercent

theorem dropEscapes_of_noPercent : dropEscapes v = v := by
  induction v with
  | nil => rfl
  | cons c rest ih =>
    simp only [List.mem_cons, not_or] at noPercent
    simp [dropEscapes, Ne.symm noPercent.1, ih noPercent.2]

theorem dropReferences_of_noPercent : dropReferences 0 v = v := by
  induction v with
  | nil => rfl
  | cons c rest ih =>
    simp only [List.mem_cons, not_or] at noPercent
    simp [dropReferences, Ne.symm noPercent.1, ih noPercent.2]

theorem beforeSet_of_noPercent : beforeSet v = .ok v := by
  simp [beforeSet, dropEscapes_of_noPercent v noPercent, dropReferences_of_noPercent v noPercent,
    noPercent]

theorem expandReferences_of_noPercent (lookup : List Char → Option (List Char)) (option : List Char)
    (nested : List Char → Except ConfigError (List Char)) :
    expandReferences lookup option nested 0 v = .ok v := by
  induction v with
  | nil => rfl
  | cons c rest ih =>
    simp only [List.mem_cons, not_or] at noPercent
    simp [expandReferences, Ne.symm noPercent.1, ih noPercent.2]

theorem beforeGet_of_noPercent (lookup : List Char → Option (List Char)) (option : List Char) :
    beforeGet lookup option v = .ok v :=
  expandReferences_of_noPercent v noPercent lookup option _

end Interpolation

section Lines

theorem translateNewlines_of_noReturn (s : List Char) (noReturn : '\r' ∉ s) :
    translateNewlines s = s := by
  induction s with
  | nil => rfl
  | cons c rest ih =>
    have hc : c ≠ '\r' := fun h => noReturn (h ▸ List.mem_cons_self c rest)
    rw [translateNewlines.eq_3 c rest (fun _ h => absurd h hc) (fun h => absurd h hc),
      ih (fun h => noReturn (List.mem_cons_of_mem c h))]

theorem splitOn_lines (ls : List (List Char)) (noNewline : ∀ l ∈ ls, '\n' ∉ l) :
    (ls.flatMap (· ++ ['\n'])).splitOn '\n' = ls ++ [[]] := by
  induction ls with
  | nil => rfl
  | cons l ls ih =>
    have single : l.splitOnP (· == '\n') = [l] :=
      List.splitOnP_eq_single _ _ fun c member => by
        simpa using fun (h : c = '\n') => noNewline l (List.mem_cons_self l ls) (h ▸ member)
    rw [List.flatMap_cons, List.append_assoc, List.singleton_append, List.splitOn,
      splitOnP_append_sep _ _ _ (by decide), single, ← List.splitOn,
      ih fun l' member => noNewline l' (List.mem_cons_of_mem l member)]
    rfl

theorem fileLines_lines (ls : List (List Char)) (noNewline : ∀ l ∈ ls, '\n' ∉ l)
    (noReturn : ∀ l ∈ ls, '\r' ∉ l) : fileLines (ls.flatMap (· ++ ['\n'])) = ls := by
  have clean : '\r' ∉ ls.flatMap (· ++ ['\n']) := by
    simp only [List.mem_flatMap, List.mem_append, List.mem_singleton, not_exists, not_and]
    intro l member
    exact fun h => h.elim (noReturn l member) (by decide)
  simp [fileLines, translateNewlines_of_noReturn _ clean, splitOn_lines ls noNewline]

end Lines

section Strip

theorem dropWhile_append_visible (w rest : List Char) (front : w.dropWhile isSpace = w)
    (nonempty : w ≠ []) : (w ++ rest).dropWhile isSpace = w ++ rest := by
  rw [List.dropWhile_append, front]
  simp [List.isEmpty_iff, nonempty]

theorem rdropWhile_append_visible (p : Char → Bool) (l r : List Char) (back : l.rdropWhile p = l) :
    (l ++ r).rdropWhile p = l ++ r.rdropWhile p := by
  by_cases gone : r.rdropWhile p = []
  · rw [gone, List.append_nil, rdropWhile_append_of_pos p l r (List.rdropWhile_eq_nil_iff.mp gone),
      back]
  · have kept : (r.reverse.dropWhile p).isEmpty = false := by
      simpa [List.rdropWhile, List.isEmpty_iff] using gone
    simp only [List.rdropWhile, List.reverse_append, List.dropWhile_append, kept]
    simp

theorem rdropWhile_append_of_back (p : Char → Bool) (l r : List Char) (back : r.rdropWhile p = r)
    (nonempty : r ≠ []) : (l ++ r).rdropWhile p = l ++ r := by
  have front : r.reverse.dropWhile p = r.reverse := by
    simpa [List.rdropWhile] using congrArg List.reverse back
  simp only [List.rdropWhile, List.reverse_append, List.dropWhile_append, front]
  simp [List.isEmpty_iff, nonempty]

theorem Plain.strip {v : List Char} (plain : Plain v) : strip v = v := by
  rw [Python.strip, stripChars, plain.front, plain.back]

theorem dropWhile_rdropWhile_space (v : List Char) (plain : Plain v) :
    ((' ' :: v).rdropWhile isSpace).dropWhile isSpace = v := by
  by_cases empty : v = []
  · subst empty; rfl
  · rw [← List.singleton_append, rdropWhile_append_of_back _ _ _ plain.back empty,
      List.singleton_append, List.dropWhile_cons_of_pos (by decide), plain.front]

end Strip

section Line

variable (st : Reading) (n : Nat)

@[simp] theorem strip_nil : strip [] = [] := rfl

@[simp] theorem isComment_nil : isComment [] = false := rfl

theorem isComment_of_strip (line : List Char) (c : Char) (rest : List Char)
    (stripped : strip line = c :: rest) (notHash : c ≠ '#') (notSemicolon : c ≠ ';') :
    isComment line = false := by
  rw [isComment, stripped]
  split <;> simp_all

theorem line_blank :
    st.line n [] = .ok (if st.sectname.isSome && !st.optname.isEmpty then st.extend [] else st) := by
  simp [Reading.line]
  split <;> rfl

theorem strip_header (name : List Char) :
    strip ('[' :: (name ++ [']'])) = '[' :: (name ++ [']']) := by
  rw [Python.strip, stripChars, List.dropWhile_cons_of_neg (by decide), ← List.cons_append,
    List.rdropWhile_concat_neg _ _ _ (by decide)]

theorem sectionHeader_text (name : List Char) (nonempty : name ≠ []) :
    sectionHeader ('[' :: (name ++ [']'])) = some name := by
  rw [sectionHeader, List.rdropWhile_concat_neg _ _ _ (by decide), List.dropLast_concat]
  cases name with
  | nil => contradiction
  | cons c cs => rfl

theorem line_header (name : List Char) (nonempty : name ≠ []) :
    st.line n ('[' :: (name ++ [']'])) = { st with indentLevel := 0 }.enterSection n name := by
  have notComment : isComment ('[' :: (name ++ [']'])) = false :=
    isComment_of_strip _ '[' _ (strip_header name) (by decide) (by decide)
  simp [Reading.line, notComment, strip_header, sectionHeader_text name nonempty,
    List.takeWhile_cons_of_neg (show ¬isSpace '[' = true by decide)]

theorem strip_optionText (key v : List Char) (word : Word key) :
    strip (key ++ ' ' :: '=' :: ' ' :: v) = key ++ ' ' :: '=' :: (' ' :: v).rdropWhile isSpace := by
  have head : (key ++ [' ', '=']).rdropWhile isSpace = key ++ [' ', '='] := by
    rw [show key ++ [' ', '='] = (key ++ [' ']) ++ ['='] by simp,
      List.rdropWhile_concat_neg _ _ _ (by decide)]
  rw [Python.strip, stripChars, dropWhile_append_visible _ _ word.plain.front word.nonempty,
    show key ++ ' ' :: '=' :: ' ' :: v = (key ++ [' ', '=']) ++ ' ' :: v by simp,
    rdropWhile_append_visible _ _ _ head]
  simp

theorem optionLine_text (key rest : List Char) (word : Word key) :
    optionLine (key ++ ' ' :: '=' :: rest) = some (key, rest.dropWhile isSpace) := by
  have free : ∀ c ∈ key, (!isDelimiter c) = true := by simpa using word.noDelimiter
  have named : (key ++ [' ']).rdropWhile isSpace = key := by
    rw [List.rdropWhile_concat_pos _ _ _ (by decide), word.plain.back]
  have space : isDelimiter ' ' = false := by decide
  have equals : isDelimiter '=' = true := by decide
  simp [optionLine, List.dropWhile_append_of_pos free, List.takeWhile_append_of_pos free, space,
    equals, named]

theorem sectionHeader_of_ne (c : Char) (rest : List Char) (notBracket : c ≠ '[') :
    sectionHeader (c :: rest) = none := by
  unfold sectionHeader
  split <;> simp_all

theorem line_option (sect key v : List Char) (cur : st.sectname = some sect) (word : Word key) :
    st.line n (key ++ ' ' :: '=' :: ' ' :: v) = { st with indentLevel := 0 }.option n
      (key ++ ' ' :: '=' :: ' ' :: v) sect (key ++ ' ' :: '=' :: (' ' :: v).rdropWhile isSpace) := by
  obtain ⟨c, ks, rfl⟩ := List.exists_cons_of_ne_nil word.nonempty
  have visible : isSpace c = false := by
    simpa using List.dropWhile_eq_self_iff.mp word.plain.front (by simp)
  obtain ⟨notHash, notSemicolon, notBracket⟩ := word.first c rfl
  have stripped := strip_optionText (c :: ks) v word
  simp only [List.cons_append] at stripped
  have notComment := isComment_of_strip _ c _ stripped notHash notSemicolon
  simp [Reading.line, stripped, notComment, visible, cur, sectionHeader_of_ne c _ notBracket]

theorem option_text (line sect key v : List Char) (word : Word key) (plain : Plain v)
    (fresh : (sect, key) ∉ st.addedOptions) :
    st.option n line sect (key ++ ' ' :: '=' :: (' ' :: v).rdropWhile isSpace) =
      .ok ({ st with optname := key, addedOptions := st.addedOptions ++ [(sect, key)] }.modify
        (assign key [v])) := by
  simp [Reading.option, optionLine_text _ _ word, dropWhile_rdropWhile_space v plain,
    word.nonempty, word.plain.back, word.lower, fresh, plain.strip]

end Line

section Joined

variable {α : Type}

def ConfigParser.optionsOf (cp : ConfigParser α) (name : List Char) : Options α :=
  if name == defaultSection then cp.defaults else (cp.sections.lookup name).getD []

theorem assign_of_not_mem {κ β : Type} [DecidableEq κ] (key : κ) (value : β) (l : List (κ × β))
    (fresh : key ∉ l.map Prod.fst) : assign key value l = l ++ [(key, value)] := by
  induction l with
  | nil => rfl
  | cons e rest ih =>
    simp only [List.map_cons, List.mem_cons, not_or] at fresh
    simp [assign, Ne.symm fresh.1, ih fresh.2]

theorem map_assign {κ β γ : Type} [DecidableEq κ] (f : β → γ) (key : κ) (value : β)
    (l : List (κ × β)) :
    (assign key value l).map (fun e => (e.1, f e.2)) = assign key (f value) (l.map fun e => (e.1, f e.2)) := by
  induction l with
  | nil => rfl
  | cons e rest ih =>
    simp only [assign, List.map_cons]
    split <;> simp [ih]

theorem lookup_cons_eq {β : Type} (a k : List Char) (b : β) (l : List (List Char × β)) :
    ((k, b) :: l).lookup a = if a = k then some b else l.lookup a := by
  by_cases h : a = k
  · simp [List.lookup_cons, h]
  · simp [List.lookup_cons, beq_eq_false_iff_ne.mpr h, h]

theorem lookup_of_mem_keys {β : Type} (a : List Char) (l : List (List Char × β))
    (member : a ∈ l.map Prod.fst) : ∃ b, l.lookup a = some b := by
  induction l with
  | nil => contradiction
  | cons e rest ih =>
    rw [lookup_cons_eq]
    split
    · exact ⟨_, rfl⟩
    · next other => exact ih ((List.mem_cons.mp member).resolve_left other)

theorem lookup_of_not_mem_keys {β : Type} (a : List Char) (l : List (List Char × β))
    (absent : a ∉ l.map Prod.fst) : l.lookup a = none := by
  induction l with
  | nil => rfl
  | cons e rest ih =>
    obtain ⟨k, v⟩ := e
    simp only [List.map_cons, List.mem_cons, not_or] at absent
    rw [lookup_cons_eq, if_neg absent.1, ih absent.2]

theorem lookup_map_modify (secs : List (List Char × Options α)) (name name' : List Char)
    (f : Options α → Options α) :
    (secs.map fun s => if s.1 = name then (s.1, f s.2) else s).lookup name' =
      if name' = name then (secs.lookup name).map f else secs.lookup name' := by
  induction secs with
  | nil => split <;> rfl
  | cons s rest ih =>
    obtain ⟨key, opts⟩ := s
    simp only [List.map_cons]
    split
    · next same => subst same; simp only [lookup_cons_eq, ih]; split <;> simp_all
    · next other => simp only [lookup_cons_eq, ih]; split_ifs <;> simp_all

theorem optionsOf_modifySection (cp : ConfigParser α) (name name' : List Char)
    (f : Options α → Options α) (exists_ : name = defaultSection ∨ name ∈ cp.sections.map Prod.fst) :
    (cp.modifySection name f).optionsOf name' =
      if name' = name then f (cp.optionsOf name) else cp.optionsOf name' := by
  unfold ConfigParser.modifySection ConfigParser.optionsOf
  by_cases default : name = defaultSection
  · subst default
    by_cases same : name' = defaultSection <;> simp [same]
  · obtain ⟨opts, found⟩ := lookup_of_mem_keys name cp.sections (exists_.resolve_left default)
    by_cases same : name' = name
    · subst same; simp [default, lookup_map_modify, found]
    · simp [default, same, lookup_map_modify]

theorem modifySection_names (cp : ConfigParser α) (name : List Char) (f : Options α → Options α) :
    (cp.modifySection name f).sections.map Prod.fst = cp.sections.map Prod.fst := by
  unfold ConfigParser.modifySection
  split
  · rfl
  · simp only [List.map_map]
    exact List.map_congr_left fun s _ => by dsimp only [Function.comp]; split <;> rfl

theorem modifySection_id (cp : ConfigParser α) (name : List Char) :
    cp.modifySection name (fun options => options) = cp := by
  unfold ConfigParser.modifySection
  split
  · rfl
  · simp

theorem intercalate_cons_cons (sep a b : List Char) (rest : List (List Char)) :
    sep.intercalate (a :: b :: rest) = a ++ sep ++ sep.intercalate (b :: rest) := by
  simp [List.intercalate, List.intersperse_cons_cons]

theorem intercalate_append_nil (sep : List Char) (l : List (List Char)) (nonempty : l ≠ []) :
    sep.intercalate (l ++ [[]]) = sep.intercalate l ++ sep := by
  induction l with
  | nil => contradiction
  | cons a rest ih =>
    cases rest with
    | nil => simp [List.intercalate]
    | cons b rest =>
      simp only [List.cons_append] at ih ⊢
      rw [intercalate_cons_cons, intercalate_cons_cons, ih (List.cons_ne_nil _ _)]
      simp

theorem joinLines_append_nil (l : List (List Char)) : joinLines (l ++ [[]]) = joinLines l := by
  by_cases empty : l = []
  · subst empty; rfl
  · rw [joinLines, intercalate_append_nil _ _ empty, List.rdropWhile_concat_pos _ _ _ (by decide)]
    rfl

theorem joinLines_single (v : List Char) (plain : Plain v) : joinLines [v] = v := by
  simp [joinLines, List.intercalate, plain.back]

theorem joinMultilineValues_modifySection (p : ConfigParser (List (List Char))) (name : List Char)
    (f : Options (List (List Char)) → Options (List (List Char)))
    (g : Options (List Char) → Options (List Char))
    (commute : ∀ opts, (f opts).map (fun e => (e.1, joinLines e.2)) =
      g (opts.map fun e => (e.1, joinLines e.2))) :
    (p.modifySection name f).joinMultilineValues = p.joinMultilineValues.modifySection name g := by
  unfold ConfigParser.modifySection ConfigParser.joinMultilineValues
  split
  · simp [commute]
  · simp only [List.map_map, ConfigParser.mk.injEq, true_and]
    exact List.map_congr_left fun s _ => by dsimp only [Function.comp]; split <;> simp [commute]

theorem joinMultilineValues_names (p : ConfigParser (List (List Char))) :
    p.joinMultilineValues.sections.map Prod.fst = p.sections.map Prod.fst := by
  simp [ConfigParser.joinMultilineValues, Function.comp_def]

theorem lookup_append_fresh {β : Type} (l : List (List Char × β)) (name name' : List Char) (b : β)
    (fresh : name ∉ l.map Prod.fst) :
    (l ++ [(name, b)]).lookup name' = if name' = name then some b else l.lookup name' := by
  induction l with
  | nil => simp [lookup_cons_eq]
  | cons e rest ih =>
    obtain ⟨k, v⟩ := e
    have other : name ≠ k := fun h => fresh (h ▸ List.mem_cons_self _ _)
    simp only [List.cons_append, lookup_cons_eq,
      ih fun h => fresh (List.mem_cons_of_mem _ h)]
    by_cases here : name' = k
    · have notNew : name' ≠ name := fun h => other (h ▸ here)
      rw [if_pos here, if_neg notNew, if_pos here]
    · rw [if_neg here, if_neg here]

end Joined

section Reads

-- a state of `_read` that has read the lines of `cp` and found no bogus line
structure Reading.Reads (st : Reading) (cp : ConfigParser (List Char)) : Prop where
  joined : st.parser.joinMultilineValues = cp
  sections : st.addedSections = cp.sections.map Prod.fst
  options : ∀ name key, (name, key) ∈ st.addedOptions ↔ key ∈ (cp.optionsOf name).map Prod.fst
  current : ∀ name, st.sectname = some name →
    name = defaultSection ∨ name ∈ cp.sections.map Prod.fst
  errors : st.errors = []

theorem Reading.modify_of_some (st : Reading) (name : List Char) (cur : st.sectname = some name)
    (f : Options (List (List Char)) → Options (List (List Char))) :
    st.modify f = { st with parser := st.parser.modifySection name f } := by
  simp [Reading.modify, cur]

variable {st : Reading} {cp : ConfigParser (List Char)} (n : Nat)

theorem Reading.Reads.blank (reads : st.Reads cp) :
    ∃ st', st.line n [] = .ok st' ∧ st'.Reads cp ∧ st'.sectname = st.sectname := by
  rw [line_blank]
  split
  · next active =>
    obtain ⟨name, cur⟩ := Option.isSome_iff_exists.mp (by simp at active; exact active.1)
    refine ⟨_, rfl, ?_, by simp [Reading.extend, Reading.modify_of_some st name cur]⟩
    obtain ⟨joined, sections, options, current, errors⟩ := reads
    rw [Reading.extend, Reading.modify_of_some st name cur]
    refine ⟨?_, sections, options, current, errors⟩
    rw [joinMultilineValues_modifySection _ _ _ (fun options => options), modifySection_id, joined]
    intro opts
    simp only [List.map_map]
    exact List.map_congr_left fun e _ => by
      dsimp only [Function.comp]; split <;> simp [joinLines_append_nil]
  · exact ⟨st, rfl, reads, rfl⟩

theorem Reading.Reads.header (reads : st.Reads cp) (name : List Char) (sname : SectionName name)
    (fresh : name ∉ cp.sections.map Prod.fst) :
    ∃ st', st.line n ('[' :: (name ++ [']'])) = .ok st' ∧
      st'.Reads ⟨cp.defaults, cp.sections ++ [(name, [])]⟩ ∧ st'.sectname = some name := by
  obtain ⟨joined, sections, options, current, errors⟩ := reads
  subst joined
  have absent : st.parser.hasSection name = false := by
    simpa [ConfigParser.hasSection, ← joinMultilineValues_names] using fresh
  have notDefault : (name == defaultSection) = false := by simpa using sname.notDefault
  rw [line_header st n name sname.nonempty, Reading.enterSection]
  simp only [absent, notDefault, Bool.false_eq_true, if_false]
  refine ⟨_, rfl, ⟨?_, by simp [sections, joinMultilineValues_names], ?_, ?_, errors⟩, rfl⟩
  · simp [ConfigParser.joinMultilineValues]
  · intro name' key
    rw [options]
    simp only [ConfigParser.optionsOf, lookup_append_fresh _ _ _ _ fresh]
    by_cases same : name' = name
    · subst same
      simp [notDefault, lookup_of_not_mem_keys _ _ fresh]
    · simp [same]
  · intro name' cur
    cases cur
    simp

theorem Reading.Reads.defaultHeader (reads : st.Reads cp)
    (noDefault : defaultSection ∉ cp.sections.map Prod.fst) :
    ∃ st', st.line n ('[' :: (defaultSection ++ [']'])) = .ok st' ∧ st'.Reads cp ∧
      st'.sectname = some defaultSection := by
  obtain ⟨joined, sections, options, current, errors⟩ := reads
  subst joined
  have absent : st.parser.hasSection defaultSection = false := by
    simpa [ConfigParser.hasSection, ← joinMultilineValues_names] using noDefault
  rw [line_header st n _ (by decide), Reading.enterSection]
  simp only [absent, Bool.false_eq_true, if_false, beq_self_eq_true, if_true]
  exact ⟨_, rfl, ⟨rfl, sections, options, fun _ cur => by cases cur; simp, errors⟩, rfl⟩

theorem Reading.Reads.option (reads : st.Reads cp) (sect key v : List Char)
    (cur : st.sectname = some sect) (word : Word key) (plain : Plain v)
    (fresh : key ∉ (cp.optionsOf sect).map Prod.fst) :
    ∃ st', st.line n (key ++ ' ' :: '=' :: ' ' :: v) = .ok st' ∧
      st'.Reads (cp.modifySection sect (assign key v)) ∧ st'.sectname = some sect := by
  obtain ⟨joined, sections, options, current, errors⟩ := reads
  subst joined
  have unseen : (sect, key) ∉ st.addedOptions := by rwa [options]
  rw [line_option st n sect key v cur word, option_text { st with indentLevel := 0 } n _ sect key v word plain unseen]
  simp only [Reading.modify, cur]
  refine ⟨_, rfl, ⟨?_, by simp [sections, modifySection_names], ?_, ?_, errors⟩, rfl⟩
  · exact joinMultilineValues_modifySection _ _ _ _ fun opts => by
      rw [map_assign, joinLines_single v plain]
  · intro name key'
    rw [optionsOf_modifySection _ _ _ _ (current sect cur)]
    simp only [List.mem_append, List.mem_singleton, Prod.mk.injEq, options]
    split
    · next same => subst same; rw [keys_assign]; tauto
    · next other => simp [other]
  · intro name cur'
    cases cur'
    simpa [modifySection_names] using current sect cur

end Reads

section Run

-- one pass of the loop of `_read`, as `read` folds it over the numbered lines
def readStep (st : Reading) (line : Nat × List Char) : Except ConfigError Reading :=
  st.line line.1 line.2

theorem indentContinuations_of_noNewline (v : List Char) (noNewline : '\n' ∉ v) :
    indentContinuations v = v := by
  induction v with
  | nil => rfl
  | cons c rest ih =>
    simp only [List.mem_cons, not_or] at noNewline
    simp [indentContinuations, Ne.symm noNewline.1] at ih ⊢
    exact ih noNewline.2

theorem optionText_eq (key v : List Char) (plain : Plain v) :
    key ++ " = ".toList ++ indentContinuations v = key ++ ' ' :: '=' :: ' ' :: v := by
  rw [indentContinuations_of_noNewline v plain.noNewline]
  simp [show " = ".toList = [' ', '=', ' '] from rfl]

theorem Writable.append_cons {o : Options (List Char)} {e : List Char × List Char}
    {rest : Options (List Char)} (valid : Writable (o ++ e :: rest)) :
    Writable ((o ++ [e]) ++ rest) := by
  simpa using valid

-- the option lines of a section read in order; `place o` is the parser once the section
-- holds `o`
theorem Reading.Reads.optionLines (place : Options (List Char) → ConfigParser (List Char))
    (sect : List Char)
    (placeAppend : ∀ o key v, key ∉ o.map Prod.fst →
      (place o).modifySection sect (assign key v) = place (o ++ [(key, v)]))
    (placeOptions : ∀ o, (place o).optionsOf sect = o) (opts : Options (List Char)) :
    ∀ (done : Options (List Char)) (st : Reading) (k : Nat), Writable (done ++ opts) →
      st.Reads (place done) → st.sectname = some sect →
      ∃ st', ((opts.map fun e => e.1 ++ " = ".toList ++ indentContinuations e.2).enumFrom k).foldlM
        readStep st = .ok st' ∧ st'.Reads (place (done ++ opts)) ∧ st'.sectname = some sect := by
  induction opts with
  | nil => exact fun done st k _ reads cur => ⟨st, rfl, by simpa using reads, cur⟩
  | cons e rest ih =>
    intro done st k valid reads cur
    obtain ⟨word, plain⟩ := valid.entries e (by simp)
    have fresh : e.1 ∉ ((place done).optionsOf sect).map Prod.fst := by
      have nodup := valid.nodup
      simp only [List.map_append, List.map_cons, List.nodup_append] at nodup
      rw [placeOptions]
      exact fun member => nodup.2.2 member (List.mem_cons_self _ _)
    obtain ⟨st₁, first, reads₁, cur₁⟩ := reads.option k sect e.1 e.2 cur word plain fresh
    rw [placeAppend _ _ _ (by rwa [placeOptions] at fresh)] at reads₁
    obtain ⟨st', fold, reads', cur'⟩ := ih (done ++ [e]) st₁ (k + 1) valid.append_cons reads₁ cur₁
    refine ⟨st', ?_, by simpa using reads', cur'⟩
    rw [List.map_cons, List.enumFrom_cons, List.foldlM_cons, readStep, optionText_eq _ _ plain, first]
    exact fold

theorem map_modify_of_absent {α : Type} (secs : List (List Char × Options α)) (name : List Char)
    (f : Options α → Options α) (absent : ∀ s ∈ secs, s.1 ≠ name) :
    (secs.map fun s => if s.1 = name then (s.1, f s.2) else s) = secs := by
  conv_rhs => rw [← List.map_id secs]
  exact List.map_congr_left fun s member => if_neg (absent s member)

theorem sectionLines_eq (name : List Char) (options : Options (List Char)) :
    sectionLines name options = ('[' :: (name ++ [']'])) ::
      (options.map (fun e => e.1 ++ " = ".toList ++ indentContinuations e.2) ++ [[]]) := by
  simp [sectionLines]

theorem Reading.Reads.section_ {st : Reading} {defaults : Options (List Char)}
    {secs : List (List Char × Options (List Char))} (reads : st.Reads ⟨defaults, secs⟩)
    (name : List Char) (options : Options (List Char)) (sname : SectionName name)
    (fresh : name ∉ secs.map Prod.fst) (valid : Writable options) (k : Nat) :
    ∃ st', ((sectionLines name options).enumFrom k).foldlM readStep st = .ok st' ∧
      st'.Reads ⟨defaults, secs ++ [(name, options)]⟩ := by
  have notDefault : (name == defaultSection) = false := by simpa using sname.notDefault
  have others : ∀ s ∈ secs, s.1 ≠ name := fun s member same =>
    fresh (same ▸ List.mem_map_of_mem Prod.fst member)
  obtain ⟨st₁, header, reads₁, cur₁⟩ := reads.header k name sname fresh
  obtain ⟨st₂, body, reads₂, cur₂⟩ := Reading.Reads.optionLines
    (fun o => ⟨defaults, secs ++ [(name, o)]⟩) name
    (fun o key v absent => by
      simp [ConfigParser.modifySection, notDefault, assign_of_not_mem _ _ _ absent,
        map_modify_of_absent secs name _ others])
    (fun o => by simp [ConfigParser.optionsOf, notDefault, lookup_append_fresh _ _ _ _ fresh])
    options [] st₁ (k + 1) (by simpa using valid) (by simpa using reads₁) cur₁
  obtain ⟨st₃, blank, reads₃, -⟩ := reads₂.blank (k + 1 + options.length)
  refine ⟨st₃, ?_, by simpa using reads₃⟩
  rw [sectionLines_eq, List.enumFrom_cons, List.foldlM_cons, readStep, header]
  show List.foldlM readStep st₁ _ = _
  rw [List.enumFrom_append, List.foldlM_append, body]
  show List.foldlM readStep st₂ _ = _
  simp [readStep, blank]

theorem Reading.Reads.defaultSection_ {st : Reading} {secs : List (List Char × Options (List Char))}
    (reads : st.Reads ⟨[], secs⟩) (noDefault : defaultSection ∉ secs.map Prod.fst)
    (options : Options (List Char)) (valid : Writable options) (k : Nat) :
    ∃ st', ((sectionLines defaultSection options).enumFrom k).foldlM readStep st = .ok st' ∧
      st'.Reads ⟨options, secs⟩ := by
  obtain ⟨st₁, header, reads₁, cur₁⟩ := reads.defaultHeader k noDefault
  obtain ⟨st₂, body, reads₂, -⟩ := Reading.Reads.optionLines (fun o => ⟨o, secs⟩) defaultSection
    (fun o key v absent => by simp [ConfigParser.modifySection, assign_of_not_mem _ _ _ absent])
    (fun o => by simp [ConfigParser.optionsOf]) options [] st₁ (k + 1) (by simpa using valid)
    reads₁ cur₁
  obtain ⟨st₃, blank, reads₃, -⟩ := reads₂.blank (k + 1 + options.length)
  refine ⟨st₃, ?_, by simpa using reads₃⟩
  rw [sectionLines_eq, List.enumFrom_cons, List.foldlM_cons, readStep, header]
  show List.foldlM readStep st₁ _ = _
  rw [List.enumFrom_append, List.foldlM_append, body]
  show List.foldlM readStep st₂ _ = _
  simp [readStep, blank]

theorem Reading.Reads.sections_ (defaults : Options (List Char))
    (secs : List (List Char × Options (List Char))) :
    ∀ (pre : List (List Char × Options (List Char))) (st : Reading) (k : Nat),
      st.Reads ⟨defaults, pre⟩ → ((pre ++ secs).map Prod.fst).Nodup →
      (∀ s ∈ secs, SectionName s.1 ∧ Writable s.2) →
      ∃ st', ((secs.flatMap fun s => sectionLines s.1 s.2).enumFrom k).foldlM readStep st =
        .ok st' ∧ st'.Reads ⟨defaults, pre ++ secs⟩ := by
  induction secs with
  | nil => exact fun pre st k reads _ _ => ⟨st, rfl, by simpa using reads⟩
  | cons s rest ih =>
    intro pre st k reads nodup valid
    have fresh : s.1 ∉ pre.map Prod.fst := by
      simp only [List.map_append, List.map_cons, List.nodup_append] at nodup
      exact fun member => nodup.2.2 member (List.mem_cons_self _ _)
    obtain ⟨sname, writable⟩ := valid s (List.mem_cons_self _ _)
    obtain ⟨st₁, first, reads₁⟩ := reads.section_ s.1 s.2 sname fresh writable k
    obtain ⟨st', fold, reads'⟩ := ih (pre ++ [s]) st₁ _ reads₁ (by simpa using nodup)
      fun s' member => valid s' (List.mem_cons_of_mem s member)
    refine ⟨st', ?_, by simpa using reads'⟩
    rw [List.flatMap_cons, List.enumFrom_append, List.foldlM_append, first]
    exact fold

theorem Reading.init_reads : Reading.init.Reads ⟨[], []⟩ where
  joined := rfl
  sections := rfl
  options name key := by simp [Reading.init, ConfigParser.optionsOf]
  current name cur := by cases cur
  errors := rfl

theorem sectionLines_clean (name : List Char) (options : Options (List Char))
    (noNewline : '\n' ∉ name) (noReturn : '\r' ∉ name) (valid : ∀ e ∈ options, Word e.1 ∧ Plain e.2) :
    ∀ l ∈ sectionLines name options, '\n' ∉ l ∧ '\r' ∉ l := by
  intro l member
  simp only [sectionLines_eq, List.mem_cons, List.mem_append, List.mem_map,
    List.mem_singleton] at member
  rcases member with rfl | ⟨e, entry, rfl⟩ | rfl | member
  · simp [noNewline, noReturn]
  · obtain ⟨word, plain⟩ := valid e entry
    rw [optionText_eq _ _ plain]
    simp [word.plain.noNewline, word.plain.noReturn, plain.noNewline, plain.noReturn]
  · simp
  · simp at member

-- `read` gives back what `write` wrote
theorem read_write (cp : ConfigParser (List Char)) (writable : cp.Writable) :
    ConfigParser.read cp.write = .ok cp := by
  obtain ⟨defaults, secs⟩ := cp
  let front := if defaults.isEmpty then [] else [(defaultSection, defaults)]
  have first : ∃ st₁, ((front.flatMap fun s => sectionLines s.1 s.2).enumFrom 1).foldlM readStep
      Reading.init = .ok st₁ ∧ st₁.Reads ⟨defaults, []⟩ := by
    cases empty : defaults.isEmpty
    · simpa [front, empty] using
        Reading.init_reads.defaultSection_ (by simp) defaults writable.defaults 1
    · exact ⟨Reading.init, by simp [front, empty]; rfl,
        by simpa [List.isEmpty_iff.mp empty] using Reading.init_reads⟩
  obtain ⟨st₁, first, reads₁⟩ := first
  obtain ⟨st, rest, reads⟩ := Reading.Reads.sections_ defaults secs [] st₁ _ reads₁
    (by simpa using writable.names) fun s member =>
      ⟨writable.sectionNames s member, writable.options s member⟩
  have clean : ∀ l ∈ (front ++ secs).flatMap (fun s => sectionLines s.1 s.2), '\n' ∉ l ∧ '\r' ∉ l := by
    simp only [List.mem_flatMap, List.mem_append]
    rintro l ⟨s, member | member, line⟩
    · simp only [front] at member
      split at member
      · simp at member
      · simp only [List.mem_singleton] at member
        subst member
        exact sectionLines_clean _ _ (show '\n' ∉ defaultSection by decide)
          (show '\r' ∉ defaultSection by decide) writable.defaults.entries l line
    · exact sectionLines_clean _ _ (writable.sectionNames s member).noNewline
        (writable.sectionNames s member).noReturn (writable.options s member).entries l line
  simp only [ConfigParser.read, ConfigParser.write]
  rw [fileLines_lines _ (fun l member => (clean l member).1) (fun l member => (clean l member).2)]
  change (List.foldlM readStep Reading.init _ >>= _) = _
  rw [List.flatMap_append, List.enumFrom_append, List.foldlM_append, first]
  change (List.foldlM readStep st₁ _ >>= _) = _
  rw [rest]
  simp only [bind, Except.bind, reads.errors, List.isEmpty_nil, if_true, reads.joined]
  simp [pure, Except.pure]

end Run

end WhisperLinux.Python
