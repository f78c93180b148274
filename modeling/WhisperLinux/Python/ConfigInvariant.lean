import WhisperLinux.Python.ConfigRoundTrip
import WhisperLinux.Python.Lower

set_option autoImplicit false

namespace WhisperLinux.Python

-- What `_read` guarantees of every parser it returns, whatever the text: section names unique,
-- non-empty and never "DEFAULT"; in each dict the option names unique, non-empty, in
-- `optionxform`'s lower case and free of the delimiters "=" and ":". The loop of `_read` keeps
-- this as long as no line was bogus, and a bogus line makes `read` fail.

section WellFormed

-- a name `_read` stores an option under
structure OptionName (k : List Char) : Prop where
  nonempty : k ≠ []
  lower : lowerText k = k
  noDelimiter : ∀ c ∈ k, isDelimiter c = false

instance (k : List Char) : Decidable (OptionName k) :=
  decidable_of_iff (k ≠ [] ∧ lowerText k = k ∧ ∀ c ∈ k, isDelimiter c = false)
    ⟨fun h => ⟨h.1, h.2.1, h.2.2⟩, fun h => ⟨h.1, h.2, h.3⟩⟩

structure KeysWellFormed (keys : List (List Char)) : Prop where
  nodup : keys.Nodup
  names : ∀ k ∈ keys, OptionName k

instance (keys : List (List Char)) : Decidable (KeysWellFormed keys) :=
  decidable_of_iff (keys.Nodup ∧ ∀ k ∈ keys, OptionName k)
    ⟨fun h => ⟨h.1, h.2⟩, fun h => ⟨h.1, h.2⟩⟩

variable {α : Type}

structure ConfigParser.WellFormed (cp : ConfigParser α) : Prop where
  names : (cp.sections.map Prod.fst).Nodup
  notDefault : defaultSection ∉ cp.sections.map Prod.fst
  nonempty : [] ∉ cp.sections.map Prod.fst
  defaults : KeysWellFormed (cp.defaults.map Prod.fst)
  options : ∀ s ∈ cp.sections, KeysWellFormed (s.2.map Prod.fst)

instance (cp : ConfigParser α) : Decidable cp.WellFormed :=
  decidable_of_iff ((cp.sections.map Prod.fst).Nodup ∧ defaultSection ∉ cp.sections.map Prod.fst ∧
      [] ∉ cp.sections.map Prod.fst ∧ KeysWellFormed (cp.defaults.map Prod.fst) ∧
      ∀ s ∈ cp.sections, KeysWellFormed (s.2.map Prod.fst))
    ⟨fun h => ⟨h.1, h.2.1, h.2.2.1, h.2.2.2.1, h.2.2.2.2⟩,
      fun h => ⟨h.names, h.notDefault, h.nonempty, h.defaults, h.options⟩⟩

theorem ConfigParser.empty_wellFormed : (ConfigParser.empty : ConfigParser α).WellFormed :=
  ⟨List.nodup_nil, List.not_mem_nil _, List.not_mem_nil _, ⟨List.nodup_nil, fun _ h => absurd h (List.not_mem_nil _)⟩,
    fun _ h => absurd h (List.not_mem_nil _)⟩

theorem ConfigParser.WellFormed.modifySection {cp : ConfigParser α} (wf : cp.WellFormed)
    (name : List Char) (f : Options α → Options α)
    (keep : ∀ o : Options α, KeysWellFormed (o.map Prod.fst) → KeysWellFormed ((f o).map Prod.fst)) :
    (cp.modifySection name f).WellFormed := by
  have names := modifySection_names cp name f
  refine ⟨names ▸ wf.names, names ▸ wf.notDefault, names ▸ wf.nonempty, ?defaults, ?options⟩
  case defaults =>
    unfold ConfigParser.modifySection
    split
    · exact keep _ wf.defaults
    · exact wf.defaults
  case options =>
    unfold ConfigParser.modifySection
    split
    · exact wf.options
    · simp only [List.mem_map]
      rintro _ ⟨s, member, rfl⟩
      split
      · exact keep _ (wf.options s member)
      · exact wf.options s member

theorem KeysWellFormed.assign {β : Type} {o : Options β} (wf : KeysWellFormed (o.map Prod.fst))
    (key : List Char) (value : β) (named : OptionName key) :
    KeysWellFormed ((Python.assign key value o).map Prod.fst) :=
  ⟨nodup_assign key value o wf.nodup, fun k member =>
    ((keys_assign key value o k).mp member).elim (fun same => same ▸ named) (wf.names k)⟩

theorem joinMultilineValues_wellFormed (p : ConfigParser (List (List Char))) (wf : p.WellFormed) :
    p.joinMultilineValues.WellFormed := by
  have keys (o : Options (List (List Char))) :
      (o.map fun e => (e.1, joinLines e.2)).map Prod.fst = o.map Prod.fst := by
    simp [Function.comp_def]
  have names := joinMultilineValues_names p
  refine ⟨names ▸ wf.names, names ▸ wf.notDefault, names ▸ wf.nonempty, ?_, ?_⟩
  · simpa only [ConfigParser.joinMultilineValues, keys] using wf.defaults
  · simp only [ConfigParser.joinMultilineValues, List.mem_map]
    rintro _ ⟨s, member, rfl⟩
    simpa only [keys] using wf.options s member

end WellFormed

section Loop

-- the invariant of the loop of `_read`: the dicts are well formed until a line is bogus
def Reading.WellFormed (st : Reading) : Prop := st.errors = [] → st.parser.WellFormed

theorem Reading.init_wellFormed : Reading.init.WellFormed := fun _ => ConfigParser.empty_wellFormed

theorem Reading.modify_wellFormed (st : Reading)
    (f : Options (List (List Char)) → Options (List (List Char)))
    (keep : ∀ o, KeysWellFormed (o.map Prod.fst) → KeysWellFormed ((f o).map Prod.fst))
    (wf : st.WellFormed) : (st.modify f).WellFormed := by
  unfold Reading.modify
  split
  · exact wf
  · exact fun none => (wf none).modifySection _ f keep

theorem Reading.extend_wellFormed (st : Reading) (value : List Char) (wf : st.WellFormed) :
    (st.extend value).WellFormed := by
  refine st.modify_wellFormed _ (fun o keys => ?_) wf
  have same : (o.map fun e => if e.1 = st.optname then (e.1, e.2 ++ [value]) else e).map Prod.fst =
      o.map Prod.fst := by
    simp only [List.map_map]
    exact List.map_congr_left fun e _ => by dsimp only [Function.comp]; split <;> rfl
  rwa [same]

theorem sectionHeader_ne_nil (value name : List Char) (header : sectionHeader value = some name) :
    name ≠ [] := by
  unfold sectionHeader at header
  split at header
  · split at header
    · contradiction
    · next nonempty => exact Option.some.inj header ▸ nonempty
  · contradiction

theorem Reading.enterSection_wellFormed (st st' : Reading) (n : Nat) (name : List Char)
    (nonempty : name ≠ []) (wf : st.WellFormed) (entered : st.enterSection n name = .ok st') :
    st'.WellFormed := by
  unfold Reading.enterSection at entered
  split at entered
  · split at entered
    · contradiction
    · exact Except.ok.inj entered ▸ wf
  · split at entered
    · exact Except.ok.inj entered ▸ wf
    · next present notDefault =>
      obtain rfl := Except.ok.inj entered
      intro none
      have old := wf none
      have fresh : name ∉ st.parser.sections.map Prod.fst := by
        simpa [ConfigParser.hasSection] using present
      have other : name ≠ defaultSection := by simpa using notDefault
      refine ⟨?_, ?_, ?_, old.defaults, ?_⟩ <;>
        simp only [List.map_append, List.map_cons, List.map_nil, List.mem_append, List.mem_singleton]
      · exact List.nodup_append.mpr ⟨old.names, List.nodup_singleton _, by simpa using fresh⟩
      · exact fun h => h.elim old.notDefault (fun same => other same.symm)
      · exact fun h => h.elim old.nonempty (fun same => nonempty same.symm)
      · rintro s (member | rfl)
        · exact old.options s member
        · exact ⟨List.nodup_nil, fun _ h => absurd h (List.not_mem_nil _)⟩

set_option maxRecDepth 1000 in
theorem isDelimiter_lower (c : Char) : isDelimiter (lower c) = isDelimiter c :=
  lower_keeps isDelimiter [(0x3A, 0x3A), (0x3D, 0x3D)] (fun c delimiter => by
    simp only [isDelimiter, Bool.or_eq_true, beq_iff_eq] at delimiter
    rcases delimiter with rfl | rfl <;> decide) (by decide) c

theorem optionLine_name (value name optval : List Char) (parsed : optionLine value = some (name, optval))
    (nonempty : name ≠ []) : OptionName (lowerText (name.rdropWhile isSpace)) := by
  unfold optionLine at parsed
  split at parsed
  · contradiction
  · obtain ⟨rfl, -⟩ := Prod.mk.inj (Option.some.inj parsed)
    rw [List.rdropWhile_idempotent]
    have free : ∀ c ∈ (value.takeWhile (! isDelimiter ·)).rdropWhile isSpace,
        isDelimiter c = false := fun c inside => by
      simpa using List.mem_takeWhile_imp ((List.rdropWhile_prefix _ _).subset inside)
    exact ⟨lowerText_ne_nil _ nonempty, lowerText_lowerText _,
      lowerText_keeps isDelimiter isDelimiter_lower (by decide) _ free⟩

theorem Reading.modify_errors (st : Reading) (f : Options (List (List Char)) → Options (List (List Char))) :
    (st.modify f).errors = st.errors := by
  unfold Reading.modify
  split <;> rfl

theorem Reading.option_wellFormed (st st' : Reading) (n : Nat) (line sect value : List Char)
    (wf : st.WellFormed) (stored : st.option n line sect value = .ok st') : st'.WellFormed := by
  unfold Reading.option at stored
  split at stored
  · -- no delimiter: the line is bogus
    intro none
    rw [← Except.ok.inj stored] at none
    simp at none
  · next name optval parsed =>
    cases empty : name.isEmpty
    · -- a named option: its dict gets the lower-case name
      have named := optionLine_name value name optval parsed (by simpa using empty)
      simp only [empty, Bool.false_eq_true, if_false] at stored
      split at stored
      · contradiction
      · rw [← Except.ok.inj stored]
        exact Reading.modify_wellFormed _ _ (fun o keys => keys.assign _ _ named) wf
    · -- an empty name: the line is bogus
      simp only [empty, if_true] at stored
      split at stored
      · contradiction
      · intro none
        rw [← Except.ok.inj stored, Reading.modify_errors] at none
        simp at none

-- one pass of the loop of `_read` keeps the invariant
theorem Reading.line_wellFormed (st st' : Reading) (n : Nat) (line : List Char) (wf : st.WellFormed)
    (step : st.line n line = .ok st') : st'.WellFormed := by
  unfold Reading.line at step
  simp only at step
  generalize (if isComment line = true then [] else strip line) = value at step
  split at step
  · -- a blank line or a comment
    split at step <;> obtain rfl := Except.ok.inj step
    · exact st.extend_wellFormed [] wf
    · exact wf
  · split at step
    · -- a continuation line
      obtain rfl := Except.ok.inj step
      exact st.extend_wellFormed _ wf
    · split at step
      · next name header =>
        refine Reading.enterSection_wellFormed _ st' n name (sectionHeader_ne_nil _ _ header) ?_ step
        exact wf
      · split at step
        · contradiction
        · refine Reading.option_wellFormed _ st' _ _ _ _ ?_ step
          exact wf

theorem Reading.foldlM_line_wellFormed (lines : List (Nat × List Char)) (st st' : Reading)
    (wf : st.WellFormed) (run : lines.foldlM (fun st line => st.line line.1 line.2) st = .ok st') :
    st'.WellFormed := by
  induction lines generalizing st with
  | nil => exact Except.ok.inj run ▸ wf
  | cons line rest ih =>
    rw [List.foldlM_cons] at run
    cases step : st.line line.1 line.2 with
    | error e => rw [step] at run; contradiction
    | ok mid =>
      rw [step] at run
      exact ih mid (Reading.line_wellFormed st mid _ _ wf step) run

-- every parser `read` returns is well formed, whatever the text
theorem read_wellFormed (text : List Char) (cp : ConfigParser (List Char))
    (read : ConfigParser.read text = .ok cp) : cp.WellFormed := by
  unfold ConfigParser.read at read
  cases run : ((fileLines text).enumFrom 1).foldlM (fun st line => st.line line.1 line.2) Reading.init with
  | error e => rw [run] at read; contradiction
  | ok st =>
    rw [run] at read
    have wf := Reading.foldlM_line_wellFormed _ _ _ Reading.init_wellFormed run
    simp only [bind, Except.bind] at read
    split at read
    · next clean => exact Except.ok.inj read ▸ joinMultilineValues_wellFormed _ (wf (by simpa using clean))
    · contradiction

end Loop

end WhisperLinux.Python
