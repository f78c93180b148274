import WhisperLinux.Config
import WhisperLinux.Python.ConfigRoundTrip
import WhisperLinux.Python.ConfigInvariant
import Mathlib.Data.Nat.Digits
import Mathlib.Tactic.ExtractLets
import Mathlib.Tactic.LiftLets

set_option autoImplicit false

namespace WhisperLinux.Config

open Python Commands

section Codecs

-- what `int()` needs of a decimal digit `Nat.digitChar` writes
structure DecimalDigit (c : Char) (d : Nat) : Prop where
  digit : c.isDigit = true
  value : c.toNat - 48 = d
  notUnderscore : c ≠ '_'
  ascii : c.toNat < 127
  visible : isAsciiSpace c = false
  notMinus : c ≠ '-'
  notPlus : c ≠ '+'

theorem digitChar_of_lt (d : Nat) (small : d < 10) : DecimalDigit (Nat.digitChar d) d := by
  have all : ∀ d : Fin 10, (Nat.digitChar d).isDigit = true ∧ (Nat.digitChar d).toNat - 48 = d ∧
      Nat.digitChar d ≠ '_' ∧ (Nat.digitChar d).toNat < 127 ∧ isAsciiSpace (Nat.digitChar d) = false ∧
      Nat.digitChar d ≠ '-' ∧ Nat.digitChar d ≠ '+' := by decide
  obtain ⟨a, b, c, e, f, g, h⟩ := all ⟨d, small⟩
  exact ⟨a, b, c, e, f, g, h⟩

theorem mem_toDigitsCore (fuel n : Nat) (ds : List Char) (c : Char)
    (member : c ∈ Nat.toDigitsCore 10 fuel n ds) : (∃ d < 10, c = Nat.digitChar d) ∨ c ∈ ds := by
  induction fuel generalizing n ds with
  | zero => exact .inr member
  | succ fuel ih =>
    rw [Nat.toDigitsCore] at member
    have here : ∀ c ∈ Nat.digitChar (n % 10) :: ds, (∃ d < 10, c = Nat.digitChar d) ∨ c ∈ ds :=
      fun c member => (List.mem_cons.mp member).imp (fun h => ⟨n % 10, Nat.mod_lt n (by decide), h⟩) id
    split at member
    · exact here c member
    · exact (ih _ _ member).elim .inl (here c)

theorem digitsValue_toDigitsCore (fuel n : Nat) (ds : List Char) (enough : n < fuel) :
    digitsValue (Nat.toDigitsCore 10 fuel n ds) = digitsFrom n ds := by
  induction fuel generalizing n ds with
  | zero => omega
  | succ fuel ih =>
    obtain ⟨digit, value, notUnderscore, -⟩ := digitChar_of_lt (n % 10) (Nat.mod_lt n (by decide))
    rw [Nat.toDigitsCore]
    split
    · next last =>
      simp only [digitsValue, digit, if_true, value]
      rw [Nat.mod_eq_of_lt (by omega)]
    · next more =>
      rw [ih (n / 10) _ (by omega)]
      cases ds <;> simp [digitsFrom, digit, value, notUnderscore, Nat.div_add_mod']

theorem stripChars_of_kept (q : Char → Bool) (s : List Char) (kept : ∀ c ∈ s, q c = false) :
    stripChars q s = s := by
  have front : s.dropWhile q = s :=
    List.dropWhile_eq_self_iff.mpr fun nonempty => by simp [kept _ (List.getElem_mem nonempty)]
  have back : s.rdropWhile q = s :=
    List.rdropWhile_eq_self_iff.mpr fun nonempty => by simp [kept _ (List.getLast_mem nonempty)]
  rw [stripChars, front, back]

theorem transformDecimalAndSpace_of_ascii (s : List Char) (ascii : ∀ c ∈ s, c.toNat < 127) :
    transformDecimalAndSpace s = s := by
  induction s with
  | nil => rfl
  | cons c s ih =>
    rw [transformDecimalAndSpace, if_pos (ascii c (.head _)), ih fun d inside => ascii d (.tail _ inside)]

-- what `int()` needs of the text `str(n)`
structure IntText (text : List Char) : Prop where
  ascii : ∀ c ∈ text, c.toNat < 127
  visible : ∀ c ∈ text, isAsciiSpace c = false

theorem toDigits_digits (m : Nat) :
    ∃ d < 10, ∃ rest, Nat.toDigits 10 m = Nat.digitChar d :: rest ∧
      IntText (Nat.toDigits 10 m) ∧ digitsValue (Nat.toDigits 10 m) = some m := by
  have value : digitsValue (Nat.toDigits 10 m) = some m := by
    rw [Nat.toDigits, digitsValue_toDigitsCore _ _ _ (by omega)]
    rfl
  have chars (c : Char) (member : c ∈ Nat.toDigits 10 m) : ∃ d < 10, c = Nat.digitChar d :=
    (mem_toDigitsCore _ _ _ c member).resolve_right (List.not_mem_nil c)
  have text : IntText (Nat.toDigits 10 m) :=
    ⟨fun c member => by obtain ⟨d, small, rfl⟩ := chars c member; exact (digitChar_of_lt d small).ascii,
      fun c member => by obtain ⟨d, small, rfl⟩ := chars c member; exact (digitChar_of_lt d small).visible⟩
  cases shape : Nat.toDigits 10 m with
  | nil => rw [shape] at value; contradiction
  | cons c rest =>
    obtain ⟨d, small, rfl⟩ := chars c (shape ▸ List.mem_cons_self _ _)
    exact ⟨d, small, rest, rfl, shape ▸ text, shape ▸ value⟩

theorem stripped_of_intText (text : List Char) (valid : IntText text) :
    stripChars isAsciiSpace (transformDecimalAndSpace text) = text := by
  rw [transformDecimalAndSpace_of_ascii _ valid.ascii, stripChars_of_kept _ _ valid.visible]

theorem pyInt_strInt (n : Int) : pyInt (strInt n) = some n := by
  cases n with
  | ofNat m =>
    obtain ⟨d, small, rest, shape, text, value⟩ := toDigits_digits m
    have digit := digitChar_of_lt d small
    rw [strInt, pyInt, stripped_of_intText _ text, shape]
    rw [shape] at value
    split
    · next h => exact absurd (List.cons.inj h).1 digit.notMinus
    · next h => exact absurd (List.cons.inj h).1 digit.notPlus
    · simp [value]
  | negSucc m =>
    obtain ⟨d, small, rest, shape, text, value⟩ := toDigits_digits (m + 1)
    have signed : IntText ('-' :: Nat.toDigits 10 (m + 1)) :=
      ⟨fun c member => (List.mem_cons.mp member).elim (fun h => h ▸ by decide) (text.ascii c),
        fun c member => (List.mem_cons.mp member).elim (fun h => h ▸ rfl) (text.visible c)⟩
    rw [strInt, pyInt, stripped_of_intText _ signed]
    simp [value, Int.negSucc_eq]

set_option maxRecDepth 1000 in
theorem convertToBoolean_strBool (b : Bool) : convertToBoolean (strBool b) = .ok b := by
  have lowered : lowerText (strBool b) = if b then "true".toList else "false".toList := by
    cases b <;> decide
  rw [convertToBoolean, lowered]
  cases b <;> rfl

end Codecs

section Save

variable {F : Type} (floats : Floats F) (c : Config F)

-- the command words and actions as `save` hands them to `set`
def commandEntries : Options (List Char) :=
  c.voiceCommandsMap.entries.map fun e => (e.1.toList, e.2.toList)

-- the parser `save` fills before writing it out
def saved : ConfigParser (List Char) :=
  ⟨[], [(mainSection, c.options floats), (commandsSection, c.commandEntries)]⟩

def optionNames : List (List Char) :=
  ((init () ()).options (⟨fun _ => [], fun _ => none⟩ : Floats Unit)).map Prod.fst

theorem options_names : (c.options floats).map Prod.fst = optionNames := rfl

-- what `save` needs for `_load` to read its file back: every value plain, every command
-- word a `Word`
structure Saveable : Prop where
  options : ∀ o ∈ c.options floats, Plain o.2
  commands : ∀ e ∈ c.commandEntries, Word e.1 ∧ Plain e.2

instance : Decidable (c.Saveable floats) :=
  decidable_of_iff ((∀ o ∈ c.options floats, Plain o.2) ∧ ∀ e ∈ c.commandEntries, Word e.1 ∧ Plain e.2)
    ⟨fun h => ⟨h.1, h.2⟩, fun h => ⟨h.1, h.2⟩⟩

theorem assign_last {β : Type} (pre : List (List Char × β)) (key : List Char) (old new : β)
    (fresh : key ∉ pre.map Prod.fst) : assign key new (pre ++ [(key, old)]) = pre ++ [(key, new)] := by
  induction pre with
  | nil => simp [assign]
  | cons e rest ih =>
    simp only [List.map_cons, List.mem_cons, not_or] at fresh
    simp [assign, Ne.symm fresh.1, ih fresh.2]

theorem set_last (pre : List (List Char × Options (List Char))) (sect key v : List Char)
    (acc : Options (List Char)) (named : sect ≠ [] ∧ sect ≠ defaultSection)
    (fresh : sect ∉ pre.map Prod.fst) (noPercent : '%' ∉ v) :
    (⟨[], pre ++ [(sect, acc)]⟩ : ConfigParser (List Char)).set sect key v =
      .ok ⟨[], pre ++ [(sect, assign (lowerText key) v acc)]⟩ := by
  have notDefault : (sect == defaultSection) = false := by simpa using named.2
  simp [ConfigParser.set, beforeSet_of_noPercent v noPercent, named.1, notDefault,
    lookup_append_fresh _ _ _ _ fresh, assign_last _ _ _ _ fresh]
  exact fun _ => rfl

theorem foldlM_set (pre : List (List Char × Options (List Char))) (sect : List Char)
    (named : sect ≠ [] ∧ sect ≠ defaultSection) (fresh : sect ∉ pre.map Prod.fst)
    (opts : List (List Char × List Char)) (noPercent : ∀ o ∈ opts, '%' ∉ o.2)
    (acc : Options (List Char)) :
    opts.foldlM (fun cp o => cp.set sect o.1 o.2) (⟨[], pre ++ [(sect, acc)]⟩ : ConfigParser (List Char)) =
      .ok ⟨[], pre ++ [(sect, opts.foldl (fun a o => assign (lowerText o.1) o.2 a) acc)]⟩ := by
  induction opts generalizing acc with
  | nil => rfl
  | cons o rest ih =>
    rw [List.foldlM_cons, set_last pre sect o.1 o.2 acc named fresh (noPercent o (by simp))]
    exact ih (fun o' member => noPercent o' (List.mem_cons_of_mem o member)) _

-- assigning fresh keys in turn appends them; `key` is `optionxform` for `set`, the identity
-- for the merge of `items`
theorem foldl_assign_fresh (key : List Char → List Char) (opts acc : List (List Char × List Char))
    (lower : ∀ o ∈ opts, key o.1 = o.1) (nodup : ((acc ++ opts).map Prod.fst).Nodup) :
    opts.foldl (fun a o => assign (key o.1) o.2 a) acc = acc ++ opts := by
  induction opts generalizing acc with
  | nil => simp
  | cons o rest ih =>
    have fresh : o.1 ∉ acc.map Prod.fst := by
      simp only [List.map_append, List.map_cons, List.nodup_append] at nodup
      exact fun member => nodup.2.2 member (List.mem_cons_self _ _)
    rw [List.foldl_cons, lower o (List.mem_cons_self _ _), assign_of_not_mem _ _ _ fresh,
      ih (acc ++ [o]) (fun o' member => lower o' (List.mem_cons_of_mem o member)) (by simpa using nodup)]
    simp

theorem commandEntries_nodup : (c.commandEntries.map Prod.fst).Nodup := by
  have injective : Function.Injective String.toList := fun a b same => String.ext same
  simpa [commandEntries, Function.comp_def] using
    c.voiceCommandsMap.keys_nodup.map injective

set_option maxRecDepth 1000 in
theorem save_eq (saveable : c.Saveable floats) : c.save floats = .ok (c.saved floats).write := by
  have mainKeys : ∀ k ∈ optionNames, lowerText k = k := by decide
  have mainNodup : optionNames.Nodup := by decide
  have mainNamed : mainSection ≠ [] ∧ mainSection ≠ defaultSection := by decide
  have commandsNamed : commandsSection ≠ [] ∧ commandsSection ≠ defaultSection := by decide
  have options : (c.options floats).foldl (fun a o => assign (lowerText o.1) o.2 a) [] =
      c.options floats :=
    foldl_assign_fresh lowerText _ [] (fun o member => mainKeys o.1 (options_names floats c ▸
      List.mem_map_of_mem Prod.fst member)) (by simpa [options_names] using mainNodup)
  have commands : c.commandEntries.foldl (fun a o => assign (lowerText o.1) o.2 a) [] =
      c.commandEntries :=
    foldl_assign_fresh lowerText _ [] (fun e member => (saveable.commands e member).1.lower)
      (by simpa using c.commandEntries_nodup)
  have first := foldlM_set [] mainSection mainNamed (by simp) (c.options floats)
    (fun o member => (saveable.options o member).noPercent) []
  have second := foldlM_set [(mainSection, c.options floats)] commandsSection commandsNamed
    (by simp only [List.map_cons, List.map_nil, List.mem_singleton]; decide) c.commandEntries (fun e member => (saveable.commands e member).2.noPercent) []
  simp only [List.nil_append, options] at first
  simp only [List.singleton_append, commands] at second
  rw [commandEntries, List.foldlM_map] at second
  have commandsNew : commandsSection ≠ mainSection := by decide
  simp only at second
  simp only [save, ConfigParser.empty, ConfigParser.addSection, ConfigParser.hasSection, beq_iff_eq,
    mainNamed.2, commandsNamed.2, if_false, List.map_cons, List.map_nil, List.mem_singleton, commandsNew,
    List.nil_append, decide_False, Bool.false_eq_true, bind, Except.bind, first, List.singleton_append,
    List.cons_append, second, List.not_mem_nil, if_false, ite_false, not_false_eq_true, decide_True]
  rfl

set_option maxRecDepth 1000 in
theorem saved_writable (saveable : c.Saveable floats) : (c.saved floats).Writable where
  names := by simp only [saved, List.map_cons, List.map_nil]; decide
  sectionNames := by
    simp only [saved, List.mem_cons, List.mem_singleton, forall_eq_or_imp, List.not_mem_nil,
      false_imp_iff, implies_true, and_true]
    exact ⟨⟨by decide, by decide, by decide, by decide⟩, ⟨by decide, by decide, by decide, by decide⟩⟩
  defaults := ⟨List.nodup_nil, fun _ member => absurd member (List.not_mem_nil _)⟩
  options := by
    have mainWords : ∀ k ∈ optionNames, Word k := by decide
    simp only [saved, List.mem_cons, List.mem_singleton, forall_eq_or_imp, List.not_mem_nil,
      false_imp_iff, implies_true, and_true]
    refine ⟨⟨by simpa [options_names] using (by decide : optionNames.Nodup), fun o member =>
      ⟨mainWords o.1 (options_names floats c ▸ List.mem_map_of_mem Prod.fst member),
        saveable.options o member⟩⟩, ⟨c.commandEntries_nodup, saveable.commands⟩⟩

theorem read_saved (saveable : c.Saveable floats) :
    ConfigParser.read (c.saved floats).write = .ok (c.saved floats) :=
  read_write _ (c.saved_writable floats saveable)

theorem get?_main (saveable : c.Saveable floats) (option : List Char) (lower : lowerText option = option) :
    (c.saved floats).get? mainSection option = .ok ((c.options floats).lookup option) := by
  have found : (c.saved floats).sections.lookup mainSection = some (c.options floats) := by
    simp [saved]
  simp only [ConfigParser.get?, ConfigParser.unify, found, lower]
  cases value : (c.options floats).lookup option with
  | none => simp [saved]
  | some v =>
    obtain ⟨pre, post, whole, -⟩ := List.lookup_eq_some_iff.mp value
    have plain := saveable.options _ (whole ▸ List.mem_append_right pre (List.mem_cons_self _ _))
    simp [beforeGet_of_noPercent v plain.noPercent]

theorem except_ok_bind {ε α β : Type} (a : α) (f : α → Except ε β) : (Except.ok a >>= f) = f a := rfl

theorem loadMain_saved (saveable : c.Saveable floats)
    (silence : floats.float (floats.str c.silenceTimeout) = some c.silenceTimeout)
    (maxSpeech : floats.float (floats.str c.maxSpeechS) = some c.maxSpeechS) (self : Config F) :
    loadMain floats (c.saved floats) self = .ok { c with voiceCommandsMap := self.voiceCommandsMap } := by
  simp (disch := first | exact lowerText_of_ascii _ (by decide) | decide) only [loadMain, ConfigParser.get, ConfigParser.getint, ConfigParser.getboolean,
    getfloat, ConfigParser.getConv, get?_main floats c saveable]
  simp [Config.options, lookup_cons_eq, pyInt_strInt, convertToBoolean_strBool, silence, maxSpeech,
    migrateMode, except_ok_bind]

theorem mapM_beforeGet (lookup : List Char → Option (List Char)) (d : Options (List Char))
    (noPercent : ∀ e ∈ d, '%' ∉ e.2) :
    d.mapM (fun entry => (entry.1, ·) <$> beforeGet lookup entry.1 entry.2) = .ok d := by
  induction d with
  | nil => rfl
  | cons e rest ih =>
    rw [List.mapM_cons, beforeGet_of_noPercent e.2 (noPercent e (List.mem_cons_self _ _)),
      ih fun e' member => noPercent e' (List.mem_cons_of_mem e member)]
    rfl

theorem items_commands (saveable : c.Saveable floats) :
    (c.saved floats).items commandsSection = .ok c.commandEntries := by
  have found : (c.saved floats).sections.lookup commandsSection = some c.commandEntries := by
    simp [saved, lookup_cons_eq, (by decide : commandsSection ≠ mainSection)]
  have merged : c.commandEntries.foldl (fun d e => assign e.1 e.2 d) [] = c.commandEntries :=
    foldl_assign_fresh id _ [] (fun _ _ => rfl) (by simpa using c.commandEntries_nodup)
  have noDefaults : (c.saved floats).defaults = [] := rfl
  simp only [ConfigParser.items, found, noDefaults, merged]
  exact mapM_beforeGet _ _ fun e member => (saveable.commands e member).2.noPercent

-- what `save` writes, `Config()` reads back at the next start: every option as it was, the
-- saved commands merged into the default ones, and what is still empty detected again
theorem postInit_save (host : Host) (self : Config F) (saveable : c.Saveable floats)
    (silence : floats.float (floats.str c.silenceTimeout) = some c.silenceTimeout)
    (maxSpeech : floats.float (floats.str c.maxSpeechS) = some c.maxSpeechS) :
    (c.save floats).bind (fun text => postInit floats host self (some text)) =
      .ok ({ c with voiceCommandsMap := mergeCommands c.commandEntries }.detect host) := by
  have main : (c.saved floats).hasSection mainSection = true := by
    simp [ConfigParser.hasSection, saved]
  have commands : (c.saved floats).hasSection commandsSection = true := by
    simp [ConfigParser.hasSection, saved]
  rw [save_eq floats c saveable]
  simp only [Except.bind, postInit, Option.elim, read_saved floats c saveable, except_ok_bind, main,
    commands, if_true, loadMain_saved floats c saveable silence maxSpeech, items_commands floats c saveable]
  rfl

set_option maxRecDepth 1000 in
theorem postInit_save_init :
    ((init (3 : Int) 30).save ⟨strInt, pyInt⟩).bind (fun text => postInit ⟨strInt, pyInt⟩
      ⟨none, [], [], fun _ => none, fun _ => none, [], fun _ _ => none⟩ (init 3 30) (some text)) =
      .ok ({ init (3 : Int) 30 with voiceCommandsMap := mergeCommands (init (3 : Int) 30).commandEntries }.detect
        ⟨none, [], [], fun _ => none, fun _ => none, [], fun _ _ => none⟩) :=
  postInit_save _ _ _ _ (by decide) (pyInt_strInt 3) (pyInt_strInt 30)

end Save

section Refusal

variable {F : Type} (floats : Floats F) (c : Config F)

theorem except_bind_eq_ok {ε α β : Type} {x : Except ε α} {f : α → Except ε β} {y : β}
    (h : (x >>= f) = .ok y) : ∃ a, x = .ok a ∧ f a = .ok y := by
  cases x with
  | error e => cases h
  | ok a => exact ⟨a, rfl, h⟩

end Refusal

section Load

variable {F : Type} (floats : Floats F)

theorem loadMain_voiceCommandsMap (cp : ConfigParser (List Char)) (c c' : Config F)
    (loaded : loadMain floats cp c = .ok c') : c'.voiceCommandsMap = c.voiceCommandsMap := by
  unfold loadMain at loaded
  repeat obtain ⟨_, _, loaded⟩ := except_bind_eq_ok loaded
  obtain rfl := Except.ok.inj loaded
  rfl

theorem detect_voiceCommandsMap (host : Host) (c : Config F) :
    (c.detect host).voiceCommandsMap = c.voiceCommandsMap := by
  have keep (p : Prop) [Decidable p] (x y : Config F) (same : x.voiceCommandsMap = y.voiceCommandsMap) :
      (if p then x else y).voiceCommandsMap = y.voiceCommandsMap := by
    split
    · exact same
    · rfl
  unfold detect
  lift_lets
  extract_lets c₁ c₂ c₃ c₄ c₅
  have h₁ : c₁.voiceCommandsMap = c.voiceCommandsMap := keep _ _ _ rfl
  have h₂ : c₂.voiceCommandsMap = c₁.voiceCommandsMap := keep _ _ _ rfl
  have h₃ : c₃.voiceCommandsMap = c₂.voiceCommandsMap := keep _ _ _ rfl
  have h₄ : c₄.voiceCommandsMap = c₃.voiceCommandsMap := keep _ _ _ rfl
  have h₅ : c₅.voiceCommandsMap = c₄.voiceCommandsMap := keep _ _ _ rfl
  exact Eq.trans (keep _ _ _ rfl) (h₅.trans (h₄.trans (h₃.trans (h₂.trans h₁))))

theorem keys_subset_foldl_assign (saved : List (List Char × List Char)) (m : CommandMap) (w : String)
    (present : w ∈ m.entries.map Prod.fst) :
    w ∈ (saved.foldl (fun m e => m.assign (String.mk e.1) (String.mk e.2)) m).entries.map Prod.fst := by
  induction saved generalizing m with
  | nil => exact present
  | cons e rest ih => exact ih _ ((keys_assign _ _ _ w).mpr (.inr present))

-- `Config()` always brings the default commands back: whatever the file says, every default
-- word is in the loaded map, so a default command deleted in the editor returns at the next start
theorem postInit_keeps_default_commands (host : Host) (self c' : Config F) (file : Option (List Char))
    (loaded : postInit floats host self file = .ok c') (w : String)
    (isDefault : w ∈ defaultCommands.entries.map Prod.fst) :
    w ∈ c'.voiceCommandsMap.entries.map Prod.fst := by
  unfold postInit at loaded
  obtain ⟨cp, -, loaded⟩ := except_bind_eq_ok loaded
  obtain ⟨c₁, main, loaded⟩ := except_bind_eq_ok loaded
  obtain ⟨c₂, commands, loaded⟩ := except_bind_eq_ok loaded
  obtain rfl := Except.ok.inj loaded
  have first : c₁.voiceCommandsMap = defaultCommands := by
    split at main
    · exact loadMain_voiceCommandsMap floats cp _ c₁ main
    · obtain rfl := Except.ok.inj main
      rfl
  rw [detect_voiceCommandsMap]
  split at commands
  · cases items : cp.items commandsSection with
    | error e => rw [items] at commands; cases commands
    | ok saved =>
      rw [items] at commands
      obtain rfl := Except.ok.inj commands
      exact keys_subset_foldl_assign saved defaultCommands w isDefault
  · obtain rfl := Except.ok.inj commands
    rwa [first]

theorem keys_mapM_pair (f : List Char × List Char → Except ConfigError (List Char))
    (d d' : Options (List Char)) (mapped : d.mapM (fun e => (e.1, ·) <$> f e) = .ok d') :
    d'.map Prod.fst = d.map Prod.fst := by
  induction d generalizing d' with
  | nil => obtain rfl := Except.ok.inj mapped; rfl
  | cons e rest ih =>
    rw [List.mapM_cons] at mapped
    obtain ⟨e', first, mapped⟩ := except_bind_eq_ok mapped
    obtain ⟨rest', later, mapped⟩ := except_bind_eq_ok mapped
    obtain rfl := Except.ok.inj mapped
    cases result : f e with
    | error _ => rw [result] at first; cases first
    | ok v =>
      rw [result] at first
      obtain rfl := Except.ok.inj first
      simp [ih rest' later]

theorem keys_foldl_assign (options acc : Options (List Char)) (k : List Char)
    (member : k ∈ (options.foldl (fun d e => assign e.1 e.2 d) acc).map Prod.fst) :
    k ∈ acc.map Prod.fst ∨ k ∈ options.map Prod.fst := by
  induction options generalizing acc with
  | nil => exact .inl member
  | cons e rest ih =>
    rcases ih _ member with early | later
    · rcases (keys_assign _ _ _ k).mp early with rfl | before
      · exact .inr (List.mem_cons_self _ _)
      · exact .inl before
    · exact .inr (List.mem_cons_of_mem _ later)

theorem items_keys (cp : ConfigParser (List Char)) (sect : List Char) (d : Options (List Char))
    (listed : cp.items sect = .ok d) (k : List Char) (member : k ∈ d.map Prod.fst) :
    k ∈ cp.defaults.map Prod.fst ∨ ∃ s ∈ cp.sections, k ∈ s.2.map Prod.fst := by
  unfold ConfigParser.items at listed
  split at listed
  · next options found =>
    rw [keys_mapM_pair _ _ _ listed] at member
    refine (keys_foldl_assign options _ k member).imp id fun inSection => ?_
    obtain ⟨pre, post, whole, -⟩ := List.lookup_eq_some_iff.mp found
    exact ⟨(sect, options), whole ▸ List.mem_append_right pre (List.mem_cons_self _ _), inSection⟩
  · split at listed
    · exact .inl (keys_mapM_pair _ _ _ listed ▸ member)
    · contradiction

theorem keys_mergeCommands (saved : List (List Char × List Char)) (w : String)
    (member : w ∈ (mergeCommands saved).entries.map Prod.fst) :
    w ∈ defaultCommands.entries.map Prod.fst ∨ w.toList ∈ saved.map Prod.fst := by
  unfold mergeCommands at member
  generalize defaultCommands = m at member ⊢
  induction saved generalizing m with
  | nil => exact .inl member
  | cons e rest ih =>
    rcases ih _ member with early | later
    · rcases (keys_assign _ _ _ w).mp early with rfl | before
      · exact .inr (List.mem_cons_self _ _)
      · exact .inl before
    · exact .inr (List.mem_cons_of_mem _ later)

-- every command word `Config()` loads from a file is a default one or a name `optionxform`
-- gives: non-empty, in lower case and free of "=" and ":"
theorem postInit_command_words (host : Host) (self c' : Config F) (text : List Char)
    (loaded : postInit floats host self (some text) = .ok c') (w : String)
    (member : w ∈ c'.voiceCommandsMap.entries.map Prod.fst) :
    w ∈ defaultCommands.entries.map Prod.fst ∨ OptionName w.toList := by
  unfold postInit at loaded
  obtain ⟨cp, read, loaded⟩ := except_bind_eq_ok loaded
  obtain ⟨c₁, main, loaded⟩ := except_bind_eq_ok loaded
  obtain ⟨c₂, commands, loaded⟩ := except_bind_eq_ok loaded
  obtain rfl := Except.ok.inj loaded
  have wf := read_wellFormed text cp read
  have first : c₁.voiceCommandsMap = defaultCommands := by
    split at main
    · exact loadMain_voiceCommandsMap floats cp _ c₁ main
    · obtain rfl := Except.ok.inj main
      rfl
  rw [detect_voiceCommandsMap] at member
  split at commands
  · cases items : cp.items commandsSection with
    | error e => rw [items] at commands; cases commands
    | ok saved =>
      rw [items] at commands
      obtain rfl := Except.ok.inj commands
      refine (keys_mergeCommands saved w member).imp id fun fromFile => ?_
      rcases items_keys cp _ saved items _ fromFile with inDefaults | ⟨s, inSections, inSection⟩
      · exact wf.defaults.names _ inDefaults
      · exact (wf.options s inSections).names _ inSection
  · obtain rfl := Except.ok.inj commands
    exact .inl (first ▸ member)

set_option maxRecDepth 4000 in
theorem capitalised_word_loads_lower_case :
    "новая строка" ∈ defaultCommands.entries.map Prod.fst ∨ OptionName "новая строка".toList :=
  postInit_command_words ⟨strInt, pyInt⟩ ⟨none, [], [], fun _ => none, fun _ => none, [], fun _ _ => none⟩
    (init 3 30) _ "[voice-commands]\nНовая Строка = key:Return\n".toList rfl "новая строка" (by decide)

set_option maxRecDepth 4000 in
theorem enter_returns_after_deletion :
    "enter" ∈ ({ init (3 : Int) 30 with
      voiceCommandsMap := mergeCommands [("новая строка".toList, "key:Return".toList)] }.detect
        ⟨none, [], [], fun _ => none, fun _ => none, [], fun _ _ => none⟩).voiceCommandsMap.entries.map
      Prod.fst :=
  postInit_keeps_default_commands ⟨strInt, pyInt⟩ ⟨none, [], [], fun _ => none, fun _ => none, [], fun _ _ => none⟩
    (init 3 30) _ (some "[voice-commands]\nновая строка = key:Return\n".toList) rfl "enter" (by decide)

end Load

end WhisperLinux.Config
