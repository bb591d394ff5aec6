import Logbook.Proofs.OptionValues

/-! Command lines as groups: the file, a switch, or an option with its value, which may look like
anything. The groups stand in any order; what counts is the one file and the last value of each
option. -/

namespace Logbook.Cli

def optionWords : List Text :=
  helpSpellings ++ verboseSpellings ++ Flag.all.flatMap Flag.spellings

theorem notMem_optionWords {s : Text} (plain : s.head? ≠ some '-') : s ∉ optionWords := by
  have dashed : ∀ s ∈ optionWords, s.head? = some '-' := by decide +kernel
  exact fun word => plain (dashed s word)

inductive Group where
  | file (path : Text) (plain : path.head? ≠ some '-')
  | verbose (spelling : Text) (known : spelling ∈ verboseSpellings)
  | option (flag : Flag) (spelling value : Text) (known : spelling ∈ flag.spellings)
  | unknown (arg : Text) (dash : arg.head? = some '-') (other : arg ∉ optionWords)
deriving DecidableEq

namespace Group

def args : Group → List Text
  | .file path _ => [path]
  | .verbose spelling _ => [spelling]
  | .option _ spelling value _ => [spelling, value]
  | .unknown arg _ _ => [arg]

def file? : Group → Option Text
  | .file path _ => some path
  | _ => none

def isVerbose : Group → Bool
  | .verbose _ _ => true
  | _ => false

def value? (f : Flag) : Group → Option Text
  | .option g _ value _ => if g = f then some value else none
  | _ => none

def Accepted : Group → Prop
  | .option f _ value _ => f.Accepts value
  | .unknown _ _ _ => False
  | _ => True

/-- What is said of a group that is not accepted, or that is one file too many. -/
inductive Refused : Group → ArgumentError → Prop where
  | secondFile {path plain} : Refused (.file path plain) .secondFile
  | value {f spelling value known e} (refuses : f.Refuses value e) :
      Refused (.option f spelling value known) e
  | unknown {arg dash other} : Refused (.unknown arg dash other) (.unknownOption arg)

end Group

def argsOf (gs : List Group) : List Text := gs.flatMap Group.args

def files (gs : List Group) : List Text := gs.filterMap Group.file?

def lastValue (f : Flag) (gs : List Group) : Option Text := (gs.filterMap (Group.value? f)).getLast?

structure Proper (gs : List Group) : Prop where
  accepted : ∀ g ∈ gs, g.Accepted
  one_file : (files gs).length ≤ 1

structure Reading (gs : List Group) (named : Bool) (a : Arguments) : Prop where
  proper : Proper gs
  files_eq : files gs = if named then [a.path] else []
  verbose_eq : a.verbose = gs.any Group.isVerbose
  took : ∀ f, a.Took f (lastValue f gs)

theorem reading_start : Reading [] false { path := [] } where
  proper := ⟨by simp, by simp [files]⟩
  files_eq := rfl
  verbose_eq := rfl
  took f := by
    cases f <;> first | rfl | exact .none

namespace Flag

theorem of?_of_mem {f : Flag} {s : Text} (h : s ∈ f.spellings) :
    Flag.of? s = some f ∧ s ∉ helpSpellings ∧ s ∉ verboseSpellings := by
  have all : ∀ f ∈ Flag.all, ∀ s ∈ f.spellings,
      Flag.of? s = some f ∧ s ∉ helpSpellings ∧ s ∉ verboseSpellings := by decide +kernel
  exact all f (by cases f <;> decide) s h

theorem of?_of_notMem {s : Text} (h : s ∉ optionWords) :
    Flag.of? s = none ∧ s ∉ helpSpellings ∧ s ∉ verboseSpellings := by
  simp only [optionWords, List.mem_append, List.mem_flatMap, not_or, not_exists, not_and] at h
  obtain ⟨⟨help, verbose⟩, flags⟩ := h
  refine ⟨?_, help, verbose⟩
  rw [Flag.of?, List.find?_eq_none]
  simpa using flags

end Flag

namespace Arguments

variable (named : Bool) (a : Arguments) {f : Flag} {s : Text} (rest : List Text)

theorem readFrom_help (h : s ∈ helpSpellings) : readFrom named a (s :: rest) = .ok none := by
  unfold readFrom
  simp [h]

theorem readFrom_verbose (h : s ∈ verboseSpellings) :
    readFrom named a (s :: rest) = readFrom named { a with verbose := true } rest := by
  have help : ∀ s ∈ verboseSpellings, s ∉ helpSpellings := by decide
  rw [readFrom.eq_def]
  simp [help s h, h]

theorem readFrom_missing (h : s ∈ f.spellings) : readFrom named a [s] = .error (.missingValue s) := by
  obtain ⟨flag, help, verbose⟩ := Flag.of?_of_mem h
  rw [readFrom.eq_def]
  simp [flag, help, verbose]

theorem readFrom_option (h : s ∈ f.spellings) (value : Text) :
    readFrom named a (s :: value :: rest) =
      (a.set value f).bind fun b => readFrom named b rest := by
  obtain ⟨flag, help, verbose⟩ := Flag.of?_of_mem h
  rw [readFrom.eq_def]
  simp [flag, help, verbose, bind]

theorem readFrom_unknown (dash : s.head? = some '-') (h : s ∉ optionWords) :
    readFrom named a (s :: rest) = .error (.unknownOption s) := by
  obtain ⟨flag, help, verbose⟩ := Flag.of?_of_notMem h
  rw [readFrom.eq_def]
  simp [flag, help, verbose, dash]

theorem readFrom_file (plain : s.head? ≠ some '-') :
    readFrom named a (s :: rest) =
      if named then .error .secondFile else readFrom true { a with path := s } rest := by
  obtain ⟨flag, help, verbose⟩ := Flag.of?_of_notMem (notMem_optionWords plain)
  rw [readFrom.eq_def]
  simp [flag, help, verbose, plain]

end Arguments

theorem files_concat (gs : List Group) (g : Group) :
    files (gs ++ [g]) = files gs ++ g.file?.toList := by
  cases file : g.file? <;> simp [files, file]

theorem lastValue_concat (f : Flag) (gs : List Group) (g : Group) :
    lastValue f (gs ++ [g]) = (g.value? f <|> lastValue f gs) := by
  cases value : g.value? f <;> simp [lastValue, value]

theorem Proper.concat {gs : List Group} (h : Proper gs) {g : Group} (accepted : g.Accepted)
    (file : g.file? = none ∨ files gs = []) : Proper (gs ++ [g]) where
  accepted := by
    simp only [List.mem_append, List.mem_singleton]
    rintro g' (before | rfl)
    · exact h.accepted g' before
    · exact accepted
  one_file := by
    rw [files_concat, List.length_append]
    rcases file with none | none
    · simpa [none] using h.one_file
    · cases g.file? <;> simp [none]

theorem Proper.front {before after : List Group} (h : Proper (before ++ after)) : Proper before where
  accepted g member := h.accepted g (List.mem_append_left after member)
  one_file := by
    have both := h.one_file
    rw [files, List.filterMap_append, List.length_append] at both
    exact (Nat.le_add_right _ _).trans both

theorem not_proper_concat {gs : List Group} {g : Group} (refused : ¬ g.Accepted) :
    ¬ Proper (gs ++ [g]) :=
  fun h => refused (h.accepted g (by simp))

namespace Reading

variable {gs : List Group} {named : Bool} {a : Arguments}

open Arguments

theorem file (h : Reading gs false a) {path : Text} (plain : path.head? ≠ some '-') :
    Reading (gs ++ [.file path plain]) true { a with path := path } where
  proper := h.proper.concat trivial (.inr h.files_eq)
  files_eq := by rw [files_concat, h.files_eq]; rfl
  verbose_eq := by simpa [Group.isVerbose] using h.verbose_eq
  took f := by
    have before := h.took f
    rw [lastValue_concat]
    cases f <;> exact before

theorem verbose (h : Reading gs named a) {spelling : Text} (known : spelling ∈ verboseSpellings) :
    Reading (gs ++ [.verbose spelling known]) named { a with verbose := true } where
  proper := h.proper.concat trivial (.inl rfl)
  files_eq := by simpa [files_concat, Group.file?] using h.files_eq
  verbose_eq := by simp [Group.isVerbose]
  took f := by
    have before := h.took f
    rw [lastValue_concat]
    cases f <;> exact before

theorem option (h : Reading gs named a) {f : Flag} {spelling value : Text}
    (known : spelling ∈ f.spellings) (accepted : f.Accepts value) {b : Arguments}
    (own : b.Took f (some value)) (others : b.without f = a.without f) :
    Reading (gs ++ [.option f spelling value known]) named b where
  proper := h.proper.concat accepted (.inl rfl)
  files_eq := by
    have path : b.path = a.path := by rw [← path_without b f, others, path_without]
    simpa [files_concat, Group.file?, path] using h.files_eq
  verbose_eq := by
    have verbose : b.verbose = a.verbose := by rw [← verbose_without b f, others, verbose_without]
    simpa [Group.isVerbose, verbose] using h.verbose_eq
  took g := by
    rw [lastValue_concat]
    by_cases same : f = g
    · subst same
      simpa [Group.value?] using own
    · rw [Group.value?, if_neg same, ← took_without b (Ne.symm same), others,
        took_without a (Ne.symm same)]
      exact h.took g

theorem step (h : Reading gs named a) (g : Group) (rest : List Text) :
    (∃ named' b, Reading (gs ++ [g]) named' b ∧
        readFrom named a (g.args ++ rest) = readFrom named' b rest) ∨
      ¬ Proper (gs ++ [g]) ∧ ∃ e, g.Refused e ∧ readFrom named a (g.args ++ rest) = .error e := by
  cases g with
  | file path plain =>
    have read := readFrom_file named a rest plain
    cases named with
    | false => exact .inl ⟨true, _, h.file plain, read⟩
    | true =>
      refine .inr ⟨?_, _, .secondFile, read⟩
      intro proper
      have two := proper.one_file
      simp [files_concat, h.files_eq, Group.file?] at two
  | verbose spelling known =>
    exact .inl ⟨named, _, h.verbose known, readFrom_verbose named a rest known⟩
  | option f spelling value known =>
    have read := readFrom_option named a rest known value
    rcases a.set_cases value f with ⟨accepted, b, set, own, others⟩ | ⟨refused, e, set, refuses⟩
    · rw [set] at read
      exact .inl ⟨named, b, h.option known accepted own others, read⟩
    · rw [set] at read
      exact .inr ⟨not_proper_concat refused, e, .value refuses, read⟩
  | unknown arg dash other =>
    exact .inr ⟨not_proper_concat id, _, .unknown, readFrom_unknown named a rest dash other⟩

theorem run (h : Reading gs named a) (more : List Group) (rest : List Text) :
    (∃ named' b, Reading (gs ++ more) named' b ∧
        readFrom named a (argsOf more ++ rest) = readFrom named' b rest) ∨
      ∃ before g after e, more = before ++ g :: after ∧ Proper (gs ++ before) ∧
        ¬ Proper (gs ++ before ++ [g]) ∧ g.Refused e ∧
        readFrom named a (argsOf more ++ rest) = .error e := by
  induction more generalizing gs named a with
  | nil => exact .inl ⟨named, a, by simpa using h, rfl⟩
  | cons g more ih =>
    rw [argsOf, List.flatMap_cons, List.append_assoc, ← argsOf]
    rcases h.step g (argsOf more ++ rest) with ⟨named', b, next, read⟩ | ⟨improper, e, refused, read⟩
    · rw [read]
      rcases ih next with ⟨named'', c, last, read⟩ | ⟨before, g', after, e, same, proper, rest⟩
      · exact .inl ⟨named'', c, by simpa using last, read⟩
      · refine .inr ⟨g :: before, g', after, e, by rw [same, List.cons_append], ?_⟩
        rw [List.append_assoc gs [g] before] at proper rest
        exact ⟨proper, rest⟩
    · exact .inr ⟨[], g, more, e, rfl, by simpa using h.proper, by simpa using improper, refused,
        read⟩

end Reading

namespace Arguments

/-- Arguments that can be written down: the file does not look like an option, and the numbers are
within their bounds. -/
structure Writable (a : Arguments) : Prop where
  path : a.path.head? ≠ some '-'
  context : ∀ n, a.context = some n → n ≤ Numeral.max64
  batch : ∀ n, a.batch = some n → 1 ≤ n ∧ n ≤ Numeral.max64

def value? (a : Arguments) : Flag → Option Text
  | .filter => a.filter
  | .levels => a.levels.map fun ls => List.intercalate [','] (ls.map Level.name)
  | .earliest => a.earliest
  | .latest => a.latest
  | .context => a.context.map Text.ofNat
  | .search => a.search
  | .batch => a.batch.map Text.ofNat

theorem took_value? (a : Arguments) (f : Flag) : a.Took f (a.value? f) := by
  cases f with
  | filter => rfl
  | earliest => rfl
  | latest => rfl
  | search => rfl
  | levels => exact rel_map (R := fun t => NameLevels (levelTokens t)) nameLevels_joined a.levels
  | context => exact rel_map Numeral.spells_ofNat a.context
  | batch => exact rel_map Numeral.spells_ofNat a.batch

theorem Writable.accepts {a : Arguments} (h : a.Writable) {f : Flag} {v : Text}
    (written : a.value? f = some v) : f.Accepts v := by
  cases f with
  | filter => trivial
  | earliest => trivial
  | latest => trivial
  | search => trivial
  | levels =>
    obtain ⟨ls, -, rfl⟩ := Option.map_eq_some_iff.1 written
    exact fun token => (nameLevels_joined ls).known
  | context =>
    obtain ⟨n, given, rfl⟩ := Option.map_eq_some_iff.1 written
    exact ⟨n, h.context n given, Numeral.spells_ofNat n⟩
  | batch =>
    obtain ⟨n, given, rfl⟩ := Option.map_eq_some_iff.1 written
    exact ⟨n, (h.batch n given).2, (h.batch n given).1, Numeral.spells_ofNat n⟩

structure Spelling where
  flag : Flag → Text
  verbose : Text
  flag_mem : ∀ f, flag f ∈ f.spellings
  verbose_mem : verbose ∈ verboseSpellings

def optionGroups (a : Arguments) (s : Spelling) : List Group :=
  Flag.all.filterMap fun f => (a.value? f).map fun v => .option f (s.flag f) v (s.flag_mem f)

def groups (a : Arguments) (h : a.Writable) (s : Spelling) : List Group :=
  .file a.path h.path :: a.optionGroups s ++
    if a.verbose then [.verbose s.verbose s.verbose_mem] else []

section

variable {a : Arguments} (h : a.Writable) (s : Spelling) {gs : List Group}

theorem exists_of_mem_optionGroups {g : Group} (member : g ∈ a.optionGroups s) :
    ∃ f v, a.value? f = some v ∧ g = .option f (s.flag f) v (s.flag_mem f) := by
  obtain ⟨f, -, written⟩ := List.mem_filterMap.1 member
  obtain ⟨v, value, rfl⟩ := Option.map_eq_some_iff.1 written
  exact ⟨f, v, value, rfl⟩

theorem accepted_of_mem_groups {g : Group} (member : g ∈ a.groups h s) : g.Accepted := by
  rw [groups, List.mem_append, List.mem_cons] at member
  rcases member with (rfl | option) | loud
  · trivial
  · obtain ⟨f, v, value, rfl⟩ := exists_of_mem_optionGroups s option
    exact h.accepts value
  · split at loud
    · cases List.mem_singleton.1 loud
      trivial
    · contradiction

theorem files_groups : files (a.groups h s) = [a.path] := by
  have options : (a.optionGroups s).filterMap Group.file? = [] := by
    rw [List.filterMap_eq_nil_iff]
    intro g member
    obtain ⟨f, v, -, rfl⟩ := exists_of_mem_optionGroups s member
    rfl
  cases verbose : a.verbose <;> simp [files, groups, options, verbose, Group.file?]

theorem any_groups : (a.groups h s).any Group.isVerbose = a.verbose := by
  have options : (a.optionGroups s).any Group.isVerbose = false := by
    rw [List.any_eq_false]
    intro g member
    obtain ⟨f, v, -, rfl⟩ := exists_of_mem_optionGroups s member
    exact Bool.false_ne_true
  cases verbose : a.verbose <;> simp [groups, options, verbose, Group.isVerbose]

theorem values_groups (f : Flag) :
    (a.groups h s).filterMap (Group.value? f) = (a.value? f).toList := by
  have own : ∀ g, ((a.value? g).map fun v => Group.option g (s.flag g) v (s.flag_mem g)).bind
      (Group.value? f) = if g = f then a.value? f else none := by
    intro g
    by_cases same : g = f
    · subst same
      cases a.value? g <;> simp [Group.value?]
    · cases a.value? g <;> simp [Group.value?, same]
  have once : ∀ x : Option Text, Flag.all.filterMap (fun g => if g = f then x else none) =
      x.toList := by
    intro x
    cases f <;> cases x <;> rfl
  have options : (a.optionGroups s).filterMap (Group.value? f) = (a.value? f).toList := by
    rw [optionGroups, List.filterMap_filterMap, ← once]
    simp only [own]
  cases verbose : a.verbose <;>
    simp [groups, options, verbose, List.filterMap_cons, Group.value?]

theorem proper_of_perm (order : gs.Perm (a.groups h s)) : Proper gs where
  accepted g member := accepted_of_mem_groups h s (order.subset member)
  one_file := by
    have same : (files gs).Perm [a.path] := files_groups h s ▸ order.filterMap Group.file?
    simp [same.length_eq]

theorem eq_of_reading (order : gs.Perm (a.groups h s)) {named : Bool} {b : Arguments}
    (reading : Reading gs named b) : named = true ∧ b = a := by
  have file : files gs = [a.path] :=
    List.perm_singleton.1 (files_groups h s ▸ order.filterMap Group.file?)
  have last : ∀ f, lastValue f gs = a.value? f := by
    intro f
    have once : (gs.filterMap (Group.value? f)).Perm (a.value? f).toList :=
      values_groups h s f ▸ order.filterMap (Group.value? f)
    rw [lastValue]
    cases value : a.value? f with
    | none =>
      rw [value] at once
      simp [List.perm_nil.1 once]
    | some v =>
      rw [value] at once
      simp [List.perm_singleton.1 once]
  have named_eq : named = true ∧ a.path = b.path := by
    have same := reading.files_eq
    rw [file] at same
    split at same
    · next named => exact ⟨named, List.singleton_inj.1 same⟩
    · contradiction
  obtain ⟨rfl, path⟩ := named_eq
  refine ⟨rfl, eq_of_took path.symm ?_ fun f => ⟨_, reading.took f, ?_⟩⟩
  · rw [reading.verbose_eq, order.any_eq, any_groups]
  · rw [last]
    exact a.took_value? f

end

end Arguments

inductive Ends : List Text → Prop where
  | here : Ends []
  | missing {f : Flag} {s : Text} (known : s ∈ f.spellings) : Ends [s]
  | help {s : Text} (known : s ∈ helpSpellings) (rest : List Text) : Ends (s :: rest)

theorem exists_groups (args : List Text) : ∃ gs rest, args = argsOf gs ++ rest ∧ Ends rest := by
  induction size : args.length using Nat.strongRecOn generalizing args with
  | ind n ih =>
    subst size
    have more (g : Group) (after : List Text) (same : args = g.args ++ after)
        (shorter : after.length < args.length) : ∃ gs rest, args = argsOf gs ++ rest ∧ Ends rest := by
      obtain ⟨gs, rest, rfl, ends⟩ := ih _ shorter after rfl
      refine ⟨g :: gs, rest, ?_, ends⟩
      rw [same, argsOf, argsOf, List.flatMap_cons, List.append_assoc]
    rcases args with _ | ⟨s, args⟩
    · exact ⟨[], [], rfl, .here⟩
    by_cases word : s ∈ optionWords
    · simp only [optionWords, List.mem_append, List.mem_flatMap] at word
      rcases word with (help | verbose) | ⟨f, -, known⟩
      · exact ⟨[], s :: args, rfl, .help help args⟩
      · exact more (.verbose s verbose) args rfl (by simp)
      · rcases args with _ | ⟨value, args⟩
        · exact ⟨[], [s], rfl, .missing known⟩
        · exact more (.option f s value known) args rfl (by simp)
    · by_cases dash : s.head? = some '-'
      · exact more (.unknown s dash word) args rfl (by simp)
      · exact more (.file s dash) args rfl (by simp)

section

open Arguments

variable {gs : List Group}

theorem read_of_proper (h : Proper gs) (rest : List Text) :
    ∃ named a, Reading gs named a ∧ read (argsOf gs ++ rest) = readFrom named a rest := by
  rcases reading_start.run gs rest with done | ⟨before, g, after, e, rfl, -, improper, -⟩
  · exact done
  · rw [List.append_cons] at h
    exact absurd h.front improper

theorem error_of_not_proper (h : ¬ Proper gs) (rest : List Text) :
    ∃ before g after e, gs = before ++ g :: after ∧ Proper before ∧ ¬ Proper (before ++ [g]) ∧
      g.Refused e ∧ read (argsOf gs ++ rest) = .error e := by
  rcases reading_start.run gs rest with ⟨_, _, reading, -⟩ | refused
  · exact absurd reading.proper h
  · exact refused

/-- Arguments that are written down, in whatever order, are read as they are. Of an option that is
given several times the last value counts. The first group that is refused ends the reading with its
fault, whatever follows; without one before it help is given where it is asked for. And these are
all command lines that there are. -/
theorem command_line_read :
    (∀ (a : Arguments) (h : a.Writable) (s : Spelling) (gs : List Group),
      gs.Perm (a.groups h s) → read (argsOf gs) = .ok (some a)) ∧
    (∀ gs path, Proper gs → files gs = [path] →
      ∃ a, read (argsOf gs) = .ok (some a) ∧ a.path = path ∧
        a.verbose = gs.any Group.isVerbose ∧ ∀ f, a.Took f (lastValue f gs)) ∧
    (∀ gs rest, ¬ Proper gs →
      ∃ before g after e, gs = before ++ g :: after ∧ Proper before ∧ ¬ Proper (before ++ [g]) ∧
        g.Refused e ∧ read (argsOf gs ++ rest) = .error e) ∧
    (∀ gs, Proper gs →
      (∀ help ∈ helpSpellings, ∀ rest, read (argsOf gs ++ help :: rest) = .ok none) ∧
      (∀ f, ∀ s ∈ Flag.spellings f, read (argsOf gs ++ [s]) = .error (.missingValue s)) ∧
      (files gs = [] → read (argsOf gs) = .error .missingFile)) ∧
    ∀ args, ∃ gs rest, args = argsOf gs ++ rest ∧ Ends rest := by
  have whole (gs : List Group) (proper : Proper gs) : ∃ named a, Reading gs named a ∧
      read (argsOf gs) = if named then .ok (some a) else .error .missingFile := by
    obtain ⟨named, a, reading, result⟩ := read_of_proper proper []
    rw [List.append_nil] at result
    exact ⟨named, a, reading, result⟩
  refine ⟨?_, ?_, fun gs rest improper => error_of_not_proper improper rest, ?_, exists_groups⟩
  · intro a h s gs order
    obtain ⟨named, b, reading, result⟩ := whole gs (proper_of_perm h s order)
    obtain ⟨rfl, rfl⟩ := eq_of_reading h s order reading
    exact result
  · intro gs path proper file
    obtain ⟨named, a, reading, result⟩ := whole gs proper
    have same := reading.files_eq
    rw [file] at same
    cases named with
    | false => contradiction
    | true => exact ⟨a, result, (List.singleton_inj.1 same).symm, reading.verbose_eq, reading.took⟩
  · intro gs proper
    refine ⟨fun help known rest => ?_, fun f s known => ?_, fun none => ?_⟩
    · obtain ⟨named, a, -, result⟩ := read_of_proper proper (help :: rest)
      rw [result, readFrom_help named a rest known]
    · obtain ⟨named, a, -, result⟩ := read_of_proper proper [s]
      rw [result, readFrom_missing named a known]
    · obtain ⟨named, a, reading, result⟩ := whole gs proper
      have same := reading.files_eq
      rw [none] at same
      cases named with
      | false => exact result
      | true => contradiction

theorem command_line_read_help_as_value :
    let a : Arguments := {
      path := "a.log".toList
      filter := some "--help".toList
      levels := some [.error, .trace]
      batch := some 5
      verbose := true }
    let twice : List Group := [
      .option .context "-C".toList "7".toList (by decide),
      .file "x".toList (by decide),
      .option .context "--context".toList "+2".toList (by decide)]
    let two : List Group := [.file "a".toList (by decide), .file "b".toList (by decide)]
    read (["-f", "--help", "-v", "a.log", "--batch", "5", "-l", "error,trace"].map String.toList) =
      .ok (some a) ∧
    (∃ b, read (argsOf twice) = .ok (some b) ∧ b.path = "x".toList ∧ b.context = some 2) ∧
    (∃ e, read (argsOf two ++ ["--help".toList]) = .error e) ∧
    read (argsOf twice ++ ["--help".toList, "--bogus".toList]) = .ok none ∧
    read (argsOf twice ++ ["-l".toList]) = .error (.missingValue "-l".toList) ∧
    read (argsOf []) = .error .missingFile := by
  intro a twice two
  obtain ⟨undoes, lasts, refuses, ends, -⟩ := command_line_read
  have writable : a.Writable := ⟨by decide, by rintro _ ⟨⟩, by rintro _ ⟨⟩; decide⟩
  let s : Spelling := {
    flag := fun f => f.spellings.getLastD []
    verbose := "-v".toList
    flag_mem := by intro f; cases f <;> decide
    verbose_mem := by decide }
  let gs : List Group := [
    .option .filter "-f".toList "--help".toList (by decide),
    .verbose "-v".toList (by decide),
    .file "a.log".toList (by decide),
    .option .batch "--batch".toList "5".toList (by decide),
    .option .levels "-l".toList "error,trace".toList (by decide)]
  have order : gs.Perm (a.groups writable s) := of_decide_eq_true rfl
  have number (n : Nat) (t : Text) (read : Numeral.read Numeral.max64 t = .ok n) :
      Flag.context.Accepts t := by
    obtain ⟨spells, small⟩ := Numeral.read_eq_ok_iff.1 read
    exact ⟨n, small, spells⟩
  have proper : Proper twice := by
    refine ⟨?_, by decide⟩
    simp only [twice, List.forall_mem_cons, List.not_mem_nil, false_implies, implies_true, and_true]
    exact ⟨number 7 _ rfl, trivial, number 2 _ rfl⟩
  have improper : ¬ Proper two := fun h => absurd h.one_file (by decide)
  have nothing : Proper [] := ⟨by simp, by decide⟩
  obtain ⟨b, result, path, -, took⟩ := lasts twice "x".toList proper rfl
  obtain ⟨-, -, -, e, -, -, -, -, fault⟩ := refuses two ["--help".toList] improper
  obtain ⟨help, missing, -⟩ := ends twice proper
  have two_spelled : Numeral.Spells "+2".toList 2 :=
    (Numeral.read_eq_ok_iff.1 (rfl : Numeral.read 2 "+2".toList = .ok 2)).1
  have last : Option.Rel Numeral.Spells (some "+2".toList) b.context := took .context
  have context : b.context = some 2 := eq_of_rel last (.some two_spelled) Numeral.Spells.unique
  exact ⟨undoes a writable s gs order, ⟨b, result, path, context⟩, ⟨e, fault⟩, help _ (by decide) _,
    missing .levels _ (by decide), (ends [] nothing).2.2 rfl⟩

end

end Logbook.Cli
