import Mathlib.Data.List.Perm.Basic
import ProgramTags.Proofs.Command.Scanning

/-!
# The order of switches

A `Line` is a command line in words: switches before the command, and switches on both sides of the
program after it. `Line.Asks` says what it asks for by which switches it gives, and not by where:
`Line.exists_asks` finds that in what the words are read as, and a line asks for one thing only
(`Line.Asks.unique`). So lines that differ in the order of their switches are read the same
(`ofArguments_rearranged`).
-/

namespace ProgramTags.Command

open FullSwitch

/-- A command line that needs a program, with all its switches in full. -/
structure Line where
  before : List FullSwitch
  verb : Verb
  left : List FullSwitch
  program : String
  right : List FullSwitch
  takesProgram : verb.grammar.positional = some .program
  plain : IsPlain program
  knownBefore : ∀ o ∈ before, o.switch ∈ mainGrammar.switches
  knownAfter : ∀ o ∈ left ++ right, o.switch ∈ verb.grammar.switches
  agreeBefore : Agree before
  agreeAfter : Agree (left ++ right)

namespace Line

def after (l : Line) : List FullSwitch :=
  l.left ++ l.right

def rest (l : Line) : List String :=
  l.left.flatMap FullSwitch.words ++ l.program :: l.right.flatMap FullSwitch.words

def words (l : Line) : List String :=
  l.before.flatMap FullSwitch.words ++ l.verb.word :: l.rest

/-- The lines have the same switches before the command and after it, the same command and the same
program. -/
structure Rearranges (l l' : Line) : Prop where
  before : l'.before.Perm l.before
  verb : l'.verb = l.verb
  after : l'.after.Perm l.after
  program : l'.program = l.program

/-! ## What a line asks for -/

/-- The program of the line, with what is to be left out and where the settings are. -/
structure IsSource (l : Line) (s : Source) : Prop where
  program : s.program = l.program
  noBodies : s.noBodies = true ↔ Gives l.after .noBodies
  noKeys : s.noKeys = true ↔ Gives l.after .noKeys
  config : ∀ v, s.config = some v ↔ Sets l.after .config v

def IsJob (l : Line) : Job → Prop
  | .toFiles source directory => l.verb = .toFiles ∧ l.IsSource source ∧
    ∀ v, directory = some v ↔ Sets l.after .outputDirectory v
  | .toOutput source classes => l.verb = .toOutput ∧ l.IsSource source ∧
    (classes = .all ↔ ¬Gives l.after .className) ∧
    ∀ v, classes = .named v ↔ Sets l.after .className v
  | .serve _ => False

/-- What the line asks for, by the switches that it gives. -/
structure Asks (l : Line) (i : Invocation) : Prop where
  /-- It is given before the command, after it, or both. -/
  verbose : i.verbose = true ↔ Gives l.before .verbose ∨ Gives l.after .verbose
  logFile : ∀ v, i.logFile = some v ↔ Sets l.before .logFile v
  job : l.IsJob i.job

variable {l l' : Line} {i i' : Invocation}

theorem IsSource.unique {s s' : Source} (h : l.IsSource s) (h' : l.IsSource s') : s = s' := by
  have hprogram : s.program = s'.program := h.program.trans h'.program.symm
  have hbodies : s.noBodies = s'.noBodies := Bool.eq_iff_iff.mpr (h.noBodies.trans h'.noBodies.symm)
  have hkeys : s.noKeys = s'.noKeys := Bool.eq_iff_iff.mpr (h.noKeys.trans h'.noKeys.symm)
  have hconfig : s.config = s'.config := Option.ext fun v => (h.config v).trans (h'.config v).symm
  cases s
  cases s'
  rw [Source.mk.injEq]
  exact ⟨hprogram, hbodies, hkeys, hconfig⟩

theorem IsJob.unique {job job' : Job} (h : l.IsJob job) (h' : l.IsJob job') : job = job' := by
  match job, job' with
  | .toFiles source directory, .toFiles source' directory' =>
    obtain ⟨-, hsource, hdirectory⟩ := h
    obtain ⟨-, hsource', hdirectory'⟩ := h'
    rw [hsource.unique hsource',
      Option.ext fun v => (hdirectory v).trans (hdirectory' v).symm]
  | .toOutput source classes, .toOutput source' classes' =>
    obtain ⟨-, hsource, hall, hnamed⟩ := h
    obtain ⟨-, hsource', hall', hnamed'⟩ := h'
    have hclasses : classes = classes' := by
      cases classes with
      | all => exact (hall'.mpr (hall.mp rfl)).symm
      | named v => exact ((hnamed' v).mpr ((hnamed v).mp rfl)).symm
      | unnamed =>
        cases classes' with
        | all => exact hall.mpr (hall'.mp rfl)
        | named v => exact (hnamed v).mpr ((hnamed' v).mp rfl)
        | unnamed => rfl
    rw [hsource.unique hsource', hclasses]
  | .toFiles .., .toOutput .. => exact absurd (h.1.symm.trans h'.1) nofun
  | .toOutput .., .toFiles .. => exact absurd (h.1.symm.trans h'.1) nofun
  | .serve _, _ => exact h.elim
  | _, .serve _ => exact h'.elim

/-- A line asks for one thing only. -/
theorem Asks.unique (h : l.Asks i) (h' : l.Asks i') : i = i' := by
  have hverbose : i.verbose = i'.verbose := Bool.eq_iff_iff.mpr (h.verbose.trans h'.verbose.symm)
  have hlog : i.logFile = i'.logFile :=
    Option.ext fun v => (h.logFile v).trans (h'.logFile v).symm
  have hjob := h.job.unique h'.job
  cases i
  cases i'
  rw [Invocation.mk.injEq]
  exact ⟨hverbose, hlog, hjob⟩

theorem gives_congr {os us : List FullSwitch} (h : os.Perm us) (s : Switch) :
    Gives os s ↔ Gives us s :=
  exists_congr fun _ => and_congr_left fun _ => h.mem_iff

theorem sets_congr {os us : List FullSwitch} (h : os.Perm us) (s : Switch) (v : String) :
    Sets os s v ↔ Sets us s v :=
  exists_congr fun _ => and_congr_left fun _ => h.mem_iff

/-- What a line asks for does not depend on the order of its switches. -/
theorem Rearranges.asks (h : l.Rearranges l') (hasks : l'.Asks i) : l.Asks i := by
  have hgives := gives_congr h.after
  have hsets := sets_congr h.after
  have hsource : ∀ s, l'.IsSource s → l.IsSource s := fun s hs =>
    ⟨hs.program.trans h.program, hs.noBodies.trans (hgives _), hs.noKeys.trans (hgives _),
      fun v => (hs.config v).trans (hsets _ v)⟩
  refine ⟨hasks.verbose.trans (or_congr (gives_congr h.before _) (hgives _)),
    fun v => (hasks.logFile v).trans (sets_congr h.before _ v), ?_⟩
  have hjob := hasks.job
  match hi : i.job with
  | .toFiles source directory =>
    rw [hi] at hjob
    obtain ⟨hverb, hs, hdirectory⟩ := hjob
    exact ⟨h.verb.symm.trans hverb, hsource _ hs, fun v => (hdirectory v).trans (hsets _ v)⟩
  | .toOutput source classes =>
    rw [hi] at hjob
    obtain ⟨hverb, hs, hall, hnamed⟩ := hjob
    exact ⟨h.verb.symm.trans hverb, hsource _ hs, hall.trans (not_congr (hgives _)),
      fun v => (hnamed v).trans (hsets _ v)⟩
  | .serve address =>
    rw [hi] at hjob
    exact hjob

/-! ## What the words are read as -/

theorem portNumber_notMem_grammar {v : Verb} (h : v.grammar.positional = some .program) :
    .portNumber ∉ v.grammar.switches := by
  revert h
  cases v <;> decide

theorem ne_portNumber (l : Line) : ∀ o ∈ l.after, o.switch ≠ .portNumber := by
  intro o ho heq
  exact portNumber_notMem_grammar l.takesProgram (heq ▸ l.knownAfter o ho)

theorem separator_notMem_rest (l : Line) : separator ∉ l.rest := by
  rw [rest, List.mem_append, List.mem_cons]
  rintro (h | h | h)
  · exact separator_notMem_words _ h
  · exact l.plain (h ▸ rfl)
  · exact separator_notMem_words _ h

theorem separator_notMem_words (l : Line) : separator ∉ l.words := by
  rw [words, List.mem_append, List.mem_cons]
  rintro (h | h | h)
  · exact FullSwitch.separator_notMem_words _ h
  · revert h
    cases l.verb <;> decide
  · exact l.separator_notMem_rest h

/-- The words after the command can be read before the command is known, whatever they then mean. -/
theorem exists_readWord_rest (l : Line) :
    ∀ word ∈ l.rest, ∃ w, readWord mainGrammar word = .ok w := by
  have hnames : ∀ s : Switch, ∀ name ∈ s.names,
      (readWord mainGrammar name).toOption.isSome = true := by
    intro s
    cases s <;> decide +kernel
  have hwords : ∀ os : List FullSwitch, ∀ word ∈ os.flatMap FullSwitch.words,
      ∃ w, readWord mainGrammar word = .ok w := by
    intro os word hword
    obtain ⟨o, -, ho⟩ := List.mem_flatMap.mp hword
    rcases List.mem_cons.mp ho with rfl | hvalue
    · obtain ⟨w, hw⟩ := Option.isSome_iff_exists.mp (hnames o.switch _ o.named)
      exact ⟨w, Except.eq_ok_of_toOption hw⟩
    · exact ⟨_, readWord_of_isPlain (o.plain word (Option.mem_toList.mp hvalue))⟩
  rw [rest, List.forall_mem_append, List.forall_mem_cons]
  exact ⟨hwords _, ⟨_, readWord_of_isPlain l.plain⟩, hwords _⟩

theorem verb_isPlain (v : Verb) : IsPlain v.word := by
  cases v <;> decide

/-- The command and the words after it are kept as they are. -/
theorem exists_mapM_words (l : Line) : ∃ ws, ws.map Word.text = l.rest ∧
    l.words.mapM (readWord mainGrammar) =
      .ok (l.before.flatMap meaning ++ .plain l.verb.word :: ws) := by
  obtain ⟨ws, hws, htexts⟩ := exists_mapM_readWord l.exists_readWord_rest
  refine ⟨ws, htexts, mapM_append_eq_ok
    (mapM_flatMap_words ⟨mainGrammar_names_nodup, l.knownBefore⟩) ?_⟩
  rw [List.mapM_cons, readWord_of_isPlain (verb_isPlain l.verb), hws]
  rfl

theorem before_ne_portNumber (l : Line) : ∀ o ∈ l.before, o.switch ≠ .portNumber := by
  have hnot : .portNumber ∉ mainGrammar.switches := by decide
  exact fun o ho heq => hnot (heq ▸ l.knownBefore o ho)

theorem read_words (l : Line) (hhelp : ¬Gives l.before .help) :
    Scan.read mainGrammar l.words = .ok
      { given := l.before.map pair, positional := l.verb.word :: l.rest, justPlaced := true } := by
  obtain ⟨ws, htexts, hws⟩ := l.exists_mapM_words
  refine Scan.read_eq_ok l.separator_notMem_words hws ?_ rfl (List.cons_ne_nil _ _)
  rw [List.foldlM_append,
    Scan.foldlM_step_switches ⟨rfl, rfl⟩ l.before_ne_portNumber hhelp, Except.ok_bind,
    List.foldlM_cons, Scan.step_plain ⟨rfl, rfl⟩ rfl, Except.ok_bind,
    Scan.foldlM_step_handsOver rfl, htexts]
  rfl

theorem read_words_help (l : Line) (hhelp : Gives l.before .help) :
    Scan.read mainGrammar l.words = .error (.help programName) := by
  obtain ⟨ws, -, hws⟩ := l.exists_mapM_words
  refine Scan.read_eq_error l.separator_notMem_words hws ?_
  rw [List.foldlM_append, Scan.foldlM_step_help ⟨rfl, rfl⟩ l.before_ne_portNumber hhelp]
  rfl

theorem mapM_rest (l : Line) : l.rest.mapM (readWord l.verb.grammar) =
    .ok (l.left.flatMap meaning ++ .plain l.program :: l.right.flatMap meaning) := by
  have hnames := l.verb.grammar_names_nodup
  obtain ⟨hleft, hright⟩ := List.forall_mem_append.mp l.knownAfter
  refine mapM_append_eq_ok (mapM_flatMap_words ⟨hnames, hleft⟩) ?_
  rw [List.mapM_cons, readWord_of_isPlain l.plain, mapM_flatMap_words ⟨hnames, hright⟩]
  rfl

/-- A grammar with a program does not hand over to another. -/
theorem takes_of_idle (l : Line) {s : Scan} (hidle : s.awaiting = none) :
    Scan.Takes l.verb.grammar s where
  idle := hidle
  keeps := by
    rw [Scan.handsOver, l.takesProgram]
    rfl

theorem wantsPositional_of_isEmpty (l : Line) {s : Scan} (hplace : s.positional.isEmpty = true) :
    Scan.wantsPositional l.verb.grammar s = true := by
  rw [Scan.wantsPositional, l.takesProgram, hplace]
  rfl

theorem read_rest (l : Line) (hhelp : ¬Gives l.after .help) :
    Scan.read l.verb.grammar l.rest = .ok
      { given := l.after.map pair, positional := [l.program], justPlaced := l.right.isEmpty } := by
  obtain ⟨hleft, hright⟩ := List.forall_mem_append.mp l.ne_portNumber
  have hhelp : ¬Gives l.left .help ∧ ¬Gives l.right .help := by
    simpa [Gives, after, or_imp, forall_and] using hhelp
  refine Scan.read_eq_ok l.separator_notMem_rest l.mapM_rest ?_ rfl (List.cons_ne_nil _ _)
  rw [List.foldlM_append, Scan.foldlM_step_switches (l.takes_of_idle rfl) hleft hhelp.1,
    Except.ok_bind, List.foldlM_cons,
    Scan.step_plain (l.takes_of_idle rfl) (l.wantsPositional_of_isEmpty rfl), Except.ok_bind,
    Scan.foldlM_step_switches (l.takes_of_idle rfl) hright hhelp.2]
  simp [Scan.take, after]

theorem read_rest_help (l : Line) (hhelp : Gives l.after .help) :
    Scan.read l.verb.grammar l.rest = .error (.help l.verb.grammar.speaker) := by
  obtain ⟨hleft, hright⟩ := List.forall_mem_append.mp l.ne_portNumber
  refine Scan.read_eq_error l.separator_notMem_rest l.mapM_rest ?_
  rw [List.foldlM_append]
  by_cases hfirst : Gives l.left .help
  · rw [Scan.foldlM_step_help (l.takes_of_idle rfl) hleft hfirst]
    rfl
  · have hlater : Gives l.right .help := by
      obtain ⟨o, ho, hswitch⟩ := hhelp
      rcases List.mem_append.mp ho with ho | ho
      · exact absurd ⟨o, ho, hswitch⟩ hfirst
      · exact ⟨o, ho, hswitch⟩
    rw [Scan.foldlM_step_switches (l.takes_of_idle rfl) hleft hfirst, Except.ok_bind,
      List.foldlM_cons, Scan.step_plain (l.takes_of_idle rfl) (l.wantsPositional_of_isEmpty rfl),
      Except.ok_bind, Scan.foldlM_step_help (l.takes_of_idle rfl) hright hlater]

/-! ## Lines and their invocations -/

theorem selection_asked {s : Scan} {os : List FullSwitch} (hgiven : s.given = os.map pair)
    (hagree : Agree os) : (s.selection = .all ↔ ¬Gives os .className) ∧
      ∀ v, s.selection = .named v ↔ Sets os .className v := by
  have hvalue : ∀ v, s.value? .className = some v ↔ Sets os .className v :=
    fun v => Scan.value?_eq_some_iff hgiven hagree
  rw [← Scan.has_iff hgiven]
  unfold Scan.selection
  cases hclass : s.value? .className with
  | none =>
    have hnone : ∀ v, ¬Sets os .className v := fun v hv => by
      rw [← hvalue, hclass] at hv
      cases hv
    cases s.has .className <;> simp [hnone]
  | some name =>
    obtain ⟨o, ho, hswitch, -⟩ := (hvalue name).mp hclass
    have hhas : s.has .className = true := (Scan.has_iff hgiven).mpr ⟨o, ho, hswitch⟩
    simp [hhas, ← hvalue, hclass]

/-- A flag that the command lowers is up only if it is given to the command. -/
theorem isUp_lowered {g : Grammar} {s : Scan} {os : List FullSwitch} {flag : Switch}
    (hgiven : s.given = os.map pair) (hlowered : flag ∈ g.lowered) (outer : Flags) :
    ((s.flags g).overlay outer).isUp flag = true ↔ Gives os flag := by
  rw [← Scan.has_iff hgiven, Flags.isUp, Flags.overlay, Scan.flags]
  cases s.has flag <;> simp [hlowered]

/-- A flag that has no default with the command is up if it is given to either. -/
theorem isUp_suppressed {g : Grammar} {s t : Scan} {os us : List FullSwitch} {flag : Switch}
    (hs : s.given = os.map pair) (ht : t.given = us.map pair) (hsuppressed : flag ∉ g.lowered)
    (outer : Grammar) : ((t.flags g).overlay (s.flags outer)).isUp flag = true ↔
      Gives os flag ∨ Gives us flag := by
  rw [← Scan.has_iff hs, ← Scan.has_iff ht, Flags.isUp, Flags.overlay, Scan.flags, Scan.flags]
  cases s.has flag <;> cases t.has flag <;> by_cases hflag : flag ∈ outer.lowered <;>
    simp [hsuppressed, hflag]

theorem isJob_job (l : Line) {s : Scan} (hgiven : s.given = l.after.map pair)
    (hplaced : s.positional = [l.program]) (outer : Flags) :
    l.IsJob (s.job ((s.flags l.verb.grammar).overlay outer) l.verb) := by
  have hvalue : ∀ sw v, s.value? sw = some v ↔ Sets l.after sw v :=
    fun sw v => Scan.value?_eq_some_iff hgiven l.agreeAfter
  have htakes := l.takesProgram
  have hlowered : .noBodies ∈ l.verb.grammar.lowered ∧ .noKeys ∈ l.verb.grammar.lowered := by
    cases hverb : l.verb with
    | serve =>
      rw [hverb] at htakes
      cases htakes
    | _ => decide
  have hsource : l.IsSource (s.source ((s.flags l.verb.grammar).overlay outer)) :=
    ⟨by rw [Scan.source, hplaced]; rfl, isUp_lowered hgiven hlowered.1 outer,
      isUp_lowered hgiven hlowered.2 outer, hvalue _⟩
  generalize (s.flags l.verb.grammar).overlay outer = flags at hsource ⊢
  cases hverb : l.verb with
  | toFiles => exact ⟨hverb, hsource, hvalue _⟩
  | toOutput => exact ⟨hverb, hsource, selection_asked hgiven l.agreeAfter⟩
  | serve =>
    rw [hverb] at htakes
    cases htakes

theorem ofArguments_words (l : Line) (hbefore : ¬Gives l.before .help)
    (hafter : ¬Gives l.after .help) :
    ∃ s t : Scan, s.given = l.before.map pair ∧ t.given = l.after.map pair ∧
      t.positional = [l.program] ∧
      let flags := (t.flags l.verb.grammar).overlay (s.flags mainGrammar)
      Invocation.ofArguments l.words = .ok
        { verbose := flags.isUp .verbose
          logFile := s.value? .logFile
          job := t.job flags l.verb } := by
  refine ⟨{ given := l.before.map pair, positional := l.verb.word :: l.rest, justPlaced := true },
    { given := l.after.map pair, positional := [l.program], justPlaced := l.right.isEmpty },
    rfl, rfl, rfl, ?_⟩
  unfold Invocation.ofArguments
  rw [l.read_words hbefore, Except.ok_bind]
  simp only [List.headD_cons, Verb.ofWord?_word, List.tail_cons, l.read_rest hafter]
  rfl

/-- A line without a wish for help is read as something that it asks for. -/
theorem exists_asks (l : Line) (hbefore : ¬Gives l.before .help) (hafter : ¬Gives l.after .help) :
    ∃ i, Invocation.ofArguments l.words = .ok i ∧ l.Asks i := by
  obtain ⟨s, t, hs, ht, hplaced, hread⟩ := l.ofArguments_words hbefore hafter
  have hsuppressed : .verbose ∉ l.verb.grammar.lowered := by
    cases l.verb <;> decide
  exact ⟨_, hread, isUp_suppressed hs ht hsuppressed mainGrammar,
    fun v => Scan.value?_eq_some_iff hs l.agreeBefore, l.isJob_job ht hplaced _⟩

theorem ofArguments_help_before (l : Line) (hhelp : Gives l.before .help) :
    Invocation.ofArguments l.words = .error (.help programName) := by
  unfold Invocation.ofArguments
  rw [l.read_words_help hhelp]
  rfl

theorem ofArguments_help_after (l : Line) (hbefore : ¬Gives l.before .help)
    (hafter : Gives l.after .help) :
    Invocation.ofArguments l.words = .error (.help l.verb.grammar.speaker) := by
  unfold Invocation.ofArguments
  rw [l.read_words hbefore, Except.ok_bind]
  simp only [List.headD_cons, Verb.ofWord?_word, List.tail_cons, l.read_rest_help hafter]
  rfl

end Line

open Line

/-- The order of the switches before the command, and of the switches and the program after it,
makes no difference. Where no switch asks for help, the line asks for what its switches say: it is
verbose if one before the command or one after it says so. -/
theorem ofArguments_rearranged {l l' : Line} (h : l.Rearranges l') :
    Invocation.ofArguments l'.words = Invocation.ofArguments l.words ∧
    (¬Gives l.before .help → ¬Gives l.after .help →
      ∃ i, Invocation.ofArguments l.words = .ok i ∧ l.Asks i) := by
  refine ⟨?_, l.exists_asks⟩
  have hbefore := gives_congr h.before .help
  have hafter := gives_congr h.after .help
  by_cases hb : Gives l.before .help
  · rw [l.ofArguments_help_before hb, l'.ofArguments_help_before (hbefore.mpr hb)]
  have hb' := mt hbefore.mp hb
  by_cases ha : Gives l.after .help
  · rw [l.ofArguments_help_after hb ha, l'.ofArguments_help_after hb' (hafter.mpr ha), h.verb]
  obtain ⟨i, hi, hasks⟩ := l.exists_asks hb ha
  obtain ⟨i', hi', hasks'⟩ := l'.exists_asks hb' (mt hafter.mp ha)
  rw [hi, hi', (h.asks hasks').unique hasks]

/-- A flag before the command holds although the command has the same flag and does not get it, and
the program changes places with a value and a flag. -/
theorem ofArguments_rearranged_moved :
    let verbose : FullSwitch := ⟨.verbose, "-v", none, by decide, rfl, nofun⟩
    let log : FullSwitch := ⟨.logFile, "--log-file", some "print", by decide, rfl, by decide⟩
    let noKeys : FullSwitch := ⟨.noKeys, "--no-keys", none, by decide, rfl, nofun⟩
    let className : FullSwitch := ⟨.className, "--class", some "A B", by decide, rfl, by decide⟩
    let l : Line := ⟨[verbose, log], .toOutput, [className], "p.yml", [noKeys], rfl, by decide,
      by decide, by decide, agree_of_nodup (by decide), agree_of_nodup (by decide)⟩
    let l' : Line := ⟨[log, verbose], .toOutput, [], "p.yml", [noKeys, className], rfl, by decide,
      by decide, by decide, agree_of_nodup (by decide), agree_of_nodup (by decide)⟩
    l.words = ["-v", "--log-file", "print", "print", "--class", "A B", "p.yml", "--no-keys"] ∧
    l'.words = ["--log-file", "print", "-v", "print", "p.yml", "--no-keys", "--class", "A B"] ∧
    l.Rearranges l' ∧ Invocation.ofArguments l'.words = Invocation.ofArguments l.words ∧
    ∃ i, Invocation.ofArguments l.words = .ok i ∧ l.Asks i ∧ i.verbose = true := by
  intro verbose log noKeys className l l'
  have hmoved : l.Rearranges l' := ⟨.swap .., rfl, .swap .., rfl⟩
  have hhelp : ¬Gives l.before .help ∧ ¬Gives l.after .help := by decide
  obtain ⟨hsame, hasked⟩ := ofArguments_rearranged hmoved
  obtain ⟨i, hi, hasks⟩ := hasked hhelp.1 hhelp.2
  have hverbose : i.verbose = true := hasks.verbose.mpr (.inl ⟨verbose, .head _, rfl⟩)
  exact ⟨rfl, rfl, hmoved, hsame, i, hi, hasks, hverbose⟩

end ProgramTags.Command
