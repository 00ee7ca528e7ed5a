import ProgramTags.Proofs.Export.Run

/-!
# Blocks of work

Work on a class is a block, and blocks may be nested. The journal knows one current name, and every
block that is open keeps the name that it has found. `BlockEvent.namesAfter?` keeps the names of all
open blocks instead, as a stack. `Nested.meetAll_follows` says that the journal agrees with it in
the course of any events, however work and exports end, and that every message is told under the
name that is due: under that of its own class if it comes from gathering, and otherwise under that
of the innermost block.
-/

namespace ProgramTags

/-- A message with the class that is current when it is told. -/
structure Told where
  message : Message
  name : Option String

def Told.onConsole (j : Journal) (time : String) (told : Told) : String :=
  let lines := { j with current := told.name }.lines time told.message
  String.join (lines.filterMap fun (sink, line) => if sink = .console then some line else none)

namespace Session

/-- From `s` to `t` the messages are told, each under its name. Besides, the current class may
change, and files may be made or written. -/
inductive Course (s : Session) : List Told → Session → Prop
  | start : Course s [] s
  | tell {told : List Told} {t : Session} (h : Course s told t) (m : Message) :
      Course s (told ++ [⟨m, t.journal.current⟩]) (t.tell m)
  | name {told : List Told} {t : Session} (h : Course s told t) (name : Option String) :
      Course s told { t with journal := { t.journal with current := name } }
  | files {told : List Told} {t : Session} (h : Course s told t) (files : FileSystem) :
      Course s told { t with files }

theorem console_tell (s : Session) (m : Message) :
    (s.tell m).console = s.console ++ Told.onConsole s.journal s.time ⟨m, s.journal.current⟩ := by
  unfold tell Told.onConsole
  generalize s.journal.lines s.time m = lines
  induction lines generalizing s with
  | nil => simp
  | cons line lines ih =>
    obtain ⟨sink, text⟩ := line
    rw [List.foldl_cons, ih]
    cases sink with
    | console => simp [deliver, String.append_assoc]
    | file loc => simp [deliver]

theorem time_tell (s : Session) (m : Message) : (s.tell m).time = s.time := by
  unfold tell
  generalize s.journal.lines s.time m = lines
  induction lines generalizing s with
  | nil => rfl
  | cons line lines ih =>
    obtain ⟨sink, text⟩ := line
    rw [List.foldl_cons, ih]
    cases sink <;> rfl

namespace Course

variable {s t u : Session} {told told' : List Told}

theorem trans (h : Course s told t) (h' : Course t told' u) : Course s (told ++ told') u := by
  induction h' with
  | start => rwa [List.append_nil]
  | tell _ m ih => rw [← List.append_assoc]; exact ih.tell m
  | name _ name ih => exact ih.name name
  | files _ files ih => exact ih.files files

/-- How the journal is kept does not change. -/
theorem journal_eq (h : Course s told t) :
    t.journal = { s.journal with current := t.journal.current } ∧ t.time = s.time := by
  induction h with
  | start => exact ⟨rfl, rfl⟩
  | tell _ m ih => rw [journal_tell, time_tell]; exact ih
  | name _ name ih =>
    refine ⟨?_, ih.2⟩
    conv_lhs => rw [ih.1]
  | files _ files ih => exact ih

/-- What the console gets is what it gets of each message, one after the other. -/
theorem console_eq (h : Course s told t) :
    t.console = s.console ++ String.join (told.map (Told.onConsole s.journal s.time)) := by
  induction h with
  | start => simp
  | @tell told t h m ih =>
    obtain ⟨hjournal, htime⟩ := h.journal_eq
    rw [console_tell, ih, htime, hjournal]
    simp [Told.onConsole, String.append_assoc]
  | name _ name ih => exact ih
  | files _ files ih => exact ih

end Course

/-- From `s` to `t` messages are told with the property, which may depend on the current name, and
this name is the same before and after. -/
def Tags (P : Option String → Told → Prop) (s t : Session) : Prop :=
  t.journal.current = s.journal.current ∧
    ∃ told, Course s told t ∧ ∀ m ∈ told, P s.journal.current m

instance {P : Option String → Told → Prop} : IsPreorder Session (Tags P) where
  refl _ := ⟨rfl, [], .start, nofun⟩
  trans s t u := by
    rintro ⟨hcurrent, told, h, hP⟩ ⟨hcurrent', told', h', hP'⟩
    rw [hcurrent] at hcurrent' hP'
    refine ⟨hcurrent', told ++ told', h.trans h', fun m hm => ?_⟩
    exact (List.mem_append.mp hm).elim (hP m) (hP' m)

end Session

open Session (Course Tags)

/-! ## Work that tells -/

namespace Work

variable {ε δ α : Type} {P : Option String → Told → Prop}

theorem tell_tags {m : Message} (h : ∀ name, P name ⟨m, name⟩) :
    Moves (Tags P) (tell m : Work ε Unit) := by
  refine Moves.modify fun s => ⟨?_, [⟨m, s.journal.current⟩], Course.start.tell m, ?_⟩
  · rw [Session.journal_tell]
  · intro told htold
    rw [List.mem_singleton.mp htold]
    exact h s.journal.current

theorem onFiles_tags (wrap : FileError → ε) (act : Files α) :
    Moves (Tags P) (onFiles wrap act) := by
  intro s
  have hfiles : ∀ files, Tags P s { s with files } :=
    fun files => ⟨rfl, [], Course.start.files files, nofun⟩
  exact onFiles_ends ((Ends.trivial act s.files).mono (fun _ files _ => hfiles files)
    fun _ files _ => hfiles files)

theorem ofExcept_tags (f : δ → ε) (x : Except δ α) : Moves (Tags P) (ofExcept f x) :=
  fun s => ofExcept_ends (fun _ _ => refl s) fun _ _ => refl s

/-- What is told in a block is told in the block's name, or in that of a block in it. -/
theorem inClass_tags {Q : Option String → Told → Prop} {name : String} {act : Work ε α}
    (h : Moves (Tags P) act) (hPQ : ∀ outer told, P (some name) told → Q outer told) :
    Moves (Tags Q) (inClass name act) := by
  intro s
  have hleave : ∀ t, Tags P { s with journal := (s.journal.enter name).2 } t →
      Tags Q s { t with journal := t.journal.leave s.journal.current } := by
    rintro t ⟨-, told, hcourse, hP⟩
    have henter := Course.trans (Course.start.name (some name)) hcourse
    exact ⟨rfl, told, henter.name s.journal.current, fun m hm => hPQ _ _ (hP m hm)⟩
  exact inClass_ends ((h _).mono (fun _ t ht => hleave t ht) fun _ t ht => hleave t ht)

end Work

namespace Export

variable {P : Option String → Told → Prop}

theorem gather_tags (start : Collection) (g : Gather Unit) : Moves (Tags P) (gather start g) := by
  refine fun s => (gather_ends start g s).mono ?_ ?_ <;>
  · rintro _ _ ⟨rfl, -⟩
    exact refl _

/-- Whatever gathering from a class tells is told in the name of the class. -/
theorem collect_tags (settings : CollectSettings) (c : ProgramClass) :
    Moves (Tags fun _ told => told.message.part = "collector" ∧ told.name = some c.name)
      (collect settings c) := by
  refine Work.inClass_tags (P := fun name told => told.message.part = "collector" ∧
    told.name = name) ?_ fun _ _ h => h
  refine (gather_tags _ _).bind fun found => ?_
  refine (Work.tell_tags fun name => ⟨rfl, rfl⟩).bind fun _ => ?_
  split
  · exact gather_tags _ _
  · exact Moves.pure found

/-- What an export tells itself is told in the name that is current around it, and the rest in that
of a class. -/
def TellsOf (p : Program) (outer : Option String) (told : Told) : Prop :=
  (told.message.part = "exporter" ∧ told.name = outer) ∨
    ∃ c ∈ p.classes, told.message.part = "collector" ∧ told.name = some c.name

variable {p : Program}

theorem tell_tags (level : Level) (text : String) : Moves (Tags (TellsOf p)) (tell level text) :=
  Work.tell_tags fun _ => .inl ⟨rfl, rfl⟩

theorem writeDocument_tags (path : Path) (found : Collection) :
    Moves (Tags P) (writeDocument path found) := by
  refine (Work.onFiles_tags _ _).bind fun loc => (Work.onFiles_tags _ _).bind fun _ => ?_
  split
  · exact Moves.pure ()
  · exact Moves.throw _

theorem programClass_tags (settings : CollectSettings) (skipEmpty : Bool) (directory : Path)
    {c : ProgramClass} (hc : c ∈ p.classes) :
    Moves (Tags (TellsOf p)) (programClass settings skipEmpty directory c) := by
  have hcollect : Moves (Tags (TellsOf p)) (collect settings c) :=
    (collect_tags settings c).mono fun s t ⟨hcurrent, told, hcourse, hown⟩ =>
      ⟨hcurrent, told, hcourse, fun m hm => .inr ⟨c, hc, hown m hm⟩⟩
  refine hcollect.bind fun found => ?_
  split
  · exact (tell_tags _ _).bind fun _ => Moves.pure _
  · refine Moves.get_bind fun s => (Work.ofExcept_tags _ _).bind fun path => ?_
    refine (Work.onFiles_tags _ _).bind fun _ => (writeDocument_tags path found).bind fun _ => ?_
    exact (tell_tags _ _).bind fun _ => Moves.pure _

theorem program_tags (settings : CollectSettings) (skipEmpty : Bool) (directory : Path)
    (p : Program) : Moves (Tags (TellsOf p)) (program settings skipEmpty directory p) := by
  refine Moves.bind ?_ fun outcomes => (tell_tags _ _).bind fun _ => Moves.pure outcomes
  suffices h : ∀ classes : List ProgramClass, (∀ c ∈ classes, c ∈ p.classes) →
      Moves (Tags (TellsOf p)) (classes.mapM (programClass settings skipEmpty directory)) from
    h p.classes fun _ => id
  intro classes
  induction classes with
  | nil => exact fun _ => Moves.pure []
  | cons c classes ih =>
    intro hclasses
    obtain ⟨hc, hrest⟩ := List.forall_mem_cons.mp hclasses
    rw [List.mapM_cons]
    exact (programClass_tags settings skipEmpty directory hc).bind fun o =>
      (ih hrest).bind fun os => Moves.pure (o :: os)

end Export

/-! ## Events -/

/-- What happens while classes are worked on. Blocks are left in the same way whether the work in
them succeeds or fails, and gathering and exports may fail, too. -/
inductive BlockEvent where
  | enter (name : String)
  | leave
  | collect (settings : CollectSettings) (c : ProgramClass)
  | exportAll (settings : CollectSettings) (skipEmpty : Bool) (directory : Path) (p : Program)
  | tell (m : Message)

namespace BlockEvent

/-- The names of the open blocks after the event, the innermost first. -/
def names? (names : List String) : BlockEvent → Option (List String)
  | .enter name => some (name :: names)
  | .leave =>
    match names with
    | [] => none
    | _ :: outer => some outer
  | _ => some names

/-- The names of the open blocks after the events. There are none if more are left than entered. -/
def namesAfter? (names : List String) (events : List BlockEvent) : Option (List String) :=
  events.foldlM names? names

/-- The name that is due: that of the innermost block if one is open. -/
def innermost (outside : Option String) : List String → Option String
  | [] => outside
  | name :: _ => some name

/-- What the event tells, where the current name is `outer` before it. -/
def Tells (outer : Option String) (told : List Told) : BlockEvent → Prop
  | .enter _ | .leave => told = []
  | .collect _ c => ∀ m ∈ told, m.name = some c.name
  | .exportAll _ _ _ p => ∀ m ∈ told, Export.TellsOf p outer m
  | .tell m => told = [⟨m, outer⟩]

/-- What the events tell, one after the other, each under the names that are due. -/
def TellAll (outside : Option String) :
    List String → List BlockEvent → List Told → Prop
  | _, [], told => told = []
  | names, e :: events, told =>
    ∃ own later names', told = own ++ later ∧ e.Tells (innermost outside names) own ∧
      e.names? names = some names' ∧ TellAll outside names' events later

end BlockEvent

/-- A session with what each open block has kept, the innermost first. -/
structure Nested where
  session : Session
  kept : List (Option String)

namespace Nested

open BlockEvent

/-- What becomes of it by the event, if there is a block where one is left. -/
def meet (b : Nested) : BlockEvent → Option Nested
  | .enter name =>
    let (outer, inside) := b.session.journal.enter name
    some ⟨{ b.session with journal := inside }, outer :: b.kept⟩
  | .leave =>
    match b.kept with
    | [] => none
    | outer :: kept =>
      some ⟨{ b.session with journal := b.session.journal.leave outer }, kept⟩
  | .collect settings c =>
    some { b with session := (Export.collect settings c).after b.session }
  | .exportAll settings skipEmpty directory p =>
    some { b with session := (Export.program settings skipEmpty directory p).after b.session }
  | .tell m => some { b with session := b.session.tell m }

def meetAll (b : Nested) (events : List BlockEvent) : Option Nested :=
  events.foldlM meet b

/-- Does the work in a block: enters it, does the work and leaves it. -/
def within {ε α : Type} (b : Nested) (name : String) (act : Work ε α) : Option Nested := do
  let inside ← b.meet (.enter name)
  { inside with session := act.after inside.session }.meet .leave

/-- Work on a class is done in a block, whether it succeeds or fails. -/
theorem within_eq {ε α : Type} (b : Nested) (name : String) (act : Work ε α) :
    b.within name act = some { b with session := (Work.inClass name act).after b.session } := by
  unfold within meet Work.after Work.inClass
  simp only [Journal.enter, Option.bind_eq_bind, Option.bind_some]
  split <;> rfl

/-- The current name and those that are kept are the names of the open blocks, and then what there
was at first: the name that is current outside of them, and what had been kept. -/
def Follows (b : Nested) (names : List String) (first : Nested) : Prop :=
  b.session.journal.current :: b.kept =
    names.map some ++ first.session.journal.current :: first.kept

variable {b first : Nested} {names names' : List String}

theorem Follows.current_eq (h : b.Follows names first) :
    b.session.journal.current = innermost first.session.journal.current names := by
  cases names with
  | nil => exact (List.cons.inj h).1
  | cons name names => exact (List.cons.inj h).1

/-- As long as no block is left that is not open, every event goes through, and the journal keeps
following the names of the open blocks. -/
theorem Follows.meet (h : b.Follows names first) {e : BlockEvent}
    (hnames : e.names? names = some names') :
    ∃ b', b.meet e = some b' ∧ b'.Follows names' first ∧ ∃ told,
      Course b.session told b'.session ∧
        e.Tells (innermost first.session.journal.current names) told := by
  have hcurrent := h.current_eq
  cases e with
  | enter name =>
    cases hnames
    refine ⟨_, rfl, ?_, [], Course.start.name (some name), rfl⟩
    exact congrArg (some name :: ·) h
  | leave =>
    cases names with
    | nil => cases hnames
    | cons name outer =>
      cases hnames
      have hkept : b.kept = names'.map some ++ first.session.journal.current :: first.kept :=
        (List.cons.inj h).2
      cases hcase : b.kept with
      | nil => simp [hcase] at hkept
      | cons found kept =>
        refine ⟨_, by rw [Nested.meet, hcase], ?_, [], Course.start.name found, rfl⟩
        rw [hcase] at hkept
        exact hkept
  | collect settings c =>
    cases hnames
    obtain ⟨hsame, told, hcourse, hown⟩ := Ends.after (Export.collect_tags settings c b.session)
    refine ⟨_, rfl, ?_, told, hcourse, fun m hm => (hown m hm).2⟩
    unfold Follows
    rw [hsame]
    exact h
  | exportAll settings skipEmpty directory p =>
    cases hnames
    obtain ⟨hsame, told, hcourse, hown⟩ :=
      Ends.after (Export.program_tags settings skipEmpty directory p b.session)
    refine ⟨_, rfl, ?_, told, hcourse, hcurrent ▸ hown⟩
    unfold Follows
    rw [hsame]
    exact h
  | tell m =>
    cases hnames
    refine ⟨_, rfl, ?_, _, Course.start.tell m, ?_⟩
    · unfold Follows
      rw [Session.journal_tell]
      exact h
    · rw [hcurrent]
      rfl

theorem Follows.meetAll (h : b.Follows names first) {events : List BlockEvent}
    (hnames : namesAfter? names events = some names') :
    ∃ b', b.meetAll events = some b' ∧ b'.Follows names' first ∧ ∃ told,
      Course b.session told b'.session ∧
        TellAll first.session.journal.current names events told := by
  induction events generalizing b names with
  | nil =>
    cases hnames
    exact ⟨b, rfl, h, [], .start, rfl⟩
  | cons e events ih =>
    rw [namesAfter?, List.foldlM_cons] at hnames
    obtain ⟨between, hfirst, hrest⟩ := Option.bind_eq_some_iff.mp hnames
    obtain ⟨b₁, hmeet, hfollows, own, hcourse, htells⟩ := h.meet hfirst
    obtain ⟨b₂, hmeets, hfollows', later, hcourse', htells'⟩ := ih hfollows hrest
    refine ⟨b₂, ?_, hfollows', own ++ later, hcourse.trans hcourse',
      own, later, between, rfl, htells, hfirst, htells'⟩
    rw [Nested.meetAll, List.foldlM_cons, hmeet]
    exact hmeets

end Nested

/-! ## What lines show -/

/-- Lines show the name, or a dash and no prefix if there is none or it is empty. -/
structure Journal.Shows (j : Journal) (name : Option String) : Prop where
  named : ∀ n, name = some n → n ≠ "" → j.classShown = n ∧ j.classPrefix = n ++ ": "
  nameless : name.getD "" = "" → j.classShown = "-" ∧ j.classPrefix = ""

theorem Journal.shows_current (j : Journal) : j.Shows j.current := by
  refine ⟨fun name hname hne => ?_, fun hnone => ?_⟩
  · simp [classShown, classPrefix, hname, hne]
  · cases hname : j.current with
    | none => simp [classShown, classPrefix, hname]
    | some name =>
      rw [hname] at hnone
      simp [classShown, classPrefix, hname, show name = "" from hnone]

/-- Whatever session events start in, as long as no block is left that is not open, they go through,
and the lines of the journal show the innermost open block, or what was current at first. Each
message has been told under the name that is due and is shown so; the console has it so. Work that
is done in a block is entered and left as events are, whether it succeeds or fails, and the current
name is the same after it. -/
theorem Nested.meetAll_follows (s : Session) (kept : List (Option String))
    (events : List BlockEvent) (names : List String)
    (h : BlockEvent.namesAfter? [] events = some names) :
    ∃ b told, (Nested.mk s kept).meetAll events = some b ∧ b.Follows names ⟨s, kept⟩ ∧
      b.session.journal.Shows (BlockEvent.innermost s.journal.current names) ∧
      Course s told b.session ∧ BlockEvent.TellAll s.journal.current [] events told ∧
      (∀ m ∈ told, { s.journal with current := m.name }.Shows m.name) ∧
      b.session.console = s.console ++ String.join (told.map (Told.onConsole s.journal s.time)) ∧
      ∀ {ε α : Type} (name : String) (act : Work ε α),
        b.within name act = some { b with session := (Work.inClass name act).after b.session } ∧
          ((Work.inClass name act).after b.session).journal.current =
            b.session.journal.current := by
  have hfirst : (Nested.mk s kept).Follows [] ⟨s, kept⟩ := rfl
  obtain ⟨b, hmeets, hfollows, told, hcourse, htells⟩ := hfirst.meetAll h
  refine ⟨b, told, hmeets, hfollows, ?_, hcourse, htells, fun m _ => ?_, hcourse.console_eq, ?_⟩
  · rw [← hfollows.current_eq]
    exact b.session.journal.shows_current
  · exact Journal.shows_current { s.journal with current := m.name }
  · exact fun name act => ⟨b.within_eq name act, Work.current_after_inClass name act b.session⟩

/-- A session whose journal goes to the console alone. -/
def Session.plain : Session where
  files := { entries := [(["work"], .directory)], workdir := ["work"] }
  journal := { level := some .debug, handlers := [⟨.console, .debug⟩] }

/-- Gathering from a class fails within two blocks, then an export of a class that cannot have a
document, and then one class is exported and a block entered. -/
def BlockEvent.interrupted : List BlockEvent :=
  [.enter "", .enter "A", .collect {} ⟨"B", [.foreign ⟨"Mark", .key, "Mark()", none⟩], [], []⟩,
    .tell ⟨"", .info, "in the inner block"⟩, .leave, .tell ⟨"", .info, "in the outer block"⟩,
    .leave, .exportAll {} true ⟨.relative, ["out"]⟩ ⟨[⟨"C/", [.text "c" ""], [], []⟩]⟩,
    .exportAll {} true ⟨.relative, ["out"]⟩ ⟨[⟨"D", [.text "d" ""], [], []⟩]⟩, .enter "E"]

theorem Nested.meetAll_follows_interrupted :
    BlockEvent.namesAfter? [] BlockEvent.interrupted = some ["E"] ∧
      ((Nested.mk .plain []).meetAll BlockEvent.interrupted).map (·.session.console) =
        some (String.join
          ["[tagcollect] DEBUG B: Collected 1 attribute(s) for class B\n",
            "[tagcollect] INFO A: in the inner block\n",
            "[tagcollect] INFO in the outer block\n",
            "[tagcollect] DEBUG C/: Collected 1 attribute(s) for class C/\n",
            "[tagcollect] DEBUG D: Collected 1 attribute(s) for class D\n",
            "[tagcollect] DEBUG Wrote out/D.xml (1 attribute(s), 0 key(s))\n",
            "[tagcollect] INFO Wrote 1 attribute document(s) to out\n"]) ∧
      ∃ b told, (Nested.mk .plain []).meetAll BlockEvent.interrupted = some b ∧
        b.session.journal.Shows (some "E") ∧
        BlockEvent.TellAll none [] BlockEvent.interrupted told := by
  have hnames : BlockEvent.namesAfter? [] BlockEvent.interrupted = some ["E"] := rfl
  obtain ⟨b, told, hmeets, -, hshows, -, htells, -⟩ :=
    Nested.meetAll_follows .plain [] BlockEvent.interrupted ["E"] hnames
  exact ⟨hnames, by decide +kernel, b, told, hmeets, hshows, htells⟩

end ProgramTags
