import ProgramTags.Proofs.Journal.Opening

/-!
# Journals that are configured again

Configuring a journal replaces what an earlier call has set up, step by step, and may fail on the
way. An `Arrangement` is what should come of it: a level and at most one log file, those of the
latest call. `Arrangement.Describes` ties it to the handlers of a journal, and `Arrangement.entries`
is what is due to a file in the course of events. `Session.meetAll_describes` says that this is how
it is: every message gives one record in each place or none, and a log file holds what it has held
and the records that were due to it, each once.
-/

namespace ProgramTags

open FileSystem (Grows Keeps logOpened?)

/-- What happens to a journal. -/
inductive JournalEvent where
  | configure (verbose : Bool) (file : Option Path)
  | tell (m : Message)

namespace Session

/-- The session after the event, whether a configuration succeeds or fails. -/
def meet (s : Session) : JournalEvent → Session
  | .configure verbose file => Work.after (Work.configureJournal verbose file) s
  | .tell m => s.tell m

def meetAll (s : Session) (events : List JournalEvent) : Session :=
  events.foldl meet s

theorem meetAll_cons (s : Session) (e : JournalEvent) (events : List JournalEvent) :
    s.meetAll (e :: events) = (s.meet e).meetAll events := rfl

end Session

/-- How a journal is to be kept: from which level on, and in which file besides on the console. -/
structure Arrangement where
  level : Level
  log : Option Location

namespace Arrangement

def ofCall (fs : FileSystem) (verbose : Bool) (file : Option Path)
    (surrogates : Text.Surrogates := .none) : Arrangement :=
  ⟨Journal.levelFor verbose, logOpened? fs file surrogates⟩

def next (a : Arrangement) (s : Session) : JournalEvent → Arrangement
  | .configure verbose file => ofCall s.files verbose file
  | .tell _ => a

def entry (a : Arrangement) (s : Session) (loc : Location) : JournalEvent → List UInt8
  | .configure _ _ => []
  | .tell m =>
    if m.level.atLeast a.level ∧ a.log = some loc then
      Text.Utf8.encode (s.journal.fileLine s.time m).toList
    else []

def entries (loc : Location) : Arrangement → Session → List JournalEvent → List UInt8
  | _, _, [] => []
  | a, s, e :: events => a.entry s loc e ++ entries loc (a.next s e) (s.meet e) events

/-- The journal has one handler for the console and one for the log file if there is one, all of
the level of the arrangement. -/
structure Describes (a : Arrangement) (s : Session) : Prop where
  level : s.journal.level = some a.level
  handlers : s.journal.handlers =
    ⟨.console, a.level⟩ :: a.log.toList.map fun loc => ⟨.file loc, a.level⟩
  stands : ∀ loc, a.log = some loc → ∃ bytes, s.files.get? loc = some (.file bytes)

end Arrangement

/-! ## Configuring -/

namespace Session

/-- What configuring leaves alone: the console and what files hold. -/
structure Unwritten (s t : Session) : Prop where
  kept : Keeps s.files t.files
  console : t.console = s.console

end Session

def Arrangement.IsLogOf (a : Arrangement) (file : Option Path) (t : Session) : Prop :=
  ∀ loc, a.log = some loc → ∃ path bytes, file = some path ∧
    t.files.find (t.files.absolute path) = .ok (.entry loc (.file bytes))

/-- A call arranges what it says if it succeeds, and the console alone if it fails. -/
theorem Work.configureJournal_describes (verbose : Bool) (file : Option Path)
    (surrogates : Text.Surrogates) (s : Session) :
    let a := Arrangement.ofCall s.files verbose file surrogates
    Ends (configureJournal verbose file surrogates) s
      (fun _ t => a.Describes t ∧ a.IsLogOf file t ∧ (a.log.isSome ↔ file.isSome) ∧
        Session.Unwritten s t)
      fun _ t => a.Describes t ∧ a.log = none ∧ Session.Unwritten s t := by
  intro a
  have hkeeps := configureJournal_keeps verbose file surrogates s
  unfold Ends at hkeeps ⊢
  rw [configureJournal_eq] at hkeeps ⊢
  cases file with
  | none => exact ⟨⟨rfl, rfl, nofun⟩, nofun, Iff.rfl, .refl _, rfl⟩
  | some path =>
    have hends := Files.openLog_ends path surrogates s.files
    unfold Ends at hends
    dsimp only at hkeeps ⊢
    cases hopen : Files.openLog path surrogates s.files with
    | ok loc files =>
      rw [hopen] at hkeeps hends
      obtain ⟨-, bytes, hfind⟩ := hends
      have hlog : a.log = some loc := by
        show logOpened? s.files (some path) surrogates = some loc
        rw [logOpened?, hopen]
      refine ⟨⟨rfl, ?_, fun l hl => ?_⟩, fun l hl => ?_, ?_, hkeeps, rfl⟩
      · rw [hlog]
        rfl
      · rw [hlog] at hl
        cases hl
        exact ⟨bytes, FileSystem.find_isAt hfind⟩
      · rw [hlog] at hl
        cases hl
        exact ⟨path, bytes, rfl, hfind⟩
      · rw [hlog]
        exact iff_of_true rfl rfl
    | error e files =>
      rw [hopen] at hkeeps
      have hlog : a.log = none := by
        show logOpened? s.files (some path) surrogates = none
        rw [logOpened?, hopen]
      refine ⟨⟨rfl, ?_, fun l hl => ?_⟩, hlog, hkeeps, rfl⟩
      · rw [hlog]
        rfl
      · rw [hlog] at hl
        cases hl

/-- However a call ends, the journal is kept as it arranges, with a log file just if it gives one
and succeeds. -/
theorem Session.meet_configure_describes (s : Session) (verbose : Bool) (file : Option Path) :
    (Arrangement.ofCall s.files verbose file).Describes (s.meet (.configure verbose file)) ∧
      (Arrangement.ofCall s.files verbose file).IsLogOf file (s.meet (.configure verbose file)) ∧
      ((Arrangement.ofCall s.files verbose file).log.isSome ↔
        file.isSome ∧ ∃ t, (Work.configureJournal verbose file) s = .ok () t) ∧
      Session.Unwritten s (s.meet (.configure verbose file)) := by
  have hends := Work.configureJournal_describes verbose file .none s
  have hmeet : s.meet (.configure verbose file) =
      Work.after (Work.configureJournal verbose file) s := rfl
  unfold Ends at hends
  unfold Work.after at hmeet
  cases hrun : (Work.configureJournal verbose file) s with
  | ok _ t =>
    rw [hrun] at hends hmeet
    obtain ⟨hdescribes, hlog, hopened, hunwritten⟩ := hends
    rw [hmeet]
    exact ⟨hdescribes, hlog, hopened.trans (and_iff_left ⟨t, rfl⟩).symm, hunwritten⟩
  | error e t =>
    rw [hrun] at hends hmeet
    obtain ⟨hdescribes, hnone, hunwritten⟩ := hends
    rw [hmeet]
    refine ⟨hdescribes, fun loc hloc => ?_, ?_, hunwritten⟩
    · rw [hnone] at hloc
      cases hloc
    · rw [hnone]
      exact iff_of_false nofun fun ⟨_, _, h⟩ => nomatch h

/-! ## Telling -/

namespace Arrangement

variable {a : Arrangement} {s t : Session} {m : Message}

/-- From `s` to `t` the message has given one record on the console and one in the log file, if
there is one and the level of the message is high enough, and none anywhere otherwise. -/
structure Records (a : Arrangement) (m : Message) (s t : Session) : Prop where
  console : t.console =
    s.console ++ if m.level.atLeast a.level then s.journal.consoleLine m else ""
  files : ∀ loc, t.files.get? loc =
    if m.level.atLeast a.level ∧ a.log = some loc then
      some (.file (s.files.bytesAt loc ++ Text.Utf8.encode (s.journal.fileLine s.time m).toList))
    else s.files.get? loc

/-- The journal writes to the log file, and to no other. -/
theorem Describes.isLog_iff (h : a.Describes s) {loc : Location} :
    s.IsLog loc ↔ a.log = some loc := by
  unfold Session.IsLog
  rw [h.handlers]
  simp [Option.mem_toList]

theorem Describes.logsStand (h : a.Describes s) : s.LogsStand :=
  fun loc hloc => h.stands loc (h.isLog_iff.mp hloc)

theorem Describes.lines_eq (h : a.Describes s) (m : Message) :
    s.journal.lines s.time m =
      if m.level.atLeast a.level then
        (.console, s.journal.consoleLine m) ::
          a.log.toList.map fun loc => (.file loc, s.journal.fileLine s.time m)
      else [] := by
  unfold Journal.lines Journal.keeps
  rw [h.level, Option.getD_some]
  by_cases hlevel : m.level.atLeast a.level
  · cases hlog : a.log with
    | none => simp [hlevel, h.handlers, hlog, Journal.line]
    | some loc => simp [hlevel, h.handlers, hlog, Journal.line]
  · simp [hlevel]

theorem Describes.records (h : a.Describes s) (m : Message) : a.Records m s (s.tell m) := by
  unfold Session.tell
  rw [h.lines_eq]
  by_cases hlevel : m.level.atLeast a.level
  · cases hlog : a.log with
    | none =>
      refine ⟨?_, fun loc => ?_⟩
      · simp [hlevel, Session.deliver]
      · simp [hlevel, hlog, Session.deliver]
    | some log =>
      obtain ⟨bytes, hbytes⟩ := h.stands log hlog
      have hne := FileSystem.ne_nil_of_get? (.inr hbytes) nofun
      refine ⟨?_, fun loc => ?_⟩
      · simp [hlevel, Session.deliver]
      · by_cases hloc : log = loc
        · subst hloc
          simp [hlevel, hlog, Session.deliver, FileSystem.append, FileSystem.get?_put _ hne]
        · simp [hlevel, hlog, hloc, Session.deliver, FileSystem.append,
            FileSystem.get?_put_of_ne _ _ (Ne.symm hloc)]
  · refine ⟨?_, fun loc => ?_⟩
    · simp [hlevel]
    · simp [hlevel]

/-- Telling changes neither the handlers nor, but for log files that stand, what there is. -/
theorem Describes.tell (h : a.Describes s) (m : Message) :
    a.Describes (s.tell m) ∧ Grows s.files (s.tell m).files := by
  have hgrows := (s.tells_tell m).grows h.logsStand
  refine ⟨⟨?_, ?_, fun loc hloc => ?_⟩, hgrows⟩
  · rw [Session.journal_tell, h.level]
  · rw [Session.journal_tell, h.handlers]
  · obtain ⟨bytes, hbytes⟩ := h.stands loc hloc
    exact hgrows.file hbytes

/-! ## Events -/

/-- What an event does to a journal that is kept as arranged. -/
theorem Describes.meet (h : a.Describes s) (e : JournalEvent) :
    (a.next s e).Describes (s.meet e) ∧ Grows s.files (s.meet e).files ∧
      ∀ loc, (s.meet e).files.bytesAt loc = s.files.bytesAt loc ++ a.entry s loc e := by
  cases e with
  | configure verbose file =>
    obtain ⟨hdescribes, -, -, hunwritten⟩ := s.meet_configure_describes verbose file
    refine ⟨hdescribes, hunwritten.kept.toGrows, fun loc => ?_⟩
    rw [entry, List.append_nil]
    exact hunwritten.kept.bytesAt_eq loc
  | tell m =>
    obtain ⟨hdescribes, hgrows⟩ := h.tell m
    refine ⟨hdescribes, hgrows, fun loc => ?_⟩
    have hfiles := (h.records m).files loc
    show (s.tell m).files.bytesAt loc = _
    rw [FileSystem.bytesAt, hfiles, entry]
    by_cases hlog : m.level.atLeast a.level ∧ a.log = some loc
    · rw [if_pos hlog, if_pos hlog]
    · rw [if_neg hlog, if_neg hlog, List.append_nil]
      rfl

/-- How the journal is to be kept after the events. -/
def after : Arrangement → Session → List JournalEvent → Arrangement
  | a, _, [] => a
  | a, s, e :: events => after (a.next s e) (s.meet e) events

/-- The journal is kept as arranged, and every file holds what it held and then what it is due. -/
theorem Describes.meetAll (h : a.Describes s) (events : List JournalEvent) :
    (a.after s events).Describes (s.meetAll events) ∧ Grows s.files (s.meetAll events).files ∧
      ∀ loc, (s.meetAll events).files.bytesAt loc =
        s.files.bytesAt loc ++ entries loc a s events := by
  induction events generalizing a s with
  | nil => exact ⟨h, .refl s.files, fun loc => (List.append_nil _).symm⟩
  | cons e events ih =>
    obtain ⟨hdescribes, hgrows, hbytes⟩ := h.meet e
    obtain ⟨hafter, hgrows', hbytes'⟩ := ih hdescribes
    refine ⟨hafter, hgrows.trans hgrows', fun loc => ?_⟩
    rw [Session.meetAll_cons, hbytes', hbytes, List.append_assoc, entries]

/-- The log file is still where the path leads that the call gives. -/
theorem IsLogOf.of_grows {file : Option Path} (h : a.IsLogOf file s)
    (hgrows : Grows s.files t.files) : a.IsLogOf file t := by
  intro loc hloc
  obtain ⟨path, bytes, hfile, hfind⟩ := h loc hloc
  obtain ⟨bytes', hbytes⟩ := hgrows.file (FileSystem.find_isAt hfind)
  refine ⟨path, bytes', hfile, ?_⟩
  rw [FileSystem.absolute_of_grows hgrows, FileSystem.find_grows hgrows hfind]
  simp [FileSystem.Found.now, hbytes]

end Arrangement

end ProgramTags
