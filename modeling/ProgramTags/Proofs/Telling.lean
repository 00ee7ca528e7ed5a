import ProgramTags.Proofs.Ends
import ProgramTags.Proofs.FileSystem.Change

/-!
# Telling

The journal writes to its log files and to nothing else. `Session.Tells s t` says that no more than
that has been done from `s` to `t`; it needs the log files to be there (`Session.LogsStand`), which
configuring the journal sees to.
-/

namespace ProgramTags

open FileSystem (Contained Grows Rewrites)

namespace Session

def IsLog (s : Session) (loc : Location) : Prop :=
  ∃ h ∈ s.journal.handlers, h.sink = .file loc

/-- Where the journal writes, there are files. -/
def LogsStand (s : Session) : Prop :=
  ∀ loc, s.IsLog loc → ∃ bytes, s.files.get? loc = some (.file bytes)

/-- Log files may have grown from `s` to `t`, everything else in the file system is the same. -/
structure Tells (s t : Session) : Prop where
  handlers : t.journal.handlers = s.journal.handlers
  grows : s.LogsStand → Grows s.files t.files
  elsewhere : ∀ loc, ¬s.IsLog loc → t.files.get? loc = s.files.get? loc

theorem isLog_of_handlers {s t : Session} (h : t.journal.handlers = s.journal.handlers) :
    t.IsLog = s.IsLog := by
  funext loc
  rw [IsLog, IsLog, h]

/-- Log files are there for as long as files stay. -/
theorem LogsStand.of_grows {s t : Session} (hs : s.LogsStand)
    (h : t.journal.handlers = s.journal.handlers) (hg : Grows s.files t.files) : t.LogsStand := by
  intro loc hloc
  rw [isLog_of_handlers h] at hloc
  obtain ⟨bytes, hbytes⟩ := hs loc hloc
  exact hg.file hbytes

namespace Tells

theorem refl (s : Session) : Tells s s := ⟨rfl, fun _ => .refl _, fun _ _ => rfl⟩

theorem trans {s t u : Session} (h : Tells s t) (h' : Tells t u) : Tells s u where
  handlers := h'.handlers.trans h.handlers
  grows hs := (h.grows hs).trans (h'.grows (hs.of_grows h.handlers (h.grows hs)))
  elsewhere loc hloc := by
    have hloc' : ¬t.IsLog loc := by rwa [isLog_of_handlers h.handlers]
    rw [h'.elsewhere loc hloc', h.elsewhere loc hloc]

theorem logsStand {s t : Session} (h : Tells s t) (hs : s.LogsStand) : t.LogsStand :=
  hs.of_grows h.handlers (h.grows hs)

/-- Telling changes no more than log files. -/
theorem contained {s t : Session} (h : Tells s t) (hs : s.LogsStand) (directory : Path) :
    Contained directory s.IsLog s.files t.files := by
  refine ⟨h.grows hs, fun loc => ?_⟩
  by_cases hlog : s.IsLog loc
  · obtain ⟨bytes, hbytes⟩ := hs loc hlog
    exact .file hlog (.inr ⟨bytes, hbytes⟩) ((h.grows hs).file hbytes)
  · exact .same (h.elsewhere loc hlog)

/-- Being inside of a block changes nothing about what has been told. -/
theorem leave {s t : Session} {name : String} {outer : Option String}
    (h : Tells { s with journal := (s.journal.enter name).2 } t) :
    Tells s { t with journal := t.journal.leave outer } :=
  ⟨h.handlers, h.grows, h.elsewhere⟩

end Tells

instance : IsPreorder Session Tells where
  refl := Tells.refl
  trans _ _ _ := Tells.trans

theorem tells_deliver {s : Session} {sink : Sink} {line : String}
    (h : ∀ loc, sink = .file loc → s.IsLog loc) : Tells s (s.deliver (sink, line)) := by
  cases sink with
  | console => exact ⟨rfl, fun _ => .refl _, fun _ _ => rfl⟩
  | file loc =>
    have hlog := h loc rfl
    refine ⟨rfl, fun hs => ?_, fun l hl => ?_⟩
    · exact (Rewrites.put (.inr (hs loc hlog))).grows
    · have hne : l ≠ loc := by
        rintro rfl
        exact hl hlog
      exact FileSystem.get?_put_of_ne _ _ hne

end Session

/-- Lines go to where the handlers say, or to the console. -/
theorem Journal.sink_of_mem_lines {j : Journal} {time : String} {m : Message} {sink : Sink}
    {line : String} (h : (sink, line) ∈ j.lines time m) :
    sink = .console ∨ ∃ handler ∈ j.handlers, handler.sink = sink := by
  unfold lines at h
  split at h
  · cases h
  split at h
  · simp at h
    exact .inl h.1
  · obtain ⟨handler, hmem, heq⟩ := List.mem_map.mp h
    cases heq
    exact .inr ⟨handler, List.mem_of_mem_filter hmem, rfl⟩

/-- A message changes log files alone. -/
theorem Session.tells_tell (s : Session) (m : Message) : Tells s (s.tell m) := by
  suffices h : ∀ (lines : List (Sink × String)) (t : Session), Tells s t →
      (∀ line ∈ lines, ∀ loc, line.1 = .file loc → s.IsLog loc) →
      Tells s (lines.foldl deliver t) by
    refine h _ s (.refl s) fun line hline loc hloc => ?_
    rcases Journal.sink_of_mem_lines hline with hsink | ⟨handler, hmem, hsink⟩
    · rw [hsink] at hloc
      cases hloc
    · exact ⟨handler, hmem, hsink.trans hloc⟩
  intro lines
  induction lines with
  | nil => exact fun t ht _ => ht
  | cons line rest ih =>
    intro t ht hlines
    refine ih _ (ht.trans (tells_deliver fun loc hloc => ?_)) fun l hl => hlines l (.tail _ hl)
    rw [isLog_of_handlers ht.handlers]
    exact hlines line List.mem_cons_self loc hloc

namespace Work

variable {ε δ α : Type} {s t : Session} {good : α → Session → Prop} {bad : ε → Session → Prop}

/-- A step on the files ends as it does on them. -/
theorem onFiles_ends {wrap : FileError → ε} {act : Files α}
    (h : Ends act s.files (fun a files => good a { s with files })
      fun e files => bad (wrap e) { s with files }) : Ends (onFiles wrap act) s good bad := by
  unfold Ends onFiles at *
  cases hr : act s.files <;> rw [hr] at h <;> exact h

theorem wrap_of_ok {f : δ → ε} {act : Work δ α} {a : α} (h : act s = .ok a t) :
    wrap f act s = .ok a t := by
  rw [wrap, h]

theorem wrap_of_error {f : δ → ε} {act : Work δ α} {e : δ} (h : act s = .error e t) :
    wrap f act s = .error (f e) t := by
  rw [wrap, h]

theorem wrap_eq_ok {f : δ → ε} {act : Work δ α} {a : α} (h : wrap f act s = .ok a t) :
    act s = .ok a t := by
  unfold wrap at h
  split at h
  · rename_i hact
    cases h
    exact hact
  · cases h

theorem wrap_eq_error {f : δ → ε} {act : Work δ α} {e : ε} (h : wrap f act s = .error e t) :
    ∃ e', e = f e' ∧ act s = .error e' t := by
  unfold wrap at h
  split at h
  · cases h
  · rename_i hact
    cases h
    exact ⟨_, rfl, hact⟩

/-- A step whose error is put in other words ends as it does. -/
theorem wrap_ends {f : δ → ε} {act : Work δ α}
    (h : Ends act s good fun e t => bad (f e) t) : Ends (wrap f act) s good bad := by
  unfold Ends wrap at *
  cases hr : act s <;> rw [hr] at h <;> exact h

theorem ofExcept_ends {wrap : δ → ε} {x : Except δ α} (hok : ∀ a, x = .ok a → good a s)
    (herror : ∀ e, x = .error e → bad (wrap e) s) : Ends (ofExcept wrap x) s good bad := by
  cases x with
  | ok a => exact hok a rfl
  | error e => exact herror e rfl

/-- Work on a class ends as it does inside of its block. -/
theorem inClass_ends {name : String} {act : Work ε α}
    (h : Ends act { s with journal := (s.journal.enter name).2 }
      (fun a t => good a { t with journal := t.journal.leave s.journal.current })
      fun e t => bad e { t with journal := t.journal.leave s.journal.current }) :
    Ends (inClass name act) s good bad := by
  unfold Ends inClass at *
  simp only [Journal.enter] at h ⊢
  split at h <;> rename_i hr <;> rw [hr] <;> exact h

/-- Telling does not fail. -/
theorem tell_ends (m : Message) (s : Session) :
    Ends (tell m : Work ε Unit) s (fun _ t => Session.Tells s t) fun _ _ => False :=
  Ends.modify (s.tells_tell m)

end Work

end ProgramTags
