import Mathlib.Data.List.Nodup
import Mathlib.Data.List.TakeWhile
import ProgramTags.Command.Invocation
import ProgramTags.Proofs.Reports

/-!
# Scanning switches that are written in full

A `FullSwitch` is a switch under one of its names, with its value in the word after it. Words of
this sort are read as what they are in every grammar whose names are distinct, and going through
the words of several such switches adds each of them to what is given (`foldlM_step_switches`), up
to the first that asks for help. `Scan.has_iff` and `Scan.value?_eq_some_iff` say what is found in
the end, whatever the order was.
-/

namespace ProgramTags.Command

def IsPlain (word : String) : Prop :=
  word.toList.head? ≠ some '-'

instance : DecidablePred IsPlain :=
  fun word => inferInstanceAs (Decidable (word.toList.head? ≠ some '-'))

/-- A switch that is written in full: one of its names and, if it takes a value, a word after it. -/
structure FullSwitch where
  switch : Switch
  name : String
  value : Option String
  named : name ∈ switch.names
  valued : value.isSome = switch.takesValue
  plain : ∀ v ∈ value, IsPlain v

namespace FullSwitch

def words (o : FullSwitch) : List String :=
  o.name :: o.value.toList

def meaning (o : FullSwitch) : List Word :=
  .switch o.name o.switch .nothing :: o.value.toList.map .plain

def pair (o : FullSwitch) : Switch × Option String :=
  (o.switch, o.value)

def Gives (os : List FullSwitch) (s : Switch) : Prop :=
  ∃ o ∈ os, o.switch = s

instance (os : List FullSwitch) (s : Switch) : Decidable (Gives os s) :=
  inferInstanceAs (Decidable (∃ o ∈ os, o.switch = s))

def Sets (os : List FullSwitch) (s : Switch) (v : String) : Prop :=
  ∃ o ∈ os, o.switch = s ∧ o.value = some v

/-- No switch has two values. -/
def Agree (os : List FullSwitch) : Prop :=
  ∀ s v w, Sets os s v → Sets os s w → v = w

/-- Distinct switches agree. -/
theorem agree_of_nodup {os : List FullSwitch} (h : (os.map (·.switch)).Nodup) : Agree os := by
  rintro s v w ⟨o, ho, rfl, hv⟩ ⟨u, hu, hs, hw⟩
  have heq : u = o := List.inj_on_of_nodup_map h hu ho hs
  rw [heq, hv] at hw
  exact Option.some.inj hw

end FullSwitch

/-! ## What words mean -/

section

variable {g : Grammar} {word : String} {args : List String} {ws : List Word} {s : Switch}

theorem readWord_of_isPlain (h : IsPlain word) : readWord g word = .ok (.plain word) := by
  unfold readWord
  split
  case h_1 c rest htext =>
    rw [IsPlain, htext] at h
    exact absurd rfl h
  case h_2 => rfl

theorem switch?_eq_some (hnames : (g.names.map (·.2)).Nodup) (hs : s ∈ g.switches)
    (hname : word ∈ s.names) : g.switch? word = some s := by
  have hmem : (s, word) ∈ g.names :=
    List.mem_flatMap.mpr ⟨s, hs, List.mem_map.mpr ⟨word, hname, rfl⟩⟩
  have hfound : (g.names.find? fun entry => entry.2 = word).isSome := by
    rw [List.find?_isSome]
    exact ⟨_, hmem, by simp⟩
  obtain ⟨entry, hentry⟩ := Option.isSome_iff_exists.mp hfound
  have hword : entry.2 = word := by simpa using List.find?_some hentry
  have heq : entry = (s, word) :=
    List.inj_on_of_nodup_map hnames (List.mem_of_find?_eq_some hentry) hmem hword
  rw [Grammar.switch?, hentry, heq]
  rfl

/-- A name is a dash with something after it, and there is no equals sign in it. -/
theorem name_shape (s : Switch) : ∀ name ∈ s.names,
    name.toList.head? = some '-' ∧ 1 < name.toList.length ∧ '=' ∉ name.toList := by
  cases s <;> decide +kernel

theorem exists_toList_name {name : String} (h : name ∈ s.names) :
    ∃ c rest, name.toList = '-' :: c :: rest := by
  obtain ⟨hhead, hlength, -⟩ := name_shape s name h
  match hname : name.toList with
  | [] => simp [hname] at hhead
  | [c] => simp [hname] at hlength
  | d :: c :: rest =>
    rw [hname, List.head?_cons, Option.some.injEq] at hhead
    exact ⟨c, rest, by rw [hhead]⟩

theorem readWord_name (hswitch : g.switch? word = some s) (hname : word ∈ s.names) :
    readWord g word = .ok (.switch word s .nothing) := by
  obtain ⟨c, rest, htext⟩ := exists_toList_name hname
  have hsplit : splitEquals ('-' :: c :: rest) = ('-' :: c :: rest, none) := by
    have hdrop : ('-' :: c :: rest).dropWhile (· ≠ '=') = [] := by
      rw [← htext, List.dropWhile_eq_nil_iff]
      intro d hd
      exact decide_eq_true fun heq => (name_shape s word hname).2.2 (heq ▸ hd)
    unfold splitEquals
    rw [hdrop]
  have hword : String.ofList ('-' :: c :: rest) = word := by
    rw [← htext, String.ofList_toList]
  unfold readWord
  rw [htext]
  simp only [readDashed, hsplit, hword, hswitch]
  rfl

/-- A word is kept in what it means. -/
theorem text_of_readWord {w : Word} (h : readWord g word = .ok w) : w.text = word := by
  unfold readWord at h
  split at h
  case h_1 c rest htext =>
    have hword : String.ofList ('-' :: c :: rest) = word := by
      rw [← htext, String.ofList_toList]
    simp only [readDashed, hword] at h
    split at h
    · cases h
      rfl
    · split at h
      · cases h
        split <;> rfl
      · cases h
        rfl
      · cases h
  case h_2 =>
    cases h
    rfl

theorem readWords_eq (hargs : separator ∉ args) (h : args.mapM (readWord g) = .ok ws) :
    readWords g args = .ok ⟨ws, none⟩ := by
  have hall : ∀ word ∈ args, decide (word ≠ separator) = true := by
    intro word hword
    exact decide_eq_true fun heq => hargs (heq ▸ hword)
  unfold readWords
  rw [List.takeWhile_eq_self_iff.mpr hall, List.dropWhile_eq_nil_iff.mpr hall, h]
  rfl

/-- Words that can be read at all keep their texts. -/
theorem exists_mapM_readWord (h : ∀ word ∈ args, ∃ w, readWord g word = .ok w) :
    ∃ ws, args.mapM (readWord g) = .ok ws ∧ ws.map Word.text = args := by
  induction args with
  | nil => exact ⟨[], rfl, rfl⟩
  | cons word args ih =>
    obtain ⟨⟨w, hw⟩, hargs⟩ := List.forall_mem_cons.mp h
    obtain ⟨ws, hws, htexts⟩ := ih hargs
    refine ⟨w :: ws, ?_, by rw [List.map_cons, text_of_readWord hw, htexts]⟩
    rw [List.mapM_cons, hw, hws]
    rfl

theorem mapM_append_eq_ok {as bs : List String} {us vs : List Word}
    (has : as.mapM (readWord g) = .ok us) (hbs : bs.mapM (readWord g) = .ok vs) :
    (as ++ bs).mapM (readWord g) = .ok (us ++ vs) := by
  rw [List.mapM_append, has, hbs]
  rfl

end

/-! ## Grammars -/

/-- The grammar knows the switches by names that are distinct. -/
def Grammar.Knows (g : Grammar) (os : List FullSwitch) : Prop :=
  (g.names.map (·.2)).Nodup ∧ ∀ o ∈ os, o.switch ∈ g.switches

theorem mainGrammar_names_nodup : (mainGrammar.names.map (·.2)).Nodup := by
  decide

theorem Verb.grammar_names_nodup (v : Verb) : (v.grammar.names.map (·.2)).Nodup := by
  cases v <;> decide

namespace FullSwitch

variable {g : Grammar} {o : FullSwitch} {os : List FullSwitch}

theorem name_ne_separator (o : FullSwitch) : o.name ≠ separator := by
  have hnot : ∀ s : Switch, separator ∉ s.names := by
    intro s
    cases s <;> decide
  exact fun heq => hnot o.switch (heq ▸ o.named)

theorem separator_notMem_words (os : List FullSwitch) : separator ∉ os.flatMap words := by
  rw [List.mem_flatMap]
  rintro ⟨o, -, ho⟩
  rcases List.mem_cons.mp ho with heq | hvalue
  · exact o.name_ne_separator heq.symm
  · exact o.plain separator (Option.mem_toList.mp hvalue) rfl

theorem mapM_words (hknown : g.switch? o.name = some o.switch) :
    o.words.mapM (readWord g) = .ok o.meaning := by
  have hvalue : o.value.toList.mapM (readWord g) = .ok (o.value.toList.map .plain) := by
    cases hv : o.value with
    | none => rfl
    | some v =>
      rw [Option.toList_some, List.mapM_cons, readWord_of_isPlain (o.plain v hv)]
      rfl
  rw [words, List.mapM_cons, readWord_name hknown o.named, hvalue]
  rfl

theorem mapM_flatMap_words (hknown : g.Knows os) :
    (os.flatMap words).mapM (readWord g) = .ok (os.flatMap meaning) := by
  obtain ⟨hnames, hos⟩ := hknown
  induction os with
  | nil => rfl
  | cons o os ih =>
    obtain ⟨ho, hos⟩ := List.forall_mem_cons.mp hos
    exact mapM_append_eq_ok (mapM_words (switch?_eq_some hnames ho o.named)) (ih hos)

end FullSwitch

/-! ## Steps of a scan -/

namespace Scan

open FullSwitch

variable {g : Grammar} {s t : Scan} {o : FullSwitch} {os : List FullSwitch}

/-- The scan once the switches have been taken. -/
def take (s : Scan) (os : List FullSwitch) : Scan :=
  { s with given := s.given ++ os.map pair, justPlaced := s.justPlaced && os.isEmpty }

/-- No value is awaited, and words are not for the command yet. -/
structure Takes (g : Grammar) (s : Scan) : Prop where
  idle : s.awaiting = none
  keeps : handsOver g s = false

theorem Takes.take (h : Takes g s) (os : List FullSwitch) : Takes g (s.take os) :=
  ⟨h.idle, h.keeps⟩

theorem take_nil (s : Scan) : s.take [] = s := by
  simp [take]

theorem take_take (s : Scan) (os us : List FullSwitch) :
    (s.take os).take us = s.take (os ++ us) := by
  cases os <;> simp [take]

theorem step_switch {text : String} (h : Takes g s) (sw : Switch) :
    step g s (.switch text sw .nothing) =
      if sw.takesValue then .ok { s with awaiting := some sw, justPlaced := false }
      else takeFlag g { s with justPlaced := false } sw := by
  unfold step
  rw [h.keeps, h.idle]
  rfl

/-- A plain word that no switch awaits stands besides the switches, if something is to. -/
theorem step_plain (h : Takes g s) (hwants : wantsPositional g s = true) (text : String) :
    step g s (.plain text) = .ok { s with positional := [text], justPlaced := true } := by
  unfold step
  rw [h.keeps, h.idle]
  exact if_pos hwants

/-- A plain word is the value that is awaited. -/
theorem step_value {v : String} {sw : Switch} (hawaits : s.awaiting = some sw)
    (hkeeps : handsOver g s = false) (hplain : IsPlain v) (hnumber : sw ≠ .portNumber) :
    step g s (.plain v) = .ok { s with
      given := s.given ++ [(sw, some v)], awaiting := none, justPlaced := false } := by
  have hseparator : v ≠ separator := by
    rintro rfl
    exact hplain rfl
  unfold step
  rw [hkeeps, hawaits]
  simp only [takeValue, check, if_neg hseparator, if_neg hnumber]
  rfl

theorem foldlM_step_meaning (h : Takes g s) (hnumber : o.switch ≠ .portNumber)
    (hhelp : o.switch ≠ .help) :
    o.meaning.foldlM (step g) s = .ok (s.take [o]) := by
  have hvalued := o.valued
  rw [meaning, List.foldlM_cons, step_switch h]
  cases hv : o.value with
  | none =>
    rw [hv] at hvalued
    rw [if_neg (by simp [← hvalued]), takeFlag, if_neg hhelp]
    simp [take, pair, hv]
  | some v =>
    rw [hv] at hvalued
    have htakes : o.switch.takesValue = true := hvalued.symm
    have hvalue := step_value (s := { s with awaiting := some o.switch, justPlaced := false }) rfl
      h.keeps (o.plain v hv) hnumber
    rw [if_pos htakes, Except.ok_bind, Option.toList_some, List.map_cons, List.foldlM_cons, hvalue]
    simp [take, pair, hv, h.idle]

theorem foldlM_step_meaning_help (h : Takes g s) (hhelp : o.switch = .help) :
    o.meaning.foldlM (step g) s = .error (.help g.speaker) := by
  rw [meaning, List.foldlM_cons, step_switch h, hhelp]
  rfl

/-- Switches are taken one after the other. -/
theorem foldlM_step_switches (h : Takes g s) (hnumber : ∀ o ∈ os, o.switch ≠ .portNumber)
    (hhelp : ¬Gives os .help) :
    (os.flatMap meaning).foldlM (step g) s = .ok (s.take os) := by
  induction os generalizing s with
  | nil => exact congrArg Except.ok (take_nil s).symm
  | cons o os ih =>
    obtain ⟨ho, hos⟩ := List.forall_mem_cons.mp hnumber
    have hhelp : o.switch ≠ .help ∧ ¬Gives os .help := by
      simpa [Gives] using hhelp
    rw [List.flatMap_cons, List.foldlM_append, foldlM_step_meaning h ho hhelp.1,
      Except.ok_bind, ih (h.take [o]) hos hhelp.2, take_take]
    rfl

/-- The first switch that asks for help ends the scan. -/
theorem foldlM_step_help (h : Takes g s) (hnumber : ∀ o ∈ os, o.switch ≠ .portNumber)
    (hhelp : Gives os .help) :
    (os.flatMap meaning).foldlM (step g) s = .error (.help g.speaker) := by
  induction os generalizing s with
  | nil =>
    obtain ⟨o, ho, -⟩ := hhelp
    cases ho
  | cons o os ih =>
    obtain ⟨ho, hos⟩ := List.forall_mem_cons.mp hnumber
    rw [List.flatMap_cons, List.foldlM_append]
    by_cases hfirst : o.switch = .help
    · rw [foldlM_step_meaning_help h hfirst]
      rfl
    · have hlater : Gives os .help := by simpa [Gives, hfirst] using hhelp
      rw [foldlM_step_meaning h ho hfirst, Except.ok_bind, ih (h.take [o]) hos hlater]

/-- Once words are for the command, they are kept as they are. -/
theorem foldlM_step_handsOver (h : handsOver g s = true) (ws : List Word) :
    ws.foldlM (step g) s = .ok { s with positional := s.positional ++ ws.map Word.text } := by
  induction ws generalizing s with
  | nil => simp
  | cons w ws ih =>
    have hstep : step g s w = .ok { s with positional := s.positional ++ [w.text] } := by
      rw [step, if_pos h]
    have hnext : handsOver g { s with positional := s.positional ++ [w.text] } = true := by
      simp_all [handsOver]
    rw [List.foldlM_cons, hstep, Except.ok_bind, ih hnext]
    simp

/-! ## Whole scans -/

section

variable {args : List String} {ws : List Word}

theorem read_eq_ok (hargs : separator ∉ args) (hwords : args.mapM (readWord g) = .ok ws)
    (hsteps : ws.foldlM (step g) {} = .ok t) (hidle : t.awaiting = none)
    (hplaced : t.positional ≠ []) : read g args = .ok t := by
  have hmissing : missing? g t = none := by
    unfold missing?
    rw [hidle]
    cases g.positional <;> simp [hplaced]
  unfold read
  rw [readWords_eq hargs hwords, Except.mapError_ok, Except.ok_bind, hsteps, Except.ok_bind]
  simp only [hmissing, hidle]
  rfl

theorem read_eq_error {why : Halt} (hargs : separator ∉ args)
    (hwords : args.mapM (readWord g) = .ok ws) (hsteps : ws.foldlM (step g) {} = .error why) :
    read g args = .error why := by
  unfold read
  rw [readWords_eq hargs hwords, Except.mapError_ok, Except.ok_bind, hsteps]
  rfl

end

/-! ## What is found in the end -/

variable {sw : Switch} {v : String}

theorem has_iff (h : s.given = os.map pair) : s.has sw = true ↔ Gives os sw := by
  rw [has, h, List.any_map, List.any_eq_true]
  exact exists_congr fun o => and_congr_right fun _ => decide_eq_true_iff

theorem exists_of_find?_given (h : s.given = os.map pair) {entry : Switch × Option String}
    (hentry : s.given.reverse.find? (·.1 = sw) = some entry) :
    ∃ o ∈ os, o.switch = sw ∧ o.pair = entry := by
  have hswitch : entry.1 = sw := by simpa using List.find?_some hentry
  have hmem := List.mem_of_find?_eq_some hentry
  rw [List.mem_reverse, h] at hmem
  obtain ⟨o, ho, rfl⟩ := List.mem_map.mp hmem
  exact ⟨o, ho, hswitch, rfl⟩

theorem value?_eq_some_iff (h : s.given = os.map pair) (hagree : Agree os) :
    s.value? sw = some v ↔ Sets os sw v := by
  constructor
  · intro hvalue
    obtain ⟨entry, hentry, hv⟩ := Option.bind_eq_some_iff.mp hvalue
    obtain ⟨o, ho, hswitch, rfl⟩ := exists_of_find?_given h hentry
    exact ⟨o, ho, hswitch, hv⟩
  · rintro ⟨o, ho, rfl, hv⟩
    have hfound : (s.given.reverse.find? (·.1 = o.switch)).isSome := by
      rw [List.find?_isSome]
      exact ⟨o.pair, by simpa [h] using ⟨o, ho, rfl⟩, by simp [pair]⟩
    obtain ⟨entry, hentry⟩ := Option.isSome_iff_exists.mp hfound
    obtain ⟨u, hu, hswitch, rfl⟩ := exists_of_find?_given h hentry
    -- What is found is the last one of this switch, which has a value as the switch takes one.
    have hsome : u.value.isSome = true := by
      rw [u.valued, hswitch, ← o.valued, hv]
      rfl
    obtain ⟨w, hw⟩ := Option.isSome_iff_exists.mp hsome
    rw [value?, hentry, Option.bind_some, pair, hw,
      hagree o.switch v w ⟨o, ho, rfl, hv⟩ ⟨u, hu, hswitch, hw⟩]

end Scan

end ProgramTags.Command
