import ProgramTags.Proofs.Dump.Loading
import ProgramTags.Proofs.Service.Agreement

/-!
# What requests are answered with

A request of any octets is answered with the status 200, 400 or 422, unless what is wrong with it
cannot be told, for a number that is not finite (`Unreportable`). One that is as it should be is
answered with the fault of its dump or with a document for every class (`Served`).
-/

namespace ProgramTags

/-! ## Parts of JSON data -/

namespace Json

variable {v : Value} {entries : List (Value × Value)} {key : String}

theorem isData_of_lookup? (hv : isData v = true) (hentries : v.entries? = some entries)
    {w : Value} (h : Value.lookup? key entries = some w) : isData w = true := by
  obtain ⟨e, he, rfl⟩ := Value.lookup?_mem h
  rw [isData_entries hv hentries, isData] at hv
  exact (entriesAreData_iff.mp hv e he).2

theorem isData_lookup (hv : isData v = true) (hentries : v.entries? = some entries)
    (key : String) : isData (Value.lookup key entries) = true := by
  unfold Value.lookup
  cases h : Value.lookup? key entries with
  | none => rfl
  | some w => exact isData_of_lookup? hv hentries h

end Json

namespace Service

open Json (isData entriesAreData itemsAreData IsEntry)

mutual

/-- What is shown of data is data. -/
theorem isData_shown : ∀ v : Value, isData v = true → isData (shown v) = true
  | .null | .bool _ | .int _ | .float _ | .text _ | .bytes _ | .date _ | .dateTime _
  | .pair .. | .set _ | .anchored .. | .again _ => by
    intro h
    rw [shown]
    · exact h
    all_goals exact nofun
  | .list items => by
    intro h
    rw [isData] at h
    rw [shown, isData]
    exact itemsAreData_shown items h
  | .mapping entries => by
    intro h
    rw [isData] at h
    rw [shown, isData]
    exact entriesAreData_shown entries h

theorem itemsAreData_shown :
    ∀ items : List Value, itemsAreData items = true → itemsAreData (shownItems items) = true
  | [] => by
    intro _
    rfl
  | v :: rest => by
    intro h
    rw [itemsAreData, Bool.and_eq_true] at h
    rw [shownItems, itemsAreData, isData_shown v h.1, itemsAreData_shown rest h.2]
    rfl

theorem entriesAreData_shown :
    ∀ entries : List (Value × Value), entriesAreData entries = true →
      entriesAreData (shownEntries entries) = true
  | [] => by
    intro _
    rfl
  | (k, v) :: rest => by
    intro h
    obtain ⟨⟨⟨name, hk⟩, hv⟩, hrest⟩ := List.forall_mem_cons.mp (Json.entriesAreData_iff.mp h)
    cases hk
    have hshown := entriesAreData_shown rest (Json.entriesAreData_iff.mpr hrest)
    rw [shownEntries]
    split
    · exact hshown
    · rw [entriesAreData, isData_shown v hv, hshown]
      rfl

end

/-! ## Requests that are not as they should be -/

/-- The part of a request that an issue is about is data if the request is. -/
theorem isData_part {v : Value} (hv : isData v = true) (i : Issue) : isData (i.part v) = true := by
  unfold Issue.part
  split
  · exact hv
  · cases hentries : v.entries? with
    | none => rfl
    | some entries => exact Json.isData_lookup hv hentries _
  · exact hv

/-- The issue is about a part of the request in which a number is shown that is not finite. -/
def Issue.ShowsNonFinite (v : Value) (i : Issue) : Prop :=
  ∃ x ∈ Json.floats (shown (i.part v)), x.isFinite = false

theorem isReportable_iff {v : Value} (hv : isData v = true) (i : Issue) :
    i.isReportable v = true ↔ ¬i.ShowsNonFinite v := by
  rw [Issue.isReportable, Json.print_isSome_iff _ (isData_shown _ (isData_part hv i))]
  simp [Issue.ShowsNonFinite]

def Spells (bytes : List UInt8) (v : Value) : Prop :=
  ∃ text, Json.textOf? bytes = some text ∧ Json.read text = .ok v

theorem Spells.isData {bytes : List UInt8} {v : Value} (h : Spells bytes v) :
    isData v = true := by
  obtain ⟨text, -, hread⟩ := h
  exact Json.isData_of_read hread

/-- What is wrong with the request cannot be told: it shows a number that is not finite. -/
def Unreportable (bytes : List UInt8) : Prop :=
  ∃ v issues, Spells bytes v ∧ Request.ofValue v = .error issues ∧
    ∃ i ∈ issues, i.ShowsNonFinite v

/-! ## Requests that are as they should be -/

/-- The dump of a request is a mapping in the request. -/
theorem isData_program {v : Value} {r : Request} (hv : isData v = true)
    (h : Request.ofValue v = .ok r) : isData (.mapping r.program) = true := by
  unfold Request.ofValue at h
  cases hentries : v.entries? with
  | none =>
    rw [hentries] at h
    cases h
  | some entries =>
    rw [hentries] at h
    dsimp only at h
    split at h
    · rename_i hissues
      cases h
      have hnone := (List.append_eq_nil_iff.mp (List.append_eq_nil_iff.mp hissues).1).1
      unfold readProgram at hnone ⊢
      cases hw : Value.lookup? "program" entries with
      | none =>
        rw [hw] at hnone
        cases hnone
      | some w =>
        have hdata := Json.isData_of_lookup? hv hentries hw
        rw [hw] at hnone
        dsimp only at hnone ⊢
        cases hdump : w.entries? with
        | none =>
          rw [hdump] at hnone
          cases hnone
        | some dump => rwa [Json.isData_entries hdata hdump] at hdata
    · cases h

/-- How a request that is as it should be is served: with the fault of its dump, which is one that
its sender is told of, or with a document for every class. -/
inductive Served (r : Request) : Answer → Prop where
  | noDump {e : Dump.Error} (fault : Dump.program (.mapping r.program) = .error e)
    (reported : (Dump.LoadError.dump e).isReported = true) : Served r (.noDump e)
  | documents {p : Program} {documents : List ClassDocument}
    (read : Dump.program (.mapping r.program) = .ok p)
    (agree : List.Forall₂ (Agrees r.collect) p.classes documents) : Served r (.documents documents)

theorem answerRequest_served {r : Request} (h : isData (.mapping r.program) = true) :
    Served r (answerRequest collector r) := by
  have hfit := Json.numbersFit_of_isData _ h
  unfold answerRequest
  cases hread : Dump.program (.mapping r.program) with
  | error e =>
    cases e with
    | number long =>
      rw [Dump.numbersFit_of_program_number hread] at hfit
      cases hfit
    | noRoot => exact .noDump hread rfl
    | broken loc rule => exact .noDump hread rfl
  | ok p =>
    have hshowable :=
      Dump.program_conforms Value.hereditary_numbersFit Dump.tag_isShowable hfit hread
    obtain ⟨documents, hdocuments, hagree⟩ := Except.exists_mapM_eq_ok fun c hc =>
      classDocument_agrees r.collect (hshowable c hc)
    dsimp only
    rw [hdocuments]
    exact .documents hread hagree

/-! ## All requests -/

variable {bytes : List UInt8} {v : Value}

theorem Spells.answer_eq (h : Spells bytes v) :
    answer collector bytes = answerValue collector v := by
  obtain ⟨text, htext, hread⟩ := h
  exact answer_of_read htext hread

theorem Spells.unique {w : Value} (h : Spells bytes v) (h' : Spells bytes w) : v = w := by
  obtain ⟨text, htext, hread⟩ := h
  obtain ⟨text', htext', hread'⟩ := h'
  rw [htext] at htext'
  cases htext'
  rw [hread] at hread'
  exact Except.ok.inj hread'

/-- The answer is about the request, and not about a body that is missing. -/
def Answer.isOrderly : Answer → Bool
  | .documents _ | .invalid _ | .unreadable | .noDump _ => true
  | .healthy | .missingBody _ | .broken _ => false

theorem status_of_isOrderly {a : Answer} (h : a.isOrderly = true) :
    a.status ∈ [200, 400, 422] := by
  cases a with
  | documents classes => exact List.mem_cons_self
  | invalid issues => exact List.mem_cons_of_mem _ (List.mem_cons_of_mem _ List.mem_cons_self)
  | unreadable => exact List.mem_cons_of_mem _ List.mem_cons_self
  | noDump e => exact List.mem_cons_of_mem _ List.mem_cons_self
  | _ => cases h

theorem Served.isOrderly {r : Request} {a : Answer} (h : Served r a) : a.isOrderly = true := by
  cases h <;> rfl

theorem answer_of_not_spells (h : ∀ v, ¬Spells bytes v) :
    (answer collector bytes).isOrderly = true := by
  unfold answer
  split
  · rfl
  · cases htext : Json.textOf? bytes with
    | none => rfl
    | some text =>
      dsimp only
      cases hread : Json.read text with
      | ok v => exact absurd ⟨text, htext, hread⟩ (h v)
      | error e => cases e <;> rfl

/-- What is wrong with a request is told unless it shows a number that is not finite. -/
theorem answerValue_of_issues {issues : List Issue} (hv : isData v = true)
    (h : Request.ofValue v = .error issues) :
    (answerValue collector v = .broken .unreportable ∧ ∃ i ∈ issues, i.ShowsNonFinite v) ∨
      (answerValue collector v = .invalid issues ∧ ¬∃ i ∈ issues, i.ShowsNonFinite v) := by
  simp only [answerValue_none, h]
  split
  · rename_i hall
    refine .inr ⟨rfl, ?_⟩
    rintro ⟨i, hi, hshows⟩
    exact (isReportable_iff hv i).mp (List.all_eq_true.mp hall i hi) hshows
  · rename_i hall
    refine .inl ⟨rfl, ?_⟩
    by_contra hnone
    refine hall (List.all_eq_true.mpr fun i hi => (isReportable_iff hv i).mpr fun hshows => ?_)
    exact hnone ⟨i, hi, hshows⟩

theorem Spells.served {r : Request} (h : Spells bytes v) (hr : Request.ofValue v = .ok r) :
    Served r (answer collector bytes) := by
  rw [h.answer_eq]
  simp only [answerValue_none, hr]
  exact answerRequest_served (isData_program h.isData hr)

/-- Either what is wrong with a request cannot be told, or it is answered. -/
theorem answer_cases (bytes : List UInt8) :
    (Unreportable bytes ∧ answer collector bytes = .broken .unreportable) ∨
      ¬Unreportable bytes ∧ (answer collector bytes).isOrderly = true := by
  by_cases hspells : ∃ v, Spells bytes v
  · obtain ⟨v, hv⟩ := hspells
    cases hr : Request.ofValue v with
    | ok r =>
      refine .inr ⟨?_, (hv.served hr).isOrderly⟩
      rintro ⟨w, issues, hw, hissues, -⟩
      rw [← hv.unique hw, hr] at hissues
      cases hissues
    | error issues =>
      rw [hv.answer_eq]
      rcases answerValue_of_issues hv.isData hr with ⟨hanswer, hshows⟩ | ⟨hanswer, hnone⟩
      · exact .inl ⟨⟨v, issues, hv, hr, hshows⟩, hanswer⟩
      · refine .inr ⟨?_, by rw [hanswer]; rfl⟩
        rintro ⟨w, issues', hw, hissues, hshows⟩
        rw [← hv.unique hw] at hissues hshows
        rw [hr] at hissues
        cases hissues
        exact hnone hshows
  · have hno : ∀ v, ¬Spells bytes v := fun v hv => hspells ⟨v, hv⟩
    refine .inr ⟨?_, answer_of_not_spells hno⟩
    rintro ⟨v, issues, hv, -⟩
    exact hno v hv

/-- A request of any octets is answered, with the status 200, 400 or 422, unless what is wrong with
it cannot be told. No answer is about a body that is missing. A request that is as it should be is
answered with the fault of its dump, if it has one, and otherwise with a document for every class
in the order of the classes. -/
theorem answer_settles (bytes : List UInt8) :
    ((∃ why, answer collector bytes = .broken why) ↔ Unreportable bytes) ∧
      (¬Unreportable bytes → (answer collector bytes).status ∈ [200, 400, 422]) ∧
      (∀ message, answer collector bytes ≠ .missingBody message) ∧
      ∀ v r, Spells bytes v → Request.ofValue v = .ok r →
        (∀ e, Dump.program (.mapping r.program) = .error e →
          (Dump.LoadError.dump e).isReported = true ∧ answer collector bytes = .noDump e ∧
            (answer collector bytes).status = 400 ∧
            (answer collector bytes).body = Answer.object [("detail", .text e.message)]) ∧
        ∀ p, Dump.program (.mapping r.program) = .ok p →
          ∃ documents, answer collector bytes = .documents documents ∧
            (answer collector bytes).status = 200 ∧
            List.Forall₂ (Agrees r.collect) p.classes documents := by
  have hserved : ∀ v r, Spells bytes v → Request.ofValue v = .ok r →
      Served r (answer collector bytes) := fun _ _ => Spells.served
  have hcases := answer_cases bytes
  generalize answer collector bytes = a at hserved hcases ⊢
  refine ⟨?_, fun hok => ?_, fun message hmissing => ?_, fun v r hv hr => ?_⟩
  · rcases hcases with ⟨hun, rfl⟩ | ⟨hok, horderly⟩
    · exact ⟨fun _ => hun, fun _ => ⟨_, rfl⟩⟩
    · refine ⟨?_, fun hun => absurd hun hok⟩
      rintro ⟨why, rfl⟩
      cases horderly
  · rcases hcases with ⟨hun, -⟩ | ⟨-, horderly⟩
    · exact absurd hun hok
    · exact status_of_isOrderly horderly
  · subst hmissing
    rcases hcases with ⟨-, hbroken⟩ | ⟨-, horderly⟩
    · cases hbroken
    · cases horderly
  · cases hserved v r hv hr with
    | noDump fault reported =>
      rw [fault]
      refine ⟨?_, nofun⟩
      rintro e ⟨⟩
      exact ⟨reported, rfl, rfl, rfl⟩
    | documents read agree =>
      rw [read]
      refine ⟨nofun, ?_⟩
      rintro p ⟨⟩
      exact ⟨_, rfl, rfl, agree⟩

/-- A request for two classes of one name, neither of which has tags. -/
def repeated : List UInt8 :=
  let c := "\x7b\"name\": \"A\"\x7d"
  Text.Utf8.encode
    ("\x7b\"program\": \x7b\"classes\": [" ++ c ++ ", " ++ c ++ "]\x7d\x7d").toList

theorem answer_settles_repeated :
    let p : Program := ⟨[⟨"A", [], [], []⟩, ⟨"A", [], [], []⟩]⟩
    ∃ v r documents, Spells repeated v ∧ Request.ofValue v = .ok r ∧
      Dump.program (.mapping r.program) = .ok p ∧
      answer collector repeated = .documents documents ∧
      (answer collector repeated).status = 200 ∧
      List.Forall₂ (Agrees r.collect) p.classes documents := by
  intro p
  have hrun : ((Json.textOf? repeated).bind fun text => (Json.read text).toOption.bind fun v =>
      (Request.ofValue v).toOption.bind fun r =>
        (Dump.program (.mapping r.program)).toOption) = some p := by
    decide +kernel
  obtain ⟨text, htext, hrun⟩ := Option.bind_eq_some_iff.mp hrun
  obtain ⟨v, hv, hrun⟩ := Option.bind_eq_some_iff.mp hrun
  obtain ⟨r, hr, hp⟩ := Option.bind_eq_some_iff.mp hrun
  have hspells : Spells repeated v := ⟨text, htext, Except.eq_ok_of_toOption hv⟩
  have hvalid : Request.ofValue v = .ok r := Except.eq_ok_of_toOption hr
  have hprogram : Dump.program (.mapping r.program) = .ok p := Except.eq_ok_of_toOption hp
  obtain ⟨-, -, -, hserves⟩ := answer_settles repeated
  obtain ⟨documents, hanswer, hstatus, hagree⟩ := (hserves v r hspells hvalid).2 p hprogram
  exact ⟨v, r, documents, hspells, hvalid, hprogram, hanswer, hstatus, hagree⟩

/-- The dump is a number beyond all that are finite, and this cannot be told. The number is spelled
in digits, not as one of the words `NaN` and `Infinity`. -/
theorem answer_immense :
    let bytes := Text.Utf8.encode "\x7b\"program\": 1e999\x7d".toList
    (∃ text, Json.textOf? bytes = some text ∧ 'N' ∉ text ∧ 'I' ∉ text) ∧
      answer collector bytes = .broken .unreportable ∧
      (answer collector bytes).status ∉ [200, 400, 422] := by
  intro bytes
  have htext : Json.textOf? bytes = some "\x7b\"program\": 1e999\x7d".toList := by decide +kernel
  have hanswer : answer collector bytes = .broken .unreportable := by decide +kernel
  refine ⟨⟨_, htext, by decide +kernel, by decide +kernel⟩, hanswer, ?_⟩
  rw [hanswer]
  decide

end Service

end ProgramTags
