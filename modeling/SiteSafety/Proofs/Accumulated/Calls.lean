import Mathlib.Data.List.Forall2
import SiteSafety.Accumulated
import SiteSafety.Proofs.Rows

namespace SiteSafety.Accumulated

/-- One step that is asked for. The calls with arguments of their own may lack some. -/
inductive Request where
  | step (row : Measurement)
  | call (row : Option Measurement) (input output : Bool)
  | numberCall (node : Option BareMeasurement) (input output : Bool)

def place (s : Accumulated) (given : Bool) : Option Accumulated := if given then some s else none

namespace Request

def isComplete : Request → Bool
  | step _ => true
  | call row input output => row.isSome && input && output
  | numberCall node input output => node.isSome && input && output

/-- What is reported, if anything, and what the state is afterwards. A call reads the state and writes
over it in place. -/
def perform (s : Accumulated) : Request → Option CallStatus × Accumulated
  | step row => (none, s.step row)
  | call row input output =>
    let (status, written) := stepCall row (s.place input) (s.place output)
    (some status, written.getD s)
  | numberCall node input output =>
    let (status, written) := numberStepCall node (s.place input) (s.place output)
    (some status, written.getD s)

def report : Request → Option CallStatus
  | step _ => none
  | q => some (if q.isComplete then .ok else .err)

/-- A request that lacks nothing, and its row. Numbers are those of any row that has them. -/
inductive Asks : Request → Measurement → Prop
  | step (r : Measurement) : Asks (step r) r
  | call (r : Measurement) : Asks (call (some r) true true) r
  | numberCall (r : Measurement) (code : UInt8) : Asks (numberCall (some (r.numbers code)) true true) r

end Request

def session (s : Accumulated) : List Request → List (Option CallStatus) × Accumulated
  | [] => ([], s)
  | q :: requests =>
    let (report, t) := q.perform s
    let (reports, last) := session t requests
    (report :: reports, last)

/-- The rows of the requests that lack nothing, in their order. -/
def RowsOf (requests : List Request) (rows : List Measurement) : Prop :=
  List.Forall₂ Request.Asks (requests.filter Request.isComplete) rows

variable {s : Accumulated} {q : Request} {r : Measurement}

theorem place_getD (given : Bool) : (s.place given).getD s = s := by
  cases given <;> rfl

theorem isSome_place (given : Bool) : (s.place given).isSome = given := by
  cases given <;> rfl

theorem stepCall_cases (row : Option Measurement) (input output : Option Accumulated) :
    (∃ r s, row = some r ∧ input = some s ∧ output.isSome = true ∧
      stepCall row input output = (.ok, some (s.step r))) ∨
    (row.isSome && input.isSome && output.isSome) = false ∧
      stepCall row input output = (.err, output) := by
  cases row with
  | none => exact .inr ⟨rfl, rfl⟩
  | some r =>
      cases input with
      | none => exact .inr ⟨rfl, rfl⟩
      | some s =>
          cases output with
          | none => exact .inr ⟨rfl, rfl⟩
          | some u => exact .inl ⟨r, s, rfl, rfl, rfl, rfl⟩

theorem stepCall_eq_ok {row : Option Measurement} {output : Option Accumulated} {t : Accumulated}
    (h : stepCall row (some s) output = (.ok, some t)) : ∃ r, t = s.step r := by
  obtain ⟨r, u, -, hu, -, heq⟩ | ⟨-, heq⟩ := stepCall_cases row (some s) output
  · rw [heq] at h
    cases hu
    cases h
    exact ⟨r, rfl⟩
  · rw [heq] at h
    cases h

theorem stepCall_eq_err {row : Option Measurement} {input : Option Accumulated} {t : Accumulated}
    (h : stepCall row input (some s) = (.err, some t)) : t = s := by
  obtain ⟨r, u, -, -, -, heq⟩ | ⟨-, heq⟩ := stepCall_cases row input (some s)
  · rw [heq] at h
    cases h
  · rw [heq] at h
    cases h
    rfl

theorem numberStepCall_eq (node : Option BareMeasurement) (input output : Option Accumulated) :
    numberStepCall node input output = stepCall (node.map BareMeasurement.row) input output := by
  cases node <;> cases input <;> cases output <;> rfl

namespace Request

theorem perform_numberCall (node : Option BareMeasurement) (input output : Bool) :
    (numberCall node input output).perform s =
      (call (node.map BareMeasurement.row) input output).perform s := by
  rw [perform, perform, numberStepCall_eq]

theorem isComplete_numberCall (node : Option BareMeasurement) (input output : Bool) :
    (numberCall node input output).isComplete =
      (call (node.map BareMeasurement.row) input output).isComplete := by
  rw [isComplete, isComplete, Option.isSome_map]

theorem perform_call (row : Option Measurement) (input output : Bool) :
    (call row input output).perform s =
      (some (stepCall row (s.place input) (s.place output)).1,
        (stepCall row (s.place input) (s.place output)).2.getD s) := rfl

theorem perform_call_of_incomplete {row : Option Measurement} {input output : Bool}
    (h : (call row input output).isComplete = false) :
    (call row input output).perform s = (some .err, s) := by
  obtain ⟨r, t, rfl, hinput, houtput, -⟩ | ⟨-, heq⟩ :=
    stepCall_cases row (s.place input) (s.place output)
  · have hgiven : (s.place input).isSome = true := hinput ▸ rfl
    rw [isSome_place] at hgiven houtput
    rw [hgiven, houtput] at h
    cases h
  · rw [perform_call, heq, place_getD]

theorem perform_of_incomplete (h : q.isComplete = false) : q.perform s = (some .err, s) := by
  cases q with
  | step r => cases h
  | call row input output => exact perform_call_of_incomplete h
  | numberCall node input output =>
      rw [perform_numberCall]
      exact perform_call_of_incomplete (isComplete_numberCall node input output ▸ h)

theorem report_of_incomplete (h : q.isComplete = false) : q.report = some .err := by
  cases q with
  | step r => cases h
  | call | numberCall =>
      rw [report, h]
      · rfl
      · nofun

theorem Asks.perform_eq (h : q.Asks r) : q.perform s = (q.report, s.step r) := by
  cases h <;> rfl

theorem exists_asks (h : q.isComplete = true) : ∃ r, q.Asks r := by
  cases q with
  | step r => exact ⟨r, .step r⟩
  | call row input output =>
      rw [isComplete, Bool.and_eq_true, Bool.and_eq_true, Option.isSome_iff_exists] at h
      obtain ⟨⟨⟨r, rfl⟩, rfl⟩, rfl⟩ := h
      exact ⟨r, .call r⟩
  | numberCall node input output =>
      rw [isComplete, Bool.and_eq_true, Bool.and_eq_true, Option.isSome_iff_exists] at h
      obtain ⟨⟨⟨n, rfl⟩, rfl⟩, rfl⟩ := h
      exact ⟨n.row, n.numbers_row ▸ .numberCall n.row n.contaminant⟩

end Request

theorem exists_rowsOf (requests : List Request) : ∃ rows, RowsOf requests rows := by
  induction requests with
  | nil => exact ⟨[], .nil⟩
  | cons q requests ih =>
      obtain ⟨rows, hrows⟩ := ih
      cases hq : q.isComplete with
      | false => exact ⟨rows, by rwa [RowsOf, List.filter_cons_of_neg (by simp [hq])]⟩
      | true =>
          obtain ⟨r, hr⟩ := Request.exists_asks hq
          exact ⟨r :: rows, by rw [RowsOf, List.filter_cons_of_pos hq]; exact .cons hr hrows⟩

theorem session_cons (s : Accumulated) (q : Request) (requests : List Request) :
    session s (q :: requests) =
      ((q.perform s).1 :: (session (q.perform s).2 requests).1,
        (session (q.perform s).2 requests).2) := rfl

theorem session_eq {requests : List Request} {rows : List Measurement} (h : RowsOf requests rows) :
    session s requests = (requests.map Request.report, s.run rows) := by
  -- for every state, since a complete request changes the one that the rest start from
  induction requests generalizing s rows with
  | nil =>
      cases h
      rfl
  | cons q requests ih =>
      rw [session_cons]
      cases hq : q.isComplete with
      | false =>
          rw [RowsOf, List.filter_cons_of_neg (by simp [hq])] at h
          rw [Request.perform_of_incomplete hq, ih h, List.map_cons, Request.report_of_incomplete hq]
      | true =>
          rw [RowsOf, List.filter_cons_of_pos hq] at h
          cases h with
          | cons hr hrows =>
              rw [hr.perform_eq, ih hrows]
              rfl

/-- A session of requests, of any kinds and however many lack an argument: those are refused and leave
the state as it is, all other calls report success, and the state is run over the rows of all requests
that lacked nothing. -/
theorem session_run (s : Accumulated) (requests : List Request) :
    (∃ rows, RowsOf requests rows) ∧
    (∀ rows, RowsOf requests rows →
      session s requests = (requests.map Request.report, s.run rows)) ∧
    ∀ (q : Request) (t : Accumulated), q.isComplete = false → q.perform t = (some .err, t) :=
  ⟨exists_rowsOf requests, fun _ => session_eq, fun _ _ => Request.perform_of_incomplete⟩

def halvedLoad : BareMeasurement := ⟨10, 2, 0.5, 4, 2⟩

/-- Requests of every kind; of the calls, two lack an argument. -/
def mixedRequests : List Request :=
  [ .step halvedLoad.row, .call none true true, .call (some halvedLoad.row) true false,
    .numberCall (some halvedLoad) true true ]

theorem session_run_mixedRequests :
    session zero mixedRequests =
        ([none, some .err, some .err, some .ok], zero.run [halvedLoad.row, halvedLoad.row]) ∧
      zero.run [halvedLoad.row, halvedLoad.row] = ⟨2, 4⟩ :=
  ⟨(session_run zero mixedRequests).2.1 _ (.cons (.step _) (.cons (.numberCall halvedLoad.row 2) .nil)),
    by decide +kernel⟩

end SiteSafety.Accumulated
