/-
# `ZeroTrust.Admin.ScanJobs` — a scan from the request to the report

Two parties set a job's status.  The handler of the request creates the job, sends the
command and then marks the job as in progress; the receive loop of the connector's
stream completes it, or fails it, when the report arrives.  Nothing orders the report
after the mark: it can arrive any time after the command was sent.

    handler         pending          → send →        in_progress
    receive loop                           report →  completed, failed

Each of the functions of the store sets the status whatever it was, so a job that is
finished stays so iff nobody marks it, or creates another one under its id, afterwards
(`finished_stays_iff`).
-/
import ZeroTrust.Lib.Run
import ZeroTrust.ControlPlane.ReceiveLoop

namespace ZeroTrust.Admin.ScanJobs

open Lib
open ControlPlane
open ReceiveLoop (ScanJob ScanStore ScanStatus Unmarshal ControlMessage receive)

/-! ## The store -/

/-- `ScanStore.Create`: a new job in pending state. -/
def create (s : ScanStore) (requestID connectorID : String) (targets : List String)
    (ports : List UInt16) (now : SystemTime) : ScanStore :=
  s.put ⟨requestID, connectorID, .pending, targets, ports, now, none, [], ""⟩

/-- `ScanStore.MarkInProgress`. -/
def markInProgress (s : ScanStore) (requestID : String) : ScanStore :=
  match s.get requestID with
  | some job => s.put { job with status := .inProgress }
  | none => s

/-! ## The handler -/

structure ScanRequest where
  connectorID : String
  targets : List String
  ports : List UInt16

/-- The checks of `handleStartScan`; `none` if the request passes. -/
def checkScan (req : ScanRequest) : Option String :=
  if req.connectorID = "" then some "connector_id is required"
  else if req.targets = [] then some "targets is required"
  else if req.ports = [] then some "ports is required"
  else if req.ports.length > 16 then some "too many ports (max 16)"
  else none

inductive Phase where
  | created
  | sent
  | answered

/-- A request that has created its job. -/
structure Call where
  requestID : String
  connectorID : String
  phase : Phase

structure State where
  control : ReceiveLoop.State
  calls : List Call

/-- What becomes of the command. -/
inductive Sending where
  | notMarshalled
  /-- The error of `SendToConnector`. -/
  | notSent (err : String)
  | sent

inductive Event where
  /-- `requestID` is sixteen random bytes, in hex. -/
  | startScan (req : ScanRequest) (requestID : String) (now : SystemTime)
  | sendCommand (n : Nat) (outcome : Sending) (now : SystemTime)
  | markInProgress (n : Nat)
  /-- A message on the stream of a connector. -/
  | message (msg : ControlMessage) (now : SystemTime) (nowISO : String)

namespace State

def withStore (s : State) (scanStore : ScanStore) : State :=
  { s with control := { s.control with scanStore } }

def setPhase (s : State) (n : Nat) (call : Call) (phase : Phase) : State :=
  { s with calls := s.calls.set n { call with phase } }

end State

def step (unmarshal : Unmarshal) (s : State) : Event → Option State
  | .startScan req requestID now =>
      match checkScan req with
      | some _ => some s
      | none => some { s.withStore (create s.control.scanStore requestID req.connectorID
          req.targets req.ports now) with
            calls := s.calls ++ [⟨requestID, req.connectorID, .created⟩] }
  | .sendCommand n outcome now =>
      match s.calls[n]? with
      | some ⟨requestID, connectorID, .created⟩ =>
          let call : Call := ⟨requestID, connectorID, .created⟩
          match outcome with
          | .notMarshalled => some ((s.withStore (s.control.scanStore.fail requestID
              "failed to marshal scan command" now)).setPhase n call .answered)
          | .notSent err => some ((s.withStore (s.control.scanStore.fail requestID
              ("connector not connected: " ++ err) now)).setPhase n call .answered)
          | .sent => some (s.setPhase n call .sent)
      | _ => none
  | .markInProgress n =>
      match s.calls[n]? with
      | some ⟨requestID, connectorID, .sent⟩ =>
          some ((s.withStore (markInProgress s.control.scanStore requestID)).setPhase n
            ⟨requestID, connectorID, .sent⟩ .answered)
      | _ => none
  | .message msg now nowISO =>
      some { s with control := (receive unmarshal msg now s.control nowISO).1 }

/-! ## Finished jobs -/

def Done : ScanStatus → Prop
  | .completed | .failed => True
  | .pending | .inProgress => False

/-- The job of a request is completed or failed. -/
def Finished (s : ScanStore) (requestID : String) : Prop :=
  ∃ job, s.get requestID = some job ∧ Done job.status

/-- What is finished in the one stays so in the other. -/
def Stays (s s' : State) : Prop :=
  ∀ requestID, Finished s.control.scanStore requestID → Finished s'.control.scanStore requestID

/-- The step neither marks a finished job nor creates one in its place. -/
def Orderly (s : State) : Event → Prop
  | .startScan req requestID _ =>
      checkScan req = none → ¬ Finished s.control.scanStore requestID
  | .markInProgress n =>
      ∀ call, s.calls[n]? = some call → ¬ Finished s.control.scanStore call.requestID
  | _ => True

section Store

variable {s : ScanStore}

/-- A job is put under its id, and nothing else changes. -/
theorem finished_put {job : ScanJob} {requestID : String} :
    Finished (s.put job) requestID ↔
      if requestID = job.requestID then Done job.status else Finished s requestID := by
  unfold Finished
  rw [Table.get_put]
  split <;> simp

theorem finished_create {requestID connectorID : String} {targets : List String}
    {ports : List UInt16} {now : SystemTime} {q : String} :
    Finished (create s requestID connectorID targets ports now) q ↔
      q ≠ requestID ∧ Finished s q := by
  rw [create, finished_put]
  split
  next hq => simp [hq, Done]
  next hq => simp [hq]

theorem finished_markInProgress {requestID q : String} :
    Finished (markInProgress s requestID) q ↔ q ≠ requestID ∧ Finished s q := by
  unfold markInProgress
  split
  next job hget =>
    rw [finished_put, (Table.mem_of_get hget).2]
    split
    next hq => simp [hq, Done]
    next hq => simp [hq]
  next hget =>
    have hnot : ¬ Finished s requestID := by
      rintro ⟨job, hjob, -⟩
      rw [hget] at hjob
      cases hjob
    constructor
    · rintro hq
      exact ⟨fun heq => hnot (heq ▸ hq), hq⟩
    · exact And.right

/-- `Complete` and `Fail` finish a job, if there is one, and change no other. -/
theorem finished_amend {f : ScanJob → ScanJob} (hdone : ∀ job, Done (f job).status)
    {requestID q : String} (h : Finished s q) :
    Finished (match s.get requestID with
      | some job => s.put (f job)
      | none => s) q := by
  split
  next job hget =>
    rw [finished_put]
    split
    · exact hdone job
    · exact h
  · exact h

theorem finished_fail {requestID errMsg q : String} {now : SystemTime} (h : Finished s q) :
    Finished (s.fail requestID errMsg now) q :=
  finished_amend
    (f := fun job => { job with status := .failed, completedAt := some now, error := errMsg })
    (fun _ => trivial) h

theorem finished_complete {requestID q : String} {results : List ReceiveLoop.DiscoveredResource}
    {now : SystemTime} (h : Finished s q) : Finished (s.complete requestID results now) q :=
  finished_amend
    (f := fun job => { job with status := .completed, completedAt := some now, results })
    (fun _ => trivial) h

end Store

section Steps

variable {unmarshal : Unmarshal} {s s' : State}

theorem finished_scanReport {c : ReceiveLoop.State} {msg : ControlMessage} {now : SystemTime}
    {q : String} (h : Finished c.scanStore q) :
    Finished (ReceiveLoop.scanReport unmarshal msg now c).scanStore q := by
  unfold ReceiveLoop.scanReport
  split
  next requestID results error _ =>
    cases error with
    | none => exact finished_complete h
    | some e =>
        simp only
        split
        · exact finished_fail h
        · exact finished_complete h
  · exact h

/-- Of all messages only reports touch the store, and they finish jobs. -/
theorem finished_receive {c : ReceiveLoop.State} {msg : ControlMessage} {now : SystemTime}
    {nowISO q : String} (h : Finished c.scanStore q) :
    Finished (receive unmarshal msg now c nowISO).1.scanStore q := by
  unfold receive
  split
  · exact h
  split
  · exact h
  split
  · show Finished (ReceiveLoop.agentHeartbeat unmarshal msg now c).scanStore q
    unfold ReceiveLoop.agentHeartbeat
    split <;> exact h
  split
  · show Finished (ReceiveLoop.aclDecision unmarshal msg now c).scanStore q
    unfold ReceiveLoop.aclDecision
    split <;> exact h
  split
  · show Finished (ReceiveLoop.agentLog unmarshal msg c nowISO).scanStore q
    unfold ReceiveLoop.agentLog
    split
    · split <;> exact h
    · exact h
  split
  · exact finished_scanReport h
  · exact h

/-- A step takes a finished job back iff it is out of order. -/
theorem stays_iff_orderly {e : Event} (h : step unmarshal s e = some s') :
    Stays s s' ↔ Orderly s e := by
  cases e with
  | startScan req requestID now =>
      simp only [step] at h
      split at h
      next hchecked =>
        cases h
        simp [Stays, Orderly, hchecked]
      next hchecked =>
        cases h
        simp only [Orderly, hchecked, forall_const]
        constructor
        · intro hstays hfinished
          exact (finished_create.mp (hstays requestID hfinished)).1 rfl
        · intro hnot q hq
          refine finished_create.mpr ⟨?_, hq⟩
          rintro rfl
          exact hnot hq
  | sendCommand n outcome now =>
      refine iff_of_true (fun q hq => ?_) trivial
      simp only [step] at h
      split at h
      · split at h
        · cases h
          exact finished_fail hq
        · cases h
          exact finished_fail hq
        · cases h
          exact hq
      · cases h
  | markInProgress n =>
      simp only [step] at h
      split at h
      next requestID connectorID hcall =>
        cases h
        simp only [Orderly, hcall, Option.some.injEq, forall_eq']
        constructor
        · intro hstays hfinished
          exact (finished_markInProgress.mp (hstays requestID hfinished)).1 rfl
        · intro hnot q hq
          refine finished_markInProgress.mpr ⟨?_, hq⟩
          rintro rfl
          exact hnot hq
      · cases h
  | message msg now nowISO =>
      cases h
      exact iff_of_true (fun q hq => finished_receive hq) trivial

end Steps

/-- Meanwhile nothing that is finished is taken back. -/
def FinishedStays (unmarshal : Unmarshal) (s : State) (es : List Event) : Prop :=
  ∀ pre mid post, es = pre ++ mid ++ post → ∀ t u, run (step unmarshal) s pre = some t →
    run (step unmarshal) t mid = some u → Stays t u

/-- **A finished scan stays finished** in a run iff no step marks a finished job as in
progress or creates a job under the id of one. -/
theorem finished_stays_iff (unmarshal : Unmarshal) (s s' : State) (es : List Event)
    (hrun : run (step unmarshal) s es = some s') :
    FinishedStays unmarshal s es ↔ Meets (step unmarshal) Orderly s es := by
  have hrelated := related_iff_meets (R := Stays) (fun s q hq => hq)
    (fun s t u hst htu q hq => htu q (hst q hq)) hrun
  refine hrelated.trans (meets_congr (fun s e s' hstep => ?_) hrun)
  simp only [hstep, Option.some.injEq, forall_eq', stays_iff_orderly hstep]

/-! ## A fast scan -/

def noJobs : State := ⟨ReceiveLoop.oneConnector, []⟩

/-- The report of the scan that the controller calls `r1`. -/
def reportUnmarshal : Unmarshal where
  agents _ := none
  agentHeartbeat _ := none
  decision _ := none
  agentLog _ := none
  scanReport _ := some ⟨"r1", [], none⟩

def started : List Event :=
  [.startScan ⟨"con_1", ["10.0.0.0/24"], [22]⟩ "r1" 0, .sendCommand 0 .sent 0]

def reported : Event :=
  .message { type := "scan_report", payload := "\x7b\"request_id\":\"r1\"\x7d".toUTF8 } 1 ""

/-- The report comes after the mark. -/
theorem slow_scan_stays : FinishedStays reportUnmarshal noJobs
    (started ++ [.markInProgress 0, reported]) := by
  refine (finished_stays_iff reportUnmarshal noJobs _ _ rfl).mpr ?_
  have hpending : ∀ {s : ScanStore} {job : ScanJob}, s.get "r1" = some job → ¬ Done job.status →
      ¬ Finished s "r1" := by
    rintro s job hjob hnot ⟨job', hjob', hdone⟩
    exact hnot (Option.some.inj (hjob.symm.trans hjob') ▸ hdone)
  refine meets_cons (fun _ => ?_) rfl (meets_cons trivial rfl (meets_cons ?_ rfl
    (meets_cons trivial rfl trivial)))
  · rintro ⟨job, hjob, -⟩
    cases hjob
  · intro call hcall
    cases hcall
    exact hpending rfl id

/-- The report comes before the mark: the scan is in progress for ever. -/
theorem fast_scan_is_taken_back :
    ¬ ∀ (unmarshal : Unmarshal) (es : List Event) (s : State),
      run (step unmarshal) noJobs es = some s → FinishedStays unmarshal noJobs es := by
  intro hall
  have hstays := hall reportUnmarshal (started ++ [reported, .markInProgress 0]) _ rfl
    (started ++ [reported]) [.markInProgress 0] [] rfl _ _ rfl rfl "r1" ⟨_, rfl, trivial⟩
  exact (finished_markInProgress.mp hstays).1 rfl

end ZeroTrust.Admin.ScanJobs
