/-
# `ZeroTrust.ControlPlane.Heartbeats` — what a heartbeat writes back

A heartbeat carries an id and an address.  What it saves is the whole entry that the
registry has for the id, with the address and the time replaced: the row gets the entry's
version and workspace too.  They are the row's own as long as the entry comes from the row
(a restart) or the row from the entry (an earlier heartbeat).  A revocation or deletion
takes the entry away; the next heartbeat makes an empty one, and the row becomes empty
with it.

    `refreshes_iff`          one heartbeat changes no more of the row than liveness iff
                             the entry has the row's version and workspace
    `heartbeats_refresh_iff` all heartbeats of a run
-/
import ZeroTrust.ControlPlane.Renewal

namespace ZeroTrust.ControlPlane.Heartbeats

open Lib
open Revocation (ConnectorColumns ConnectorRecord heartbeat_eq registry_heartbeat
  row_saveConnectorToDB)
open Renewal (Settings Event step)

/-- The columns agree but for what a heartbeat is about. -/
structure LivenessOnly (c c' : ConnectorColumns) : Prop where
  version : c'.version = c.version
  workspaceId : c'.workspaceId = c.workspaceId
  revoked : c'.revoked = c.revoked

/-- From `s` to `s'` a heartbeat of the connector refreshes its liveness. -/
structure Refreshes (id : String) (s s' : Revocation.State) : Prop where
  /-- Its row stays, but for the address, `last_seen`, `last_seen_at`, `installed` and
  `status`. -/
  row : ∀ row, s.db.connectors.get id = some row →
    s'.db.connectors.get id = some row ∧ LivenessOnly (s.columns id) (s'.columns id)
  /-- A row made for it has what the registry has. -/
  made : s.db.connectors.get id = none → ∀ r, s.registry.get id = some r →
    (s'.columns id).version = r.version ∧ (s'.columns id).workspaceId = r.workspaceID
  /-- Its entry keeps what the enrolment recorded. -/
  entry : ∀ r, s.registry.get id = some r → ∃ r', s'.registry.get id = some r' ∧
    r'.version = r.version ∧ r'.workspaceID = r.workspaceID
  others : ∀ q, q ≠ id → s'.db.connectors.get q = s.db.connectors.get q ∧
    s'.columns q = s.columns q ∧ s'.registry.get q = s.registry.get q
  tables : { s'.db with connectors := s.db.connectors } = s.db

/-- The entry that a heartbeat would save has the row's version and workspace. -/
def InStep (s : Revocation.State) (id : String) : Prop :=
  ∀ row, s.db.connectors.get id = some row →
    (s.registry.entry id).version = (s.columns id).version ∧
      (s.registry.entry id).workspaceID = (s.columns id).workspaceId

section Heartbeat

variable {s : Revocation.State} {id privateIP : String} {now : SystemTime}

theorem entry_of_get {r : ConnectorRecord} (h : s.registry.get id = some r) :
    s.registry.entry id = r := by
  rw [Revocation.Registry.entry, h, Option.getD_some]

/-- The connector's own row: the entry's version and workspace, on what was there. -/
theorem row_heartbeat (s : Revocation.State) (id privateIP : String) (now : SystemTime) :
    ((s.heartbeat id privateIP now).columns id).version = (s.registry.entry id).version ∧
    ((s.heartbeat id privateIP now).columns id).workspaceId = (s.registry.entry id).workspaceID ∧
    (∀ row, s.db.connectors.get id = some row →
      (s.heartbeat id privateIP now).db.connectors.get id = some row ∧
      ((s.heartbeat id privateIP now).columns id).revoked = (s.columns id).revoked) ∧
    { (s.heartbeat id privateIP now).db with connectors := s.db.connectors } = s.db := by
  have hid := s.registry.id_entry id
  unfold Revocation.State.heartbeat
  simp only [Revocation.Registry.get_recordHeartbeat, if_true]
  unfold Revocation.State.saveConnectorToDB
  simp only [hid]
  cases hrow : s.db.connectors.get id with
  | none => simp
  | some row => simp [Revocation.State.updateRow, hrow]

theorem refreshes_iff :
    Refreshes id s (s.heartbeat id privateIP now) ↔ InStep s id := by
  obtain ⟨hversion, hworkspace, hrow, htables⟩ := row_heartbeat s id privateIP now
  constructor
  · intro h row hget
    obtain ⟨-, hsame⟩ := h.row row hget
    exact ⟨hversion.symm.trans hsame.version, hworkspace.symm.trans hsame.workspaceId⟩
  · intro h
    refine ⟨fun row hget => ?_, fun _ r hr => ?_, fun r hr => ?_, fun q hq => ?_, htables⟩
    · obtain ⟨hstays, hrevoked⟩ := hrow row hget
      obtain ⟨hv, hw⟩ := h row hget
      exact ⟨hstays, hversion.trans hv, hworkspace.trans hw, hrevoked⟩
    · rw [← entry_of_get hr]
      exact ⟨hversion, hworkspace⟩
    · refine ⟨_, (registry_heartbeat s id privateIP now id).trans (if_pos rfl), ?_, ?_⟩
      · rw [entry_of_get hr]
      · rw [entry_of_get hr]
    · obtain ⟨s₁, r, hsaved, hid, hdb, hcolumns, -⟩ := heartbeat_eq s id privateIP now
      obtain ⟨hother, hothers⟩ := row_saveConnectorToDB (s := s₁) (hid ▸ hq)
      refine ⟨?_, ?_, (registry_heartbeat s id privateIP now q).trans (if_neg hq)⟩
      · rw [hsaved, hother, hdb]
      · rw [hsaved, hothers, hcolumns]

end Heartbeat

section Runs

variable {CA Key : Type}

/-- If the step is a heartbeat, it refreshes liveness only. -/
def HeartbeatRefreshes (cfg : Settings CA Key) (s : Renewal.State CA Key) : Event → Prop
  | .heartbeat id privateIP now =>
      ∀ s', step cfg s (.heartbeat id privateIP now) = some s' → Refreshes id s.control s'.control
  | _ => True

/-- If the step is a heartbeat, the registry is in step with the row. -/
def HeartbeatInStep (s : Renewal.State CA Key) : Event → Prop
  | .heartbeat id _ _ => InStep s.control id
  | _ => True

/-- **Heartbeats only refresh liveness** in a run of enrolments, heartbeats, deletions,
revocations, grants, other requests and restarts iff each of them finds the registry in
step with the connector's row. -/
theorem heartbeats_refresh_iff (cfg : Settings CA Key) (control : Revocation.State)
    (tokens : Controller.EnrolmentTokens.Tokens) (workspaces : Table Renewal.WorkspaceRow.id)
    (es : List Event) (s : Renewal.State CA Key)
    (hrun : run (step cfg) (.start control tokens workspaces) es = some s) :
    Meets (step cfg) (HeartbeatRefreshes cfg) (.start control tokens workspaces) es ↔
      Meets (step cfg) HeartbeatInStep (.start control tokens workspaces) es := by
  refine meets_congr (fun s e s' hstep => ?_) hrun
  cases e with
  | heartbeat id privateIP now =>
      cases hstep
      simp only [HeartbeatRefreshes, HeartbeatInStep, step, Option.some.injEq, forall_eq',
        refreshes_iff]
  | _ => exact Iff.rfl

end Runs

/-! ## A connector that is revoked, and one that is not -/

/-- Enrolled, with a heartbeat; a restart, and another heartbeat. -/
def restarted : List Event :=
  [.createToken ⟨"t", "", 3600, false, ""⟩, .enrollConnector Renewal.connectorRequest 0,
    .heartbeat "con_1" "10.0.0.2" 1, .restart, .heartbeat "con_1" "10.0.0.3" 2]

theorem restarted_refreshes :
    Meets (step Renewal.exampleSettings) (HeartbeatRefreshes Renewal.exampleSettings)
      (.start Renewal.noTables ∅ ∅) restarted := by
  refine (heartbeats_refresh_iff Renewal.exampleSettings Renewal.noTables ∅ ∅ restarted
    _ rfl).mpr ?_
  refine meets_cons trivial rfl (meets_cons trivial rfl (meets_cons ?_ rfl
    (meets_cons trivial rfl (meets_cons ?_ rfl trivial))))
  · intro row hrow
    cases hrow
  · exact fun _ _ => ⟨rfl, rfl⟩

/-- The same connector is revoked: its next heartbeat takes the version out of its row. -/
theorem revoked_loses_version :
    ¬ ∀ (CA Key : Type) (cfg : Settings CA Key) (control : Revocation.State)
      (tokens : Controller.EnrolmentTokens.Tokens) (workspaces : Table Renewal.WorkspaceRow.id)
      (es : List Event) (s : Renewal.State CA Key),
      run (step cfg) (.start control tokens workspaces) es = some s →
        Meets (step cfg) (HeartbeatRefreshes cfg) (.start control tokens workspaces) es := by
  intro hall
  have hmeets := hall String Unit Renewal.exampleSettings Renewal.noTables ∅ ∅
    [.createToken ⟨"t", "", 3600, false, ""⟩, .enrollConnector Renewal.connectorRequest 0,
      .heartbeat "con_1" "10.0.0.2" 1, .request (.revoke "con_1"),
      .heartbeat "con_1" "10.0.0.2" 2] _ rfl
  obtain ⟨-, hmeets⟩ := hmeets
  obtain ⟨-, hmeets⟩ := hmeets _ rfl
  obtain ⟨-, hmeets⟩ := hmeets _ rfl
  obtain ⟨-, hmeets⟩ := hmeets _ rfl
  obtain ⟨hrefreshes, -⟩ := hmeets _ rfl
  have hversion := ((hrefreshes _ rfl).row _ rfl).2.version
  exact absurd hversion (by decide)

end ZeroTrust.ControlPlane.Heartbeats
