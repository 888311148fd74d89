/-
# `ZeroTrust.Admin.LastOwner` — does a workspace always have an owner?

Over every run of the requests of `Admin.Membership`.  The handlers guard one thing: an
admin or owner cannot remove themselves.  What has to hold of a request for each active
workspace to keep an owner:

    create a workspace   the caller is in `users`, or can be added
    change a role        the target is not the last owner, or becomes one again
    remove a member      the target is not the last owner
    delete a user        not the last owner: of any workspace for the administrators,
                         of the context's workspace in the UI
    anything else        nothing

`exact_…` says for each handler that this keeps an owner and that nothing less does;
`always_owned_iff` is the same for whole runs.
-/
import ZeroTrust.Admin.Ownership

namespace ZeroTrust.Admin.Membership

open Lib

variable {S : Server} {d d' : Directory} {ws u : String}

/-! ## The last owner -/

/-- If the user is an owner of the workspace and it is active, there is another one. -/
def HasOtherOwner (d : Directory) (workspaceId userId : String) : Prop :=
  IsOwner d workspaceId userId → IsActive d workspaceId →
    ∃ other, other ≠ userId ∧ IsOwner d workspaceId other

/-- The caller may remove members. -/
def MayRemove (d : Directory) (ctx : Context) (wsId : String) : Prop :=
  ∃ m, caller d ctx wsId = some m ∧ roleAtLeast m.role "admin" = true

/-- An accepted request leaves every active workspace another owner than the one it
demotes, removes or deletes, and creates no workspace for a caller without a row. -/
def KeepsOwner (S : Server) (s : State) : Event → Prop
  | .createWorkspace ctx req _ => Creates S s.dir req → CreatorKnown S s.dir ctx req.newUserId
  | .updateMemberRole ctx wsId targetUID role =>
      callerOwns s.dir ctx wsId = true → validRole role = true →
        role = "owner" ∨ HasOtherOwner s.dir wsId targetUID
  | .removeMember ctx wsId targetUID =>
      MayRemove s.dir ctx wsId → targetUID ≠ callerId s.dir ctx →
        HasOtherOwner s.dir wsId targetUID
  | .deleteUser userID => userID ≠ "" → ∀ wsId, HasOtherOwner s.dir wsId userID
  | .uiUsersDelete ctx userID =>
      userID ≠ "" → ctx.wsId ≠ "" → HasOtherOwner s.dir ctx.wsId userID
  | _ => True

theorem owned_iff (hd : Keyed d) :
    Owned d ↔ ∀ ws, IsActive d ws → ∃ u, IsOwner d ws u := by
  constructor
  · intro h ws hactive
    obtain ⟨u, hu, -⟩ := h ws hactive
    exact ⟨u, hu⟩
  · intro h ws hactive
    obtain ⟨u, hu⟩ := h ws hactive
    exact ⟨u, hu, hu.known hd⟩

theorem owned_of_grows (hd' : Keyed d') (hactive : ∀ ws, IsActive d' ws → IsActive d ws)
    (howner : ∀ ws u, IsOwner d ws u → IsOwner d' ws u) (h : Owned d) : Owned d' := by
  rw [owned_iff hd']
  intro ws hws
  obtain ⟨u, hu, -⟩ := h ws (hactive ws hws)
  exact ⟨u, howner ws u hu⟩

section Removal

variable {R : String → String → Prop}

/-- Some owners are struck out, at most one a workspace: every workspace still has one iff
each of those struck out was not the last. -/
theorem owned_removed (hd' : Keyed d') (hactive : ∀ ws, IsActive d' ws ↔ IsActive d ws)
    (howner : ∀ ws u, IsOwner d' ws u ↔ IsOwner d ws u ∧ ¬ R ws u)
    (hone : ∀ ws u v, R ws u → v ≠ u → ¬ R ws v) :
    (Owned d → (∀ ws u, R ws u → HasOtherOwner d ws u) → Owned d') ∧
      (Owned d' → ∀ ws u, R ws u → HasOtherOwner d ws u) := by
  constructor
  · intro h hother
    rw [owned_iff hd']
    intro ws hws
    rw [hactive] at hws
    obtain ⟨u, hu, -⟩ := h ws hws
    by_cases hR : R ws u
    · obtain ⟨v, hne, hv⟩ := hother ws u hR hu hws
      exact ⟨v, (howner ws v).mpr ⟨hv, hone ws u v hR hne⟩⟩
    · exact ⟨u, (howner ws u).mpr ⟨hu, hR⟩⟩
  · intro h ws u hR _ hws
    obtain ⟨v, hv, -⟩ := h ws ((hactive ws).mpr hws)
    obtain ⟨hv, hnR⟩ := (howner ws v).mp hv
    exact ⟨v, fun heq => hnR (heq ▸ hR), hv⟩

theorem owned_removeMember (hd : Keyed d) (w t : String) :
    (Owned d → HasOtherOwner d w t → Owned (removeMember d w t)) ∧
      (Owned (removeMember d w t) → HasOtherOwner d w t) := by
  obtain ⟨hkeep, hbreak⟩ := owned_removed (d := d) (R := fun ws u => (ws, u) = (w, t))
    (keyed_removeMember hd w t) (fun ws => isActive_congr rfl) (fun ws u => isOwner_removeMember)
    (fun ws u v hR hne hR' => hne (Prod.mk.inj (hR'.trans hR.symm)).2)
  refine ⟨fun h hother => hkeep h ?_, fun h => hbreak h w t rfl⟩
  rintro ws u heq
  obtain ⟨rfl, rfl⟩ := Prod.mk.inj heq
  exact hother

theorem owned_deleteUser (hd : Keyed d) (t : String) :
    (Owned d → (∀ ws, HasOtherOwner d ws t) → Owned (deleteUser d t)) ∧
      (Owned (deleteUser d t) → ∀ ws, HasOtherOwner d ws t) := by
  obtain ⟨hkeep, hbreak⟩ := owned_removed (d := d) (R := fun _ u => u = t)
    (keyed_deleteUser hd t) (fun ws => isActive_congr rfl) (fun ws u => isOwner_deleteUser)
    (fun ws u v hR hne hR' => hne (hR'.trans hR.symm))
  refine ⟨fun h hother => hkeep h ?_, fun h ws => hbreak h ws t rfl⟩
  rintro ws u rfl
  exact hother ws

theorem owned_updateMemberRole {w t role : String} (hd : Keyed d)
    (h : updateMemberRole d w t role = some d') :
    (Owned d → role = "owner" ∨ HasOtherOwner d w t → Owned d') ∧
      (Owned d' → role = "owner" ∨ HasOtherOwner d w t) := by
  have hd' := keyed_updateMemberRole hd h
  have hactive : ∀ ws, IsActive d' ws ↔ IsActive d ws := by
    intro ws
    rw [updateMemberRole_eq h]
    exact isActive_congr rfl
  by_cases hrole : role = "owner"
  · refine ⟨fun howned _ => ?_, fun _ => Or.inl hrole⟩
    refine owned_of_grows hd' (fun ws => (hactive ws).mp) ?_ howned
    intro ws u hu
    rw [isOwner_updateMemberRole h]
    split
    · exact hrole
    · exact hu
  · obtain ⟨hkeep, hbreak⟩ := owned_removed (d := d) (R := fun ws u => (ws, u) = (w, t)) hd' hactive
      (fun ws u => by
        rw [isOwner_updateMemberRole h]
        by_cases heq : (ws, u) = (w, t) <;> simp [heq, hrole])
      (fun ws u v hR hne hR' => hne (Prod.mk.inj (hR'.trans hR.symm)).2)
    refine ⟨fun howned hother => hkeep howned ?_, fun howned => Or.inr (hbreak howned w t rfl)⟩
    rintro ws u heq
    obtain ⟨rfl, rfl⟩ := Prod.mk.inj heq
    exact hother.resolve_left hrole

end Removal

/-! ## Handler by handler -/

section Specs

variable (s : State) (ctx : Context) (wsId targetUID role userID : String)

theorem handleUpdateMemberRole_spec :
    (callerOwns s.dir ctx wsId = true ∧ validRole role = true ∧
      ∃ dir, updateMemberRole s.dir wsId targetUID role = some dir ∧
        (handleUpdateMemberRole s ctx wsId targetUID role).1 = { s with dir }) ∨
    ((callerOwns s.dir ctx wsId = true → validRole role = true →
        updateMemberRole s.dir wsId targetUID role = none) ∧
      (handleUpdateMemberRole s ctx wsId targetUID role).1 = s) := by
  unfold handleUpdateMemberRole callerOwns
  cases hcaller : caller s.dir ctx wsId with
  | none => exact Or.inr ⟨fun h => absurd h (by decide), rfl⟩
  | some member =>
      dsimp only
      split
      next hrole => exact Or.inr ⟨fun h => absurd (of_decide_eq_true h) hrole, rfl⟩
      next hrole =>
        split
        next hvalid => exact Or.inr ⟨fun _ h => absurd h (by simpa using hvalid), rfl⟩
        next hvalid =>
          split
          next hnone => exact Or.inr ⟨fun _ _ => hnone, rfl⟩
          next dir hsome =>
            exact Or.inl ⟨decide_eq_true (not_not.mp hrole), by simpa using hvalid, dir, hsome, rfl⟩

theorem handleRemoveMember_spec :
    (MayRemove s.dir ctx wsId ∧ targetUID ≠ callerId s.dir ctx ∧
      (handleRemoveMember s ctx wsId targetUID).1 =
        { s with dir := removeMember s.dir wsId targetUID }) ∨
    (¬ (MayRemove s.dir ctx wsId ∧ targetUID ≠ callerId s.dir ctx) ∧
      (handleRemoveMember s ctx wsId targetUID).1 = s) := by
  unfold handleRemoveMember MayRemove
  cases hcaller : caller s.dir ctx wsId with
  | none => exact Or.inr ⟨by simp, rfl⟩
  | some member =>
      dsimp only
      split
      next hrole =>
        refine Or.inr ⟨?_, rfl⟩
        rintro ⟨⟨m, hm, hmay⟩, -⟩
        cases hm
        simp [hmay] at hrole
      next hrole =>
        split
        next hself => exact Or.inr ⟨fun h => h.2 hself, rfl⟩
        next hself => exact Or.inl ⟨⟨member, rfl, by simpa using hrole⟩, hself, rfl⟩

theorem handleDeleteWorkspace_spec :
    (handleDeleteWorkspace s ctx wsId).1 = s ∨
      (handleDeleteWorkspace s ctx wsId).1 = { s with dir := deleteWorkspace s.dir wsId } := by
  unfold handleDeleteWorkspace
  split
  · exact Or.inl rfl
  · split
    · exact Or.inl rfl
    · exact Or.inr rfl

theorem handleDeleteUser_spec :
    (userID = "" ∧ (handleDeleteUser s userID).1 = s) ∨
      (userID ≠ "" ∧ (handleDeleteUser s userID).1 = { s with dir := deleteUser s.dir userID }) := by
  unfold handleDeleteUser
  split
  next hempty => exact Or.inl ⟨hempty, rfl⟩
  next hempty => exact Or.inr ⟨hempty, rfl⟩

/-- First the member of the context's workspace, then the user. -/
theorem handleUIUsersDelete_spec :
    (userID = "" ∧ (handleUIUsersDelete s ctx userID).1 = s) ∨
    (userID ≠ "" ∧ ∃ d₁ d₂, (handleUIUsersDelete s ctx userID).1 = { s with dir := d₂ } ∧
      (ctx.wsId = "" ∧ d₁ = s.dir ∨ ctx.wsId ≠ "" ∧ d₁ = removeMember s.dir ctx.wsId userID) ∧
      (d₂ = d₁ ∨ deleteUserRow d₁ userID = some d₂)) := by
  unfold handleUIUsersDelete
  split
  next hempty => exact Or.inl ⟨hempty, rfl⟩
  next hempty =>
    refine Or.inr ⟨hempty, ?_⟩
    have hmember : ctx.wsId = "" ∧
          (if ctx.wsId ≠ "" then removeMember s.dir ctx.wsId userID else s.dir) = s.dir ∨
        ctx.wsId ≠ "" ∧ (if ctx.wsId ≠ "" then removeMember s.dir ctx.wsId userID else s.dir) =
          removeMember s.dir ctx.wsId userID := by
      by_cases hws : ctx.wsId = ""
      · exact Or.inl ⟨hws, if_neg (not_not.mpr hws)⟩
      · exact Or.inr ⟨hws, if_pos hws⟩
    dsimp only
    split
    · exact ⟨_, _, rfl, hmember, Or.inl rfl⟩
    next dir hsome => exact ⟨_, dir, rfl, hmember, Or.inr hsome⟩

end Specs

/-- What `KeepsOwner` is to a request that leads from `d` to `d'`: kept by requests that
meet it, and met by those that leave every workspace an owner. -/
structure ExactStep (d d' : Directory) (ok : Prop) : Prop where
  keyed : Keyed d'
  keeps : Owned d → ok → Owned d'
  breaks : Owned d' → ok

theorem ExactStep.same {ok : Prop} (hd : Keyed d) (hok : ok) : ExactStep d d ok :=
  ⟨hd, fun h _ => h, fun _ => hok⟩

theorem ExactStep.joins {P : MemberRow → Prop} (hd : Keyed d) (h : Joins S d P d') :
    ExactStep d d' True := by
  have hd' := keyed_joins h hd
  refine ⟨hd', fun howned _ => ?_, fun _ => trivial⟩
  refine owned_of_grows hd' (fun ws hws => ?_) (fun ws u => (isOwner_joins h).1) howned
  rwa [isActive_congr (workspaces_joins h)] at hws

section Exact

variable {s : State}

theorem exact_createWorkspace (hd : Keyed s.dir) (ctx : Context) (req : NewWorkspace)
    (now : Int) :
    ExactStep s.dir (handle S s (.createWorkspace ctx req now)).dir
      (KeepsOwner S s (.createWorkspace ctx req now)) := by
  show ExactStep s.dir (handleCreateWorkspace S s.dir ctx req now).1 _
  by_cases hcreates : Creates S s.dir req
  · have hkeyed : Keyed (handleCreateWorkspace S s.dir ctx req now).1 := keyed_created hd hcreates
    have hactive {ws : String} :
        IsActive (handleCreateWorkspace S s.dir ctx req now).1 ws ↔
          ws = req.wsId ∨ IsActive s.dir ws := by
      rw [isActive_congr (workspaces_created hcreates), isActive_withWorkspace]
    refine ⟨hkeyed, fun howned hknown => (owned_iff hkeyed).mpr ?_, fun howned _ => ?_⟩
    · intro ws hws
      rcases hactive.mp hws with rfl | hws
      · exact ⟨_, (isOwner_created hd hcreates).mpr (Or.inr ⟨hknown hcreates, rfl, rfl⟩)⟩
      · obtain ⟨u, hu, -⟩ := howned ws hws
        exact ⟨u, (isOwner_created hd hcreates).mpr (Or.inl hu)⟩
    · obtain ⟨u, hu, -⟩ := howned req.wsId (hactive.mpr (Or.inl rfl))
      rcases (isOwner_created hd hcreates).mp hu with hold | ⟨hknown, -⟩
      · exact absurd hcreates.2.2.2.2 (hold.workspace hd)
      · exact hknown
  · rw [handleCreateWorkspace_refused hcreates]
    exact .same hd fun h => absurd h hcreates

theorem exact_updateMemberRole (hd : Keyed s.dir) (ctx : Context) (wsId targetUID role : String) :
    ExactStep s.dir (handle S s (.updateMemberRole ctx wsId targetUID role)).dir
      (KeepsOwner S s (.updateMemberRole ctx wsId targetUID role)) := by
  show ExactStep s.dir (handleUpdateMemberRole s ctx wsId targetUID role).1.dir _
  rcases handleUpdateMemberRole_spec s ctx wsId targetUID role with
    ⟨howns, hvalid, dir, hsome, heq⟩ | ⟨hrefused, heq⟩
  · rw [heq]
    obtain ⟨hkeeps, hbreaks⟩ := owned_updateMemberRole hd hsome
    exact ⟨keyed_updateMemberRole hd hsome, fun howned hok => hkeeps howned (hok howns hvalid),
      fun howned _ _ => hbreaks howned⟩
  · rw [heq]
    refine .same hd fun howns hvalid => Or.inr ?_
    -- the target is not a member
    rintro ⟨m, hm, -⟩ _
    have hnone := hrefused howns hvalid
    rw [updateMemberRole, if_neg (by simp [hm])] at hnone
    cases hnone

theorem exact_removeMember (hd : Keyed s.dir) (ctx : Context) (wsId targetUID : String) :
    ExactStep s.dir (handle S s (.removeMember ctx wsId targetUID)).dir
      (KeepsOwner S s (.removeMember ctx wsId targetUID)) := by
  show ExactStep s.dir (handleRemoveMember s ctx wsId targetUID).1.dir _
  rcases handleRemoveMember_spec s ctx wsId targetUID with ⟨hmay, hother, heq⟩ | ⟨hrefused, heq⟩
  · rw [heq]
    obtain ⟨hkeeps, hbreaks⟩ := owned_removeMember hd wsId targetUID
    exact ⟨keyed_removeMember hd _ _, fun howned hok => hkeeps howned (hok hmay hother),
      fun howned _ _ => hbreaks howned⟩
  · rw [heq]
    exact .same hd fun hmay hother => absurd ⟨hmay, hother⟩ hrefused

theorem exact_deleteWorkspace (hd : Keyed s.dir) (ctx : Context) (wsId : String) :
    ExactStep s.dir (handle S s (.deleteWorkspace ctx wsId)).dir True := by
  show ExactStep s.dir (handleDeleteWorkspace s ctx wsId).1.dir _
  rcases handleDeleteWorkspace_spec s ctx wsId with heq | heq
  · rw [heq]
    exact .same hd trivial
  · rw [heq]
    have hd' := keyed_deleteWorkspace hd wsId
    refine ⟨hd', fun howned _ => ?_, fun _ => trivial⟩
    exact owned_of_grows hd' (fun ws hws => (isActive_deleteWorkspace.mp hws).1)
      (fun ws u => (isOwner_congr rfl).mpr) howned

theorem exact_deleteUser (hd : Keyed s.dir) (userID : String) :
    ExactStep s.dir (handle S s (.deleteUser userID)).dir
      (KeepsOwner S s (.deleteUser userID)) := by
  show ExactStep s.dir (handleDeleteUser s userID).1.dir _
  rcases handleDeleteUser_spec s userID with ⟨hempty, heq⟩ | ⟨hid, heq⟩
  · rw [heq]
    exact .same hd fun h => absurd hempty h
  · rw [heq]
    obtain ⟨hkeeps, hbreaks⟩ := owned_deleteUser hd userID
    exact ⟨keyed_deleteUser hd userID, fun howned hok => hkeeps howned (hok hid),
      fun howned _ => hbreaks howned⟩

/-- The deletion of a row of `users` touches no member: the foreign key sees to that. -/
theorem ExactStep.deleteUserRow {d₁ d₂ : Directory} {ok : Prop} {t : String}
    (h : ExactStep d d₁ ok) (hsome : deleteUserRow d₁ t = some d₂) : ExactStep d d₂ ok := by
  have hkeyed := keyed_deleteUserRow h.keyed hsome
  obtain ⟨-, rfl⟩ := deleteUserRow_eq hsome
  refine ⟨hkeyed, fun howned hok => ?_, fun howned => h.breaks ?_⟩
  · exact (owned_iff hkeyed).mpr ((owned_iff h.keyed).mp (h.keeps howned hok))
  · exact (owned_iff h.keyed).mpr ((owned_iff hkeyed).mp howned)

theorem exact_uiUsersDelete (hd : Keyed s.dir) (ctx : Context) (userID : String) :
    ExactStep s.dir (handle S s (.uiUsersDelete ctx userID)).dir
      (KeepsOwner S s (.uiUsersDelete ctx userID)) := by
  show ExactStep s.dir (handleUIUsersDelete s ctx userID).1.dir _
  rcases handleUIUsersDelete_spec s ctx userID with ⟨hempty, heq⟩ |
    ⟨hid, d₁, d₂, heq, hmember, huser⟩
  · rw [heq]
    exact .same hd fun h => absurd hempty h
  · rw [heq]
    have hremoved : ExactStep s.dir d₁ (KeepsOwner S s (.uiUsersDelete ctx userID)) := by
      rcases hmember with ⟨hws, rfl⟩ | ⟨hws, rfl⟩
      · exact .same hd fun _ h => absurd hws h
      · obtain ⟨hkeeps, hbreaks⟩ := owned_removeMember hd ctx.wsId userID
        exact ⟨keyed_removeMember hd _ _, fun howned hok => hkeeps howned (hok hid hws),
          fun howned _ _ => hbreaks howned⟩
    rcases huser with rfl | hsome
    · exact hremoved
    · exact hremoved.deleteUserRow hsome

theorem dir_handleInviteUser (S : Server) (s : State) (ctx : Context)
    (email wsId tokenWsId role token : String) (now : Int) (mailed : Bool) :
    (handleInviteUser S s ctx email wsId tokenWsId role token now mailed).1.dir = s.dir := by
  unfold handleInviteUser
  dsimp only
  generalize (if wsId = "" then tokenWsId else wsId) = target
  split
  · rfl
  split
  · rfl
  split
  · rfl
  split <;> rfl

theorem exact_step (hd : Keyed s.dir) (e : Event) :
    ExactStep s.dir (handle S s e).dir (KeepsOwner S s e) := by
  cases e with
  | createWorkspace ctx req now => exact exact_createWorkspace hd ctx req now
  | addMember ctx wsId email role newUserId =>
      exact .joins hd (handleAddMember_joins S s ctx wsId email role newUserId).2
  | updateMemberRole ctx wsId targetUID role =>
      exact exact_updateMemberRole hd ctx wsId targetUID role
  | removeMember ctx wsId targetUID => exact exact_removeMember hd ctx wsId targetUID
  | deleteWorkspace ctx wsId => exact exact_deleteWorkspace hd ctx wsId
  | deleteUser userID => exact exact_deleteUser hd userID
  | uiUsersPost ctx name email status id =>
      exact .joins hd (handleUIUsersPost_joins S s ctx name email status id).2
  | uiUsersDelete ctx userID => exact exact_uiUsersDelete hd ctx userID
  | inviteUser ctx email wsId tokenWsId role token now mailed =>
      show ExactStep s.dir (handleInviteUser S s ctx email wsId tokenWsId role token now mailed).1.dir _
      rw [dir_handleInviteUser]
      exact .same hd trivial
  | redeemInvite token emailAddr newUserId now =>
      exact .joins hd (redeemInvite_joins S s token emailAddr newUserId now)
  | signup emailAddr newUserId => exact .joins hd (signup_joins S s emailAddr newUserId).2

end Exact

theorem keyed_init : Keyed init.dir :=
  ⟨fun _ hm => absurd hm List.not_mem_nil, fun _ hm => absurd hm List.not_mem_nil⟩

theorem owned_init : Owned init.dir := by
  rintro ws ⟨w, hw, -⟩
  cases hw

theorem run_step_ne_none (S : Server) (es : List Event) (s : State) :
    ∃ t, run (step S) s es = some t := by
  induction es generalizing s with
  | nil => exact ⟨s, rfl⟩
  | cons e es ih =>
      obtain ⟨t, ht⟩ := ih (handle S s e)
      exact ⟨t, run_cons.mpr ⟨_, rfl, ht⟩⟩

/-- **When every active workspace has an owner all along a run:** iff each request of the
run leaves one. -/
theorem always_owned_iff (S : Server) (es : List Event) :
    (∀ pre, pre <+: es → ∀ t, run (step S) init pre = some t → Owned t.dir) ↔
      Meets (step S) (KeepsOwner S) init es := by
  obtain ⟨s, hrun⟩ := run_step_ne_none S es init
  have hkeyed : ∀ (s : State) (e : Event) (s' : State), Keyed s.dir → step S s e = some s' →
      Keyed s'.dir := by
    intro s e s' hd hstep
    cases hstep
    exact (exact_step hd e).keyed
  refine forall_prefix_iff_meets (P := fun s => Owned s.dir) hkeyed ?_ ?_ keyed_init owned_init hrun
  · intro s e s' hd howned hok hstep
    cases hstep
    exact (exact_step hd e).keeps howned hok
  · intro s e s' hd hstep howned
    cases hstep
    exact (exact_step hd e).breaks howned

/-! ### A workspace with one owner -/

/-- Alice signs up and creates a workspace. -/
def foundAcme : List Event :=
  [.signup "alice@acme.io" "usr_1",
    .createWorkspace { email := "alice@acme.io" } ⟨"Acme", "acme", "ws_1", "usr_2", true⟩ 0]

def acme : State where
  dir := {
    accounts := .single ⟨"usr_1", "alice@acme.io", "Active", "Owner"⟩
    workspaces := .single ⟨"ws_1", "Acme", "acme", "active"⟩
    members := .single ⟨"ws_1", "usr_1", "owner"⟩ }
  invites := ∅

theorem run_foundAcme : run (step exampleServer) init foundAcme = some acme := rfl

theorem keyed_acme : Keyed acme.dir := by
  constructor
  · intro m hm
    obtain rfl := List.mem_singleton.mp hm
    exact Option.some_ne_none _
  · intro m hm
    obtain rfl := List.mem_singleton.mp hm
    exact Option.some_ne_none _

theorem isOwner_acme {ws u : String} : IsOwner acme.dir ws u ↔ ws = "ws_1" ∧ u = "usr_1" := by
  constructor
  · rintro ⟨m, hm, -⟩
    obtain ⟨hmem, hkey⟩ := Table.mem_of_get hm
    obtain rfl := List.mem_singleton.mp hmem
    obtain ⟨rfl, rfl⟩ := Prod.mk.inj hkey
    exact ⟨rfl, rfl⟩
  · rintro ⟨rfl, rfl⟩
    exact ⟨_, rfl, rfl⟩

/-- She then takes the role of a member: nobody owns the workspace. -/
theorem sole_owner_steps_down :
    ¬ ∀ (S : Server) (es : List Event) (s : State), run (step S) init es = some s →
      Owned s.dir := by
  intro hall
  have hrun : run (step exampleServer) init
      (foundAcme ++ [.updateMemberRole { userId := "usr_1" } "ws_1" "usr_1" "member"]) =
      some (handle exampleServer acme
        (.updateMemberRole { userId := "usr_1" } "ws_1" "usr_1" "member")) :=
    run_concat.mpr ⟨acme, run_foundAcme, rfl⟩
  have hkeeps := (exact_step keyed_acme _).breaks (hall _ _ _ hrun)
  rcases hkeeps (by decide) (by decide) with hrole | hother
  · exact absurd hrole (by decide)
  · obtain ⟨other, hne, howner⟩ := hother (isOwner_acme.mpr ⟨rfl, rfl⟩) ⟨_, rfl, rfl⟩
    exact hne (isOwner_acme.mp howner).2

end ZeroTrust.Admin.Membership
