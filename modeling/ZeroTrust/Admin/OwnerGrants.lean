/-
# `ZeroTrust.Admin.OwnerGrants` — who makes somebody an owner

Four requests can make an owner.  Changing a role is for owners; adding a member is for
admins too, with any role; an invitation carries any role, is sent by whoever passes
`adminAuth`, and takes effect when it is redeemed.

    `FromOwner`           whoever becomes an owner created the workspace, or an owner
                          asked for it or sent the invitation
    `GrantsByOwners`      what has to hold of the requests
    `owners_from_owners`  over every run

`GrantInv` carries the condition on an invitation from when it is sent to when it is
redeemed.
-/
import ZeroTrust.Admin.LastOwner

namespace ZeroTrust.Admin.Membership

open Lib

variable {S : Server} {d d' : Directory} {ws u : String}

/-! ## Who makes an owner -/

def BecomesOwner (d d' : Directory) (ws u : String) : Prop := IsOwner d' ws u ∧ ¬ IsOwner d ws u

/-- The context of a request that adds a member or changes a role. -/
def Event.context : Event → Option Context
  | .addMember ctx _ _ _ _ => some ctx
  | .updateMemberRole ctx _ _ _ => some ctx
  | _ => none

/-- Whoever becomes an owner has just created the workspace, or was made one by a request
of an owner, or by an invitation that an owner sent. -/
def FromOwner (S : Server) (s : State) (e : Event) : Prop :=
  ∀ ws u, BecomesOwner s.dir (handle S s e).dir ws u →
    (∃ ctx req now, e = .createWorkspace ctx req now ∧ ws = req.wsId ∧
      u = (workspaceOwner S (withWorkspace S s.dir req) ctx req.newUserId).2) ∨
    (∃ ctx, e.context = some ctx ∧ IsOwner s.dir ws (callerId s.dir ctx)) ∨
    ∃ token emailAddr newUserId now row, e = .redeemInvite token emailAddr newUserId now ∧
      s.invites.get token = some row ∧ row.workspaceId = ws ∧ row.byOwner = true

/-- Admins who are not owners add no owners, and invitations of an owner are sent by
owners. -/
def GrantsByOwners (s : State) : Event → Prop
  | .addMember ctx wsId _ role _ =>
      role = "owner" → MayRemove s.dir ctx wsId → callerOwns s.dir ctx wsId = true
  | .inviteUser ctx _ wsId tokenWsId role _ _ _ =>
      role = "owner" → callerOwns s.dir ctx (if wsId = "" then tokenWsId else wsId) = true
  | _ => True

theorem callerOwns_iff {ctx : Context} {wsId : String} :
    callerOwns d ctx wsId = true ↔ IsOwner d wsId (callerId d ctx) := by
  unfold callerOwns caller IsOwner
  rw [Option.any_eq_true]
  simp only [decide_eq_true_eq]

structure GrantInv (s : State) : Prop where
  keyed : Keyed s.dir
  /-- An invitation of an owner was sent by one. -/
  sent : ∀ row ∈ s.invites.rows, row.role = "owner" → row.byOwner = true

theorem grantInv_init : GrantInv init :=
  ⟨keyed_init, fun _ hrow => absurd hrow List.not_mem_nil⟩

section Grants

variable {s : State}

theorem sent_inviteUser (h : GrantInv s) {ctx : Context}
    {email wsId tokenWsId role token : String} {now : Int} {mailed : Bool}
    (hok : GrantsByOwners s (.inviteUser ctx email wsId tokenWsId role token now mailed)) :
    ∀ row ∈ (handleInviteUser S s ctx email wsId tokenWsId role token now mailed).1.invites.rows,
      row.role = "owner" → row.byOwner = true := by
  simp only [GrantsByOwners] at hok
  unfold handleInviteUser
  dsimp only
  generalize (if wsId = "" then tokenWsId else wsId) = target at hok ⊢
  split
  · exact h.sent
  split
  · exact h.sent
  split
  · exact h.sent
  split
  · exact h.sent
  next invites hinsert =>
    obtain ⟨-, rfl⟩ := Table.insert_eq_some hinsert
    intro row hrow hrole
    rcases Table.mem_rows_put.mp hrow with rfl | ⟨hold, -⟩
    · exact hok (role_of_owner hrole)
    · exact h.sent row hold hrole

theorem sent_redeemInvite (h : GrantInv s) (token emailAddr newUserId : String) (now : Int) :
    ∀ row ∈ (redeemInvite S s token emailAddr newUserId now).1.invites.rows,
      row.role = "owner" → row.byOwner = true := by
  have hused : ∀ row ∈ (s.invites.update (setUsed token) (setUsed_token token)).rows,
      row.role = "owner" → row.byOwner = true := by
    intro row hrow
    obtain ⟨old, hold, rfl⟩ := List.mem_map.mp hrow
    unfold setUsed
    split <;> exact h.sent old hold
  unfold redeemInvite
  dsimp only
  split
  · exact h.sent
  split
  · exact h.sent
  split
  · exact h.sent
  split
  · exact h.sent
  split
  · exact hused
  · exact hused

/-- The other requests leave the invitations as they are. -/
theorem invites_handle {e : Event} (hinvite : ∀ ctx email wsId tokenWsId role token now mailed,
      e ≠ .inviteUser ctx email wsId tokenWsId role token now mailed)
    (hredeem : ∀ token emailAddr newUserId now,
      e ≠ .redeemInvite token emailAddr newUserId now) :
    (handle S s e).invites = s.invites := by
  cases e with
  | createWorkspace ctx req now => rfl
  | addMember ctx wsId email role newUserId =>
      exact (handleAddMember_joins S s ctx wsId email role newUserId).1
  | updateMemberRole ctx wsId targetUID role =>
      show (handleUpdateMemberRole s ctx wsId targetUID role).1.invites = _
      rcases handleUpdateMemberRole_spec s ctx wsId targetUID role with
        ⟨-, -, dir, -, heq⟩ | ⟨-, heq⟩ <;> rw [heq]
  | removeMember ctx wsId targetUID =>
      show (handleRemoveMember s ctx wsId targetUID).1.invites = _
      rcases handleRemoveMember_spec s ctx wsId targetUID with ⟨-, -, heq⟩ | ⟨-, heq⟩ <;> rw [heq]
  | deleteWorkspace ctx wsId =>
      show (handleDeleteWorkspace s ctx wsId).1.invites = _
      rcases handleDeleteWorkspace_spec s ctx wsId with heq | heq <;> rw [heq]
  | deleteUser userID =>
      show (handleDeleteUser s userID).1.invites = _
      rcases handleDeleteUser_spec s userID with ⟨-, heq⟩ | ⟨-, heq⟩ <;> rw [heq]
  | uiUsersPost ctx name email status id =>
      exact (handleUIUsersPost_joins S s ctx name email status id).1
  | uiUsersDelete ctx userID =>
      show (handleUIUsersDelete s ctx userID).1.invites = _
      rcases handleUIUsersDelete_spec s ctx userID with ⟨-, heq⟩ | ⟨-, _, _, heq, -⟩ <;> rw [heq]
  | inviteUser ctx email wsId tokenWsId role token now mailed =>
      exact absurd rfl (hinvite ctx email wsId tokenWsId role token now mailed)
  | redeemInvite token emailAddr newUserId now =>
      exact absurd rfl (hredeem token emailAddr newUserId now)
  | signup emailAddr newUserId => rfl

theorem grantInv_step (h : GrantInv s) {e : Event} (hok : GrantsByOwners s e) :
    GrantInv (handle S s e) := by
  refine ⟨(exact_step h.keyed e).keyed, ?_⟩
  cases e with
  | inviteUser ctx email wsId tokenWsId role token now mailed => exact sent_inviteUser h hok
  | redeemInvite token emailAddr newUserId now =>
      exact sent_redeemInvite h token emailAddr newUserId now
  | createWorkspace | addMember | updateMemberRole | removeMember | deleteWorkspace | deleteUser
  | uiUsersPost | uiUsersDelete | signup =>
      rw [invites_handle (by intros; intro heq; cases heq) (by intros; intro heq; cases heq)]
      exact h.sent

/-- Owners are struck out, and none is made. -/
theorem fromOwner_of_shrinks {e : Event}
    (h : ∀ ws u, IsOwner (handle S s e).dir ws u → IsOwner s.dir ws u) : FromOwner S s e :=
  fun ws u ⟨hafter, hbefore⟩ => absurd (h ws u hafter) hbefore

theorem fromOwner_updateMemberRole (ctx : Context) (wsId targetUID role : String) :
    FromOwner S s (.updateMemberRole ctx wsId targetUID role) := by
  rintro ws u ⟨hafter, hbefore⟩
  refine Or.inr (Or.inl ⟨ctx, rfl, ?_⟩)
  have hdir : (handle S s (.updateMemberRole ctx wsId targetUID role)).dir =
      (handleUpdateMemberRole s ctx wsId targetUID role).1.dir := rfl
  rw [hdir] at hafter
  rcases handleUpdateMemberRole_spec s ctx wsId targetUID role with
    ⟨howns, -, dir, hsome, heq⟩ | ⟨-, heq⟩
  · rw [heq, isOwner_updateMemberRole hsome] at hafter
    split at hafter
    next hkey =>
      obtain ⟨rfl, -⟩ := Prod.mk.inj hkey
      exact callerOwns_iff.mp howns
    · exact absurd hafter hbefore
  · rw [heq] at hafter
    exact absurd hafter hbefore

theorem fromOwner_step (h : GrantInv s) {e : Event} (hok : GrantsByOwners s e) :
    FromOwner S s e := by
  cases e with
  | createWorkspace ctx req now =>
      rintro ws u ⟨hafter, hbefore⟩
      refine Or.inl ⟨ctx, req, now, rfl, ?_⟩
      have hdir : (handle S s (.createWorkspace ctx req now)).dir =
          (handleCreateWorkspace S s.dir ctx req now).1 := rfl
      rw [hdir] at hafter
      by_cases hcreates : Creates S s.dir req
      · rw [isOwner_created h.keyed hcreates] at hafter
        exact (hafter.resolve_left hbefore).2
      · rw [handleCreateWorkspace_refused hcreates] at hafter
        exact absurd hafter hbefore
  | addMember ctx wsId email role newUserId =>
      rintro ws u ⟨hafter, hbefore⟩
      have hjoins := (handleAddMember_joins S s ctx wsId email role newUserId).2
      obtain ⟨m, ⟨rfl, howner, hcaller⟩, hkey, hrole⟩ :=
        ((isOwner_joins hjoins).2 hafter).resolve_left hbefore
      obtain ⟨hws, -⟩ := Prod.mk.inj hkey
      refine Or.inr (Or.inl ⟨ctx, rfl, ?_⟩)
      exact hws ▸ callerOwns_iff.mp (hok (howner hrole) hcaller)
  | updateMemberRole ctx wsId targetUID role =>
      exact fromOwner_updateMemberRole ctx wsId targetUID role
  | removeMember ctx wsId targetUID =>
      refine fromOwner_of_shrinks fun ws u => ?_
      show IsOwner (handleRemoveMember s ctx wsId targetUID).1.dir ws u → _
      rcases handleRemoveMember_spec s ctx wsId targetUID with ⟨-, -, heq⟩ | ⟨-, heq⟩
      · rw [heq]
        exact fun hafter => (isOwner_removeMember.mp hafter).1
      · rw [heq]
        exact id
  | deleteWorkspace ctx wsId =>
      refine fromOwner_of_shrinks fun ws u => ?_
      show IsOwner (handleDeleteWorkspace s ctx wsId).1.dir ws u → _
      rcases handleDeleteWorkspace_spec s ctx wsId with heq | heq
      · rw [heq]
        exact id
      · rw [heq]
        exact (isOwner_congr rfl).mp
  | deleteUser userID =>
      refine fromOwner_of_shrinks fun ws u => ?_
      show IsOwner (handleDeleteUser s userID).1.dir ws u → _
      rcases handleDeleteUser_spec s userID with ⟨-, heq⟩ | ⟨-, heq⟩
      · rw [heq]
        exact id
      · rw [heq]
        exact fun hafter => (isOwner_deleteUser.mp hafter).1
  | uiUsersPost ctx name email status id =>
      rintro ws u ⟨hafter, hbefore⟩
      have hjoins := (handleUIUsersPost_joins S s ctx name email status id).2
      obtain ⟨m, hmember, -, hrole⟩ := ((isOwner_joins hjoins).2 hafter).resolve_left hbefore
      exact absurd (hmember.symm.trans hrole) (by decide)
  | uiUsersDelete ctx userID =>
      refine fromOwner_of_shrinks fun ws u => ?_
      show IsOwner (handleUIUsersDelete s ctx userID).1.dir ws u → _
      rcases handleUIUsersDelete_spec s ctx userID with ⟨-, heq⟩ | ⟨-, d₁, d₂, heq, hmember, huser⟩
      · rw [heq]
        exact id
      · rw [heq]
        have hremoved : IsOwner d₁ ws u → IsOwner s.dir ws u := by
          rcases hmember with ⟨-, rfl⟩ | ⟨-, rfl⟩
          · exact id
          · exact fun hafter => (isOwner_removeMember.mp hafter).1
        rcases huser with rfl | hsome
        · exact hremoved
        · obtain ⟨-, rfl⟩ := deleteUserRow_eq hsome
          exact fun hafter => hremoved ((isOwner_congr rfl).mp hafter)
  | inviteUser ctx email wsId tokenWsId role token now mailed =>
      refine fromOwner_of_shrinks fun ws u => ?_
      show IsOwner (handleInviteUser S s ctx email wsId tokenWsId role token now mailed).1.dir ws u → _
      rw [dir_handleInviteUser]
      exact id
  | redeemInvite token emailAddr newUserId now =>
      rintro ws u ⟨hafter, hbefore⟩
      have hjoins := redeemInvite_joins S s token emailAddr newUserId now
      obtain ⟨m, ⟨row, hrow, hws, howner⟩, hkey, hrole⟩ :=
        ((isOwner_joins hjoins).2 hafter).resolve_left hbefore
      obtain ⟨hws', -⟩ := Prod.mk.inj hkey
      refine Or.inr (Or.inr ⟨token, emailAddr, newUserId, now, row, rfl, hrow, ?_, ?_⟩)
      · exact hws.symm.trans hws'
      · exact h.sent row (Table.mem_of_get hrow).1 (howner hrole)
  | signup emailAddr newUserId =>
      rintro ws u ⟨hafter, hbefore⟩
      have hjoins := (signup_joins S s emailAddr newUserId).2
      obtain ⟨m, hnever, -⟩ := ((isOwner_joins hjoins).2 hafter).resolve_left hbefore
      exact hnever.elim

end Grants

/-- **Owner rights come only from owners** in the runs where admins who are not owners
neither add nor invite owners. -/
theorem owners_from_owners (S : Server) (es : List Event)
    (h : Meets (step S) GrantsByOwners init es) : Meets (step S) (FromOwner S) init es := by
  obtain ⟨s, hrun⟩ := run_step_ne_none S es init
  refine meets_imp_of_inv (motive := GrantInv) ?_ ?_ grantInv_init hrun h
  · intro s e s' hinv hok hstep
    cases hstep
    exact grantInv_step hinv hok
  · intro s e s' hinv _ hok
    exact fromOwner_step hinv hok

theorem meets_foundAcme {ok : State → Event → Prop} {es : List Event}
    (hquiet : ∀ s e, e ∈ foundAcme → ok s e) (h : Meets (step exampleServer) ok acme es) :
    Meets (step exampleServer) ok init (foundAcme ++ es) := by
  refine meets_append.mpr ⟨meets_of_forall fun e he s => hquiet s e he, ?_⟩
  intro t ht
  obtain rfl : acme = t := Option.some.inj (run_foundAcme.symm.trans ht)
  exact h

/-- Alice makes Bob an owner of the workspace that she created. -/
theorem acme_owners_from_owners :
    Meets (step exampleServer) (FromOwner exampleServer) init
      (foundAcme ++ [.addMember { userId := "usr_1" } "ws_1" "bob@acme.io" "owner" "usr_3"]) := by
  refine owners_from_owners exampleServer _ (meets_foundAcme ?_ ⟨fun _ _ => by decide, ?_⟩)
  · intro s e he
    rcases List.mem_pair.mp he with rfl | rfl <;> exact trivial
  · exact fun _ _ => trivial

/-- Bob as an admin. -/
def acmeWithAdmin : State :=
  handle exampleServer acme
    (.addMember { userId := "usr_1" } "ws_1" "bob@acme.io" "admin" "usr_3")

/-- Bob, who is an admin, makes Carol an owner. -/
theorem admin_makes_owner :
    ¬ ∀ (S : Server) (es : List Event), Meets (step S) (FromOwner S) init es := by
  intro hall
  have hmeets := hall exampleServer (foundAcme ++
    [.addMember { userId := "usr_1" } "ws_1" "bob@acme.io" "admin" "usr_3",
      .addMember { userId := "usr_3" } "ws_1" "carol@acme.io" "owner" "usr_4"])
  have hfrom := (((meets_append.mp hmeets).2 acme run_foundAcme).2 acmeWithAdmin rfl).1
  have hbefore : ¬ IsOwner acmeWithAdmin.dir "ws_1" "usr_4" := by
    rintro ⟨m, hm, -⟩
    have hnone : acmeWithAdmin.dir.members.get ("ws_1", "usr_4") = none := by decide
    cases hnone.symm.trans hm
  rcases hfrom "ws_1" "usr_4" ⟨⟨_, rfl, rfl⟩, hbefore⟩ with
    ⟨ctx, req, now, heq, -⟩ | ⟨ctx, heq, m, hm, hrole⟩ |
    ⟨token, emailAddr, newUserId, now, row, heq, -⟩
  · cases heq
  · cases heq
    have hadmin : acmeWithAdmin.dir.members.get ("ws_1", "usr_3") =
        some ⟨"ws_1", "usr_3", "admin"⟩ := by decide
    obtain rfl := Option.some.inj (hadmin.symm.trans hm)
    exact absurd hrole (by decide)
  · cases heq

end ZeroTrust.Admin.Membership
