/-
# `ZeroTrust.Admin.Ownership` — what the requests do to the owners

The store's methods are looked at once, with what each does to the owners of a workspace
(`isOwner_…`) and that each keeps the foreign keys (`keyed_…`).  Of the handlers, those
that only add are one relation, `Joins`: at most a user and then at most a member.  The
creation of a workspace is two lemmas, for the refused and for the accepted request
(`isOwner_created`).
-/
import ZeroTrust.Admin.Membership

namespace ZeroTrust.Admin.Membership

open Lib

/-! ## Owners and the store -/

def IsOwner (d : Directory) (workspaceId userId : String) : Prop :=
  ∃ m, d.members.get (workspaceId, userId) = some m ∧ m.role = "owner"

def IsActive (d : Directory) (workspaceId : String) : Prop :=
  ∃ w, d.workspaces.get workspaceId = some w ∧ w.status = "active"

/-- Every active workspace has an owner who is in `users`. -/
def Owned (d : Directory) : Prop :=
  ∀ workspaceId, IsActive d workspaceId →
    ∃ userId, IsOwner d workspaceId userId ∧ d.accounts.get userId ≠ none

/-- The foreign keys of `workspace_members`. -/
structure Keyed (d : Directory) : Prop where
  user : ∀ m ∈ d.members.rows, d.accounts.get m.userId ≠ none
  workspace : ∀ m ∈ d.members.rows, d.workspaces.get m.workspaceId ≠ none

variable {S : Server} {d d' : Directory} {ws u : String}

theorem IsOwner.known (h : IsOwner d ws u) (hd : Keyed d) : d.accounts.get u ≠ none := by
  obtain ⟨m, hm, -⟩ := h
  obtain ⟨hmem, hkey⟩ := Table.mem_of_get hm
  obtain ⟨-, rfl⟩ := Prod.mk.inj hkey
  exact hd.user m hmem

theorem IsOwner.workspace (h : IsOwner d ws u) (hd : Keyed d) : d.workspaces.get ws ≠ none := by
  obtain ⟨m, hm, -⟩ := h
  obtain ⟨hmem, hkey⟩ := Table.mem_of_get hm
  obtain ⟨rfl, -⟩ := Prod.mk.inj hkey
  exact hd.workspace m hmem

theorem isOwner_congr (h : d'.members = d.members) : IsOwner d' ws u ↔ IsOwner d ws u := by
  rw [IsOwner, IsOwner, h]

/-- A user is added, and nothing else is. -/
theorem createUser_eq {a : Account} (h : createUser S d a = some d') :
    d' = { d with accounts := d.accounts.put a } := by
  unfold createUser at h
  split at h
  · cases h
  · obtain ⟨accounts, hinsert, rfl⟩ := Option.map_eq_some_iff.mp h
    rw [(Table.insert_eq_some hinsert).2]

theorem get_put_ne_none {ρ κ : Type} [DecidableEq κ] {key : ρ → κ} {t : Table key} {k : κ}
    (h : t.get k ≠ none) (r : ρ) : (t.put r).get k ≠ none := by
  rw [Table.get_put]
  split
  · exact Option.some_ne_none _
  · exact h

theorem isOwner_createUser {a : Account} (h : createUser S d a = some d') :
    IsOwner d' ws u ↔ IsOwner d ws u :=
  isOwner_congr (by rw [createUser_eq h])

theorem keyed_createUser {a : Account} (hd : Keyed d) (h : createUser S d a = some d') :
    Keyed d' := by
  rw [createUser_eq h]
  exact ⟨fun m hm => get_put_ne_none (hd.user m hm) a, hd.workspace⟩

theorem addMember_eq {m : MemberRow} (h : addMember d m = some d') :
    d.workspaces.get m.workspaceId ≠ none ∧ d.accounts.get m.userId ≠ none ∧
      d' = { d with members := (d.members.insert m).getD d.members } := by
  unfold addMember Directory.addMember at h
  split at h
  · cases h
  next hws =>
    split at h
    · cases h
    next huser => exact ⟨hws, huser, (Option.some.inj h).symm⟩

theorem mem_rows_insert {m x : MemberRow} {t : Table MemberRow.key}
    (h : x ∈ ((t.insert m).getD t).rows) : x = m ∨ x ∈ t.rows := by
  unfold Table.insert at h
  split at h
  · rcases Table.mem_rows_put.mp h with rfl | ⟨hx, -⟩
    · exact Or.inl rfl
    · exact Or.inr hx
  · exact Or.inr h

theorem keyed_addMember {m : MemberRow} (hd : Keyed d) (h : addMember d m = some d') :
    Keyed d' := by
  obtain ⟨hws, huser, rfl⟩ := addMember_eq h
  constructor
  · intro x hx
    rcases mem_rows_insert hx with rfl | hx
    · exact huser
    · exact hd.user x hx
  · intro x hx
    rcases mem_rows_insert hx with rfl | hx
    · exact hws
    · exact hd.workspace x hx

/-- `ON CONFLICT DO NOTHING`: a member keeps the role. -/
theorem isOwner_insert {m : MemberRow} :
    IsOwner { d with members := (d.members.insert m).getD d.members } ws u ↔
      IsOwner d ws u ∨ (d.members.get m.key = none ∧ m.key = (ws, u) ∧ m.role = "owner") := by
  unfold IsOwner Table.insert
  by_cases hfree : d.members.get m.key = none
  · simp only [hfree, if_true, Option.getD_some, Table.get_put, true_and]
    by_cases hkey : (ws, u) = m.key
    · rw [if_pos hkey, hkey, hfree]
      simp
    · have hkey' : m.key ≠ (ws, u) := fun h => hkey h.symm
      simp [if_neg hkey, hkey']
  · simp [hfree]

theorem isOwner_removeMember {w t : String} :
    IsOwner (removeMember d w t) ws u ↔ IsOwner d ws u ∧ (ws, u) ≠ (w, t) := by
  simp only [IsOwner, removeMember, Table.get_filter_ne]
  by_cases hkey : (ws, u) = (w, t)
  · simp [hkey]
  · simp [hkey]

theorem keyed_removeMember (hd : Keyed d) (w t : String) : Keyed (removeMember d w t) :=
  ⟨fun m hm => hd.user m (List.mem_filter.mp hm).1,
    fun m hm => hd.workspace m (List.mem_filter.mp hm).1⟩

theorem updateMemberRole_eq {w t role : String} (h : updateMemberRole d w t role = some d') :
    d' = { d with members := d.members.update (setRole (w, t) role) (setRole_key _ _) } := by
  unfold updateMemberRole at h
  split at h
  · cases h
  · exact (Option.some.inj h).symm

theorem isOwner_updateMemberRole {w t role : String}
    (h : updateMemberRole d w t role = some d') :
    IsOwner d' ws u ↔ if (ws, u) = (w, t) then role = "owner" else IsOwner d ws u := by
  have hmember : d.members.get (w, t) ≠ none := by
    intro hnone
    rw [updateMemberRole, if_pos hnone] at h
    cases h
  rw [updateMemberRole_eq h]
  simp only [IsOwner, Table.get_update]
  cases hget : d.members.get (ws, u) with
  | none =>
      have hne : (ws, u) ≠ (w, t) := fun heq => hmember (heq ▸ hget)
      simp [hne]
  | some m =>
      obtain ⟨-, hkey⟩ := Table.mem_of_get hget
      by_cases heq : (ws, u) = (w, t)
      · simp [setRole, hkey, heq]
      · simp [setRole, hkey, heq]

theorem keyed_updateMemberRole {w t role : String} (hd : Keyed d)
    (h : updateMemberRole d w t role = some d') : Keyed d' := by
  rw [updateMemberRole_eq h]
  have hkeys : ∀ m, (setRole (w, t) role m).userId = m.userId ∧
      (setRole (w, t) role m).workspaceId = m.workspaceId := by
    intro m
    unfold setRole
    split <;> exact ⟨rfl, rfl⟩
  constructor
  · intro x hx
    obtain ⟨m, hm, rfl⟩ := List.mem_map.mp hx
    rw [(hkeys m).1]
    exact hd.user m hm
  · intro x hx
    obtain ⟨m, hm, rfl⟩ := List.mem_map.mp hx
    rw [(hkeys m).2]
    exact hd.workspace m hm

theorem isOwner_deleteUser {t : String} :
    IsOwner (deleteUser d t) ws u ↔ IsOwner d ws u ∧ u ≠ t := by
  simp only [IsOwner, deleteUser, Table.get_filter]
  cases hget : d.members.get (ws, u) with
  | none => simp
  | some m =>
      obtain ⟨-, hkey⟩ := Table.mem_of_get hget
      obtain ⟨-, rfl⟩ := Prod.mk.inj hkey
      by_cases heq : m.userId = t <;> simp [heq]

theorem keyed_deleteUser (hd : Keyed d) (t : String) : Keyed (deleteUser d t) := by
  constructor
  · intro m hm
    obtain ⟨hmem, hne⟩ := List.mem_filter.mp hm
    simp only [deleteUser, Table.get_filter_ne]
    rw [if_neg (of_decide_eq_true hne)]
    exact hd.user m hmem
  · exact fun m hm => hd.workspace m (List.mem_filter.mp hm).1

theorem deleteUserRow_eq {t : String} (h : deleteUserRow d t = some d') :
    (∀ m ∈ d.members.rows, m.userId ≠ t) ∧
      d' = { d with accounts := d.accounts.filter fun a => a.id ≠ t } := by
  unfold deleteUserRow at h
  split at h
  · cases h
  next hmember =>
    refine ⟨?_, (Option.some.inj h).symm⟩
    intro m hm heq
    exact hmember (List.any_eq_true.mpr ⟨m, hm, decide_eq_true heq⟩)

theorem keyed_deleteUserRow {t : String} (hd : Keyed d) (h : deleteUserRow d t = some d') :
    Keyed d' := by
  obtain ⟨hfree, rfl⟩ := deleteUserRow_eq h
  refine ⟨?_, hd.workspace⟩
  intro m hm
  show (d.accounts.filter fun a => a.id ≠ t).get m.userId ≠ none
  rw [Table.get_filter_ne, if_neg (hfree m hm)]
  exact hd.user m hm

theorem isActive_deleteWorkspace {id : String} :
    IsActive (deleteWorkspace d id) ws ↔ IsActive d ws ∧ ws ≠ id := by
  simp only [IsActive, deleteWorkspace, Table.get_update]
  cases hget : d.workspaces.get ws with
  | none => simp
  | some w =>
      obtain ⟨-, rfl⟩ := Table.mem_of_get hget
      by_cases heq : w.id = id <;> simp [setDeleted, heq]

theorem keyed_deleteWorkspace (hd : Keyed d) (id : String) : Keyed (deleteWorkspace d id) := by
  refine ⟨hd.user, ?_⟩
  intro m hm
  simp only [deleteWorkspace, Table.get_update, ne_eq, Option.map_eq_none_iff]
  exact hd.workspace m hm

/-! ## Requests that only add -/

/-- At most a user and then at most a member are added, the member one that meets `P`. -/
inductive Joins (S : Server) (d : Directory) (P : MemberRow → Prop) : Directory → Prop
  | nothing : Joins S d P d
  | user {a : Account} {d' : Directory} : createUser S d a = some d' → Joins S d P d'
  | member {m : MemberRow} {d₁ d' : Directory} :
      d₁ = d ∨ (∃ a, createUser S d a = some d₁) → P m → addMember d₁ m = some d' →
      Joins S d P d'

section Joins

variable {P : MemberRow → Prop}

theorem Joins.of_addMember {m : MemberRow} {d₁ : Directory}
    (h : d₁ = d ∨ ∃ a, createUser S d a = some d₁) (hm : P m) :
    Joins S d P ((addMember d₁ m).getD d₁) := by
  cases hadd : addMember d₁ m with
  | none =>
      rcases h with rfl | ⟨a, ha⟩
      · exact .nothing
      · exact .user ha
  | some d' => exact .member h hm hadd

theorem keyed_joins (h : Joins S d P d') (hd : Keyed d) : Keyed d' := by
  cases h with
  | nothing => exact hd
  | user hcreate => exact keyed_createUser hd hcreate
  | member huser _ hadd =>
      rcases huser with rfl | ⟨a, hcreate⟩
      · exact keyed_addMember hd hadd
      · exact keyed_addMember (keyed_createUser hd hcreate) hadd

theorem workspaces_joins (h : Joins S d P d') : d'.workspaces = d.workspaces := by
  cases h with
  | nothing => rfl
  | user hcreate => rw [createUser_eq hcreate]
  | member huser _ hadd =>
      rw [(addMember_eq hadd).2.2]
      rcases huser with rfl | ⟨a, hcreate⟩
      · rfl
      · rw [createUser_eq hcreate]

/-- The owners afterwards are those before, and the member who was added, if as one. -/
theorem isOwner_joins (h : Joins S d P d') :
    (IsOwner d ws u → IsOwner d' ws u) ∧
      (IsOwner d' ws u → IsOwner d ws u ∨ ∃ m, P m ∧ m.key = (ws, u) ∧ m.role = "owner") := by
  cases h with
  | nothing => exact ⟨id, Or.inl⟩
  | user hcreate =>
      have hsame : IsOwner d' ws u ↔ IsOwner d ws u := isOwner_createUser hcreate
      exact ⟨hsame.mpr, fun h => Or.inl (hsame.mp h)⟩
  | @member m d₁ _ huser hm hadd =>
      have hsame : IsOwner d₁ ws u ↔ IsOwner d ws u := by
        rcases huser with rfl | ⟨a, hcreate⟩
        · exact Iff.rfl
        · exact isOwner_createUser hcreate
      rw [(addMember_eq hadd).2.2, isOwner_insert, hsame]
      refine ⟨Or.inl, ?_⟩
      rintro (hold | ⟨-, hkey, hrole⟩)
      · exact Or.inl hold
      · exact Or.inr ⟨m, hm, hkey, hrole⟩

end Joins

section Handlers

variable {s : State}

theorem findOrCreateUser_cases {email newUserId userId : String}
    (h : findOrCreateUser S d email newUserId = some (d', userId)) :
    d' = d ∨ ∃ a, createUser S d a = some d' := by
  unfold findOrCreateUser at h
  split at h
  · cases h
    exact Or.inl rfl
  · obtain ⟨d₁, hcreate, heq⟩ := Option.map_eq_some_iff.mp h
    cases heq
    exact Or.inr ⟨_, hcreate⟩

theorem getD_createUser (S : Server) (d : Directory) (a : Account) :
    (createUser S d a).getD d = d ∨ ∃ b, createUser S d b = some ((createUser S d a).getD d) := by
  cases hcreate : createUser S d a with
  | none => exact Or.inl rfl
  | some d' => exact Or.inr ⟨a, hcreate⟩

/-- No role given means `member`. -/
theorem role_of_owner {role : String} (h : (if role = "" then "member" else role) = "owner") :
    role = "owner" := by
  split at h
  · exact absurd h (by decide)
  · exact h

/-- A member is added by an admin or an owner, with the role of the request. -/
theorem handleAddMember_joins (S : Server) (s : State) (ctx : Context)
    (wsId email role newUserId : String) :
    (handleAddMember S s ctx wsId email role newUserId).1.invites = s.invites ∧
      Joins S s.dir (fun m => m.workspaceId = wsId ∧ (m.role = "owner" → role = "owner") ∧
          ∃ c, caller s.dir ctx wsId = some c ∧ roleAtLeast c.role "admin" = true)
        (handleAddMember S s ctx wsId email role newUserId).1.dir := by
  unfold handleAddMember
  split
  · exact ⟨rfl, .nothing⟩
  next member hcaller =>
    split
    · exact ⟨rfl, .nothing⟩
    next hrole =>
      dsimp only
      generalize hgiven : (if role = "" then "member" else role) = given
      split
      · exact ⟨rfl, .nothing⟩
      split
      · exact ⟨rfl, .nothing⟩
      split
      · exact ⟨rfl, .nothing⟩
      next dir targetId hfound =>
        have huser := findOrCreateUser_cases hfound
        split
        · refine ⟨rfl, ?_⟩
          rcases huser with rfl | ⟨a, hcreate⟩
          · exact .nothing
          · exact .user hcreate
        next d' hadd =>
          refine ⟨rfl, .member huser ⟨rfl, ?_, member, hcaller, by simpa using hrole⟩ hadd⟩
          exact fun howner => role_of_owner (hgiven.trans howner)

theorem handleUIUsersPost_joins (S : Server) (s : State) (ctx : Context)
    (name email status id : String) :
    (handleUIUsersPost S s ctx name email status id).1.invites = s.invites ∧
      Joins S s.dir (fun m => m.role = "member")
        (handleUIUsersPost S s ctx name email status id).1.dir := by
  unfold handleUIUsersPost
  split
  · exact ⟨rfl, .nothing⟩
  · dsimp only
    split
    · exact ⟨rfl, .nothing⟩
    next dir hcreate =>
      refine ⟨rfl, ?_⟩
      dsimp only
      split
      · exact .of_addMember (Or.inr ⟨_, hcreate⟩) rfl
      · exact .user hcreate

theorem signup_joins (S : Server) (s : State) (emailAddr newUserId : String) :
    (signup S s emailAddr newUserId).1.invites = s.invites ∧
      Joins S s.dir (fun _ => False) (signup S s emailAddr newUserId).1.dir := by
  refine ⟨rfl, ?_⟩
  rcases getD_createUser S s.dir
    ⟨newUserId, S.unicode.stringsToLower emailAddr, "Active", "Owner"⟩ with h | ⟨b, h⟩
  · show Joins S s.dir _ ((createUser S s.dir _).getD s.dir)
    rw [h]
    exact .nothing
  · exact .user h

/-- A redeemed invitation gives the role it was sent with. -/
theorem redeemInvite_joins (S : Server) (s : State) (token emailAddr newUserId : String)
    (now : Int) :
    Joins S s.dir (fun m => ∃ row, s.invites.get token = some row ∧
        m.workspaceId = row.workspaceId ∧ (m.role = "owner" → row.role = "owner"))
      (redeemInvite S s token emailAddr newUserId now).1.dir := by
  unfold redeemInvite
  dsimp only
  split
  · exact .nothing
  next row hrow =>
    split
    · exact .nothing
    split
    · exact .nothing
    split
    · exact .nothing
    have huser := getD_createUser S s.dir
      ⟨newUserId, S.unicode.stringsToLower emailAddr, "Active", "Member"⟩
    split
    · exact .of_addMember huser ⟨row, hrow, rfl, role_of_owner⟩
    · dsimp only
      rcases huser with h | ⟨b, h⟩
      · rw [h]
        exact .nothing
      · exact .user h

end Handlers

/-! ## Creating a workspace -/

/-- The request is accepted up to the point where the workspace is stored. -/
def Creates (S : Server) (d : Directory) (req : NewWorkspace) : Prop :=
  trim req.name ≠ "" ∧ validateSlug (S.unicode.stringsToLower (trim req.slug)) = "" ∧
    d.getWorkspaceBySlug (S.unicode.stringsToLower (trim req.slug)) = none ∧
    req.caIssued = true ∧ d.workspaces.get req.wsId = none

/-- The caller is in `users`, or can be added. -/
def CreatorKnown (S : Server) (d : Directory) (ctx : Context) (newUserId : String) : Prop :=
  if ctx.userId ≠ "" then d.accounts.get ctx.userId ≠ none
  else (∃ a ∈ d.accounts.rows, a.email = ctx.email) ∨
    (∀ a ∈ d.accounts.rows, S.sqlLower a.email ≠ S.sqlLower ctx.email) ∨
    d.accounts.get newUserId ≠ none

/-- The workspace's row, stored. -/
def withWorkspace (S : Server) (d : Directory) (req : NewWorkspace) : Directory :=
  { d with
    workspaces := d.workspaces.put
      ⟨req.wsId, trim req.name, S.unicode.stringsToLower (trim req.slug), "active"⟩ }

theorem handleCreateWorkspace_refused {ctx : Context} {req : NewWorkspace} {now : Int}
    (h : ¬ Creates S d req) : (handleCreateWorkspace S d ctx req now).1 = d := by
  simp only [handleCreateWorkspace]
  split
  · rfl
  next hname =>
    split
    · rfl
    next hslug =>
      split
      · rfl
      next htaken =>
        split
        · rfl
        next hissued =>
          split
          · rfl
          next workspaces hinsert =>
            refine absurd ⟨hname, not_not.mp hslug, ?_, ?_, (Table.insert_eq_some hinsert).1⟩ h
            · simpa using htaken
            · simpa using hissued

theorem handleCreateWorkspace_created {ctx : Context} {req : NewWorkspace} {now : Int}
    (h : Creates S d req) : (handleCreateWorkspace S d ctx req now).1 =
      ((workspaceOwner S (withWorkspace S d req) ctx req.newUserId).1.addMember
        ⟨req.wsId, (workspaceOwner S (withWorkspace S d req) ctx req.newUserId).2, "owner"⟩).getD
        (workspaceOwner S (withWorkspace S d req) ctx req.newUserId).1 := by
  obtain ⟨hname, hslug, hfree, hissued, hfresh⟩ := h
  simp only [handleCreateWorkspace, hname, hslug, hfree, hissued, Table.insert, hfresh, if_true,
    if_false, ne_eq, not_true_eq_false, Option.isSome_none, Bool.false_eq_true, Bool.not_true]
  unfold withWorkspace
  split
  next hnone => rw [hnone]; rfl
  next d' hsome => rw [hsome]; rfl

/-- `CreateUser` as the creation of a workspace uses it: the error is not looked at. -/
theorem directory_createUser_cases (S : Server) (d : Directory) (a : Account) :
    d.createUser S a = d ∨ d.createUser S a = { d with accounts := d.accounts.put a } := by
  unfold Directory.createUser
  split
  · exact Or.inl rfl
  · unfold Table.insert
    split
    · exact Or.inr rfl
    · exact Or.inl rfl

structure OwnerFound (S : Server) (d : Directory) (ctx : Context) (newUserId : String)
    (d' : Directory) (userId : String) : Prop where
  members : d'.members = d.members
  workspaces : d'.workspaces = d.workspaces
  accounts : ∀ k, d.accounts.get k ≠ none → d'.accounts.get k ≠ none
  known : d'.accounts.get userId ≠ none ↔ CreatorKnown S d ctx newUserId

theorem workspaceOwner_found (S : Server) (d : Directory) (ctx : Context) (newUserId : String) :
    OwnerFound S d ctx newUserId (workspaceOwner S d ctx newUserId).1
      (workspaceOwner S d ctx newUserId).2 := by
  unfold workspaceOwner
  by_cases huser : ctx.userId ≠ ""
  · rw [if_pos huser]
    exact ⟨rfl, rfl, fun _ h => h, by rw [CreatorKnown, if_pos huser]⟩
  · rw [if_neg huser]
    split
    next u hu =>
      refine ⟨rfl, rfl, fun _ h => h, ?_⟩
      have hmem : u ∈ d.accounts.rows := List.mem_of_find?_eq_some hu
      have hemail : u.email = ctx.email :=
        of_decide_eq_true (List.find?_some (p := fun a : Account => decide (a.email = ctx.email)) hu)
      refine iff_of_true ?_ ?_
      · rw [Table.get_of_mem hmem]
        exact Option.some_ne_none _
      · rw [CreatorKnown, if_neg huser]
        exact Or.inl ⟨u, hmem, hemail⟩
    next hnone =>
      have hunknown : ¬ ∃ a ∈ d.accounts.rows, a.email = ctx.email := by
        rintro ⟨a, ha, hemail⟩
        have hno := List.find?_eq_none.mp hnone a ha
        simp [hemail] at hno
      have hcases := directory_createUser_cases S d ⟨newUserId, ctx.email, "Active", "Admin"⟩
      refine ⟨?_, ?_, ?_, ?_⟩
      · rcases hcases with h | h <;> rw [h]
      · rcases hcases with h | h <;> rw [h]
      · intro k hk
        rcases hcases with h | h <;> rw [h]
        · exact hk
        · exact get_put_ne_none hk _
      · rw [CreatorKnown, if_neg huser, or_iff_right hunknown]
        simp only [Directory.createUser]
        split
        next hspelled =>
          obtain ⟨a, ha, hsame⟩ := List.any_eq_true.mp hspelled
          refine (or_iff_right ?_).symm
          exact fun hnone => hnone a ha (of_decide_eq_true hsame)
        next hfree =>
          have hnone : ∀ a ∈ d.accounts.rows, S.sqlLower a.email ≠ S.sqlLower ctx.email :=
            fun a ha hsame => hfree (List.any_eq_true.mpr ⟨a, ha, decide_eq_true hsame⟩)
          refine iff_of_true ?_ (Or.inl hnone)
          unfold Table.insert
          split
          · rw [Option.getD_some, Table.get_put, if_pos rfl]
            exact Option.some_ne_none _
          next htaken => exact htaken

theorem isActive_congr (h : d'.workspaces = d.workspaces) : IsActive d' ws ↔ IsActive d ws := by
  rw [IsActive, IsActive, h]

theorem isActive_withWorkspace {req : NewWorkspace} :
    IsActive (withWorkspace S d req) ws ↔ ws = req.wsId ∨ IsActive d ws := by
  simp only [IsActive, withWorkspace, Table.get_put]
  by_cases h : ws = req.wsId
  · simp [h]
  · simp [h]

/-- A workspace that was just stored: its owner is the caller, if the caller is known. -/
theorem isOwner_created {ctx : Context} {req : NewWorkspace} {now : Int} (hd : Keyed d)
    (h : Creates S d req) :
    IsOwner (handleCreateWorkspace S d ctx req now).1 ws u ↔ IsOwner d ws u ∨
      (CreatorKnown S d ctx req.newUserId ∧ ws = req.wsId ∧
        u = (workspaceOwner S (withWorkspace S d req) ctx req.newUserId).2) := by
  rw [handleCreateWorkspace_created h]
  have hfound := workspaceOwner_found S (withWorkspace S d req) ctx req.newUserId
  generalize workspaceOwner S (withWorkspace S d req) ctx req.newUserId = o at hfound ⊢
  have hmembers : IsOwner o.1 ws u ↔ IsOwner d ws u := isOwner_congr hfound.members
  have hknown : o.1.accounts.get o.2 ≠ none ↔ CreatorKnown S d ctx req.newUserId := hfound.known
  unfold Directory.addMember
  by_cases hnone : o.1.accounts.get o.2 = none
  · rw [if_pos hnone, Option.getD_none, hmembers, or_iff_left]
    rintro ⟨hcreator, -⟩
    exact hknown.mpr hcreator hnone
  · -- nobody is a member of a workspace that was not there before
    have hfresh : o.1.members.get (req.wsId, o.2) = none := by
      rw [hfound.members, Table.get_eq_none]
      intro m hm hkey
      obtain ⟨hws, -⟩ := Prod.mk.inj hkey
      exact hd.workspace m hm (hws ▸ h.2.2.2.2)
    have hinsert : IsOwner { o.1 with
        members := (o.1.members.insert ⟨req.wsId, o.2, "owner"⟩).getD o.1.members } ws u ↔ _ :=
      isOwner_insert
    rw [if_neg hnone, Option.getD_some, hinsert, hmembers]
    refine or_congr_right ?_
    simp only [MemberRow.key, hfresh, hknown.mp hnone, true_and, and_true, Prod.mk.injEq,
      eq_comm]

theorem keyed_created {ctx : Context} {req : NewWorkspace} {now : Int} (hd : Keyed d)
    (h : Creates S d req) : Keyed (handleCreateWorkspace S d ctx req now).1 := by
  rw [handleCreateWorkspace_created h]
  have hfound := workspaceOwner_found S (withWorkspace S d req) ctx req.newUserId
  generalize workspaceOwner S (withWorkspace S d req) ctx req.newUserId = o at hfound ⊢
  have hkeyed : Keyed o.1 := by
    constructor
    · intro m hm
      rw [hfound.members] at hm
      exact hfound.accounts _ (hd.user m hm)
    · intro m hm
      rw [hfound.members] at hm
      rw [hfound.workspaces]
      exact get_put_ne_none (hd.workspace m hm) _
  have hws : o.1.workspaces.get req.wsId ≠ none := by
    rw [hfound.workspaces]
    simp only [withWorkspace, Table.get_put, if_pos]
    exact Option.some_ne_none _
  cases hadd : o.1.addMember ⟨req.wsId, o.2, "owner"⟩ with
  | none => exact hkeyed
  | some d' =>
      refine keyed_addMember hkeyed (m := ⟨req.wsId, o.2, "owner"⟩) ?_
      rw [addMember, if_neg hws, hadd]
      rfl

theorem workspaces_created {ctx : Context} {req : NewWorkspace} {now : Int}
    (h : Creates S d req) :
    (handleCreateWorkspace S d ctx req now).1.workspaces = (withWorkspace S d req).workspaces := by
  rw [handleCreateWorkspace_created h]
  have hfound := workspaceOwner_found S (withWorkspace S d req) ctx req.newUserId
  rw [← hfound.workspaces]
  unfold Directory.addMember
  split <;> rfl

end ZeroTrust.Admin.Membership
