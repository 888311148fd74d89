/-
# `ZeroTrust.Admin.Invitations` — what becomes of an invitation

The callback of an invitation creates the user, looks the user up, marks the invitation as used
and adds the member, and goes on when one of these fails.  There may be a user with the e-mail
already:

    row of `users`                      created    found    added
    none                                yes        yes      yes
    with the e-mail in lower case       no         yes      yes
    with the e-mail in other letters    no         no       no

The index on `LOWER(email)` takes the last one for the same user, the lookup does not, and the
invitation is used up.  `POST /api/admin/users` keeps an e-mail as it is written.

    `joined_redeem`         the user is a member afterwards iff a member before, or found
    `redeem_honours_iff`    when a used invitation has produced its membership
-/
import ZeroTrust.Admin.LastOwner

namespace ZeroTrust.Admin.Membership

open Lib

/-- `POST /api/admin/users`. -/
def handleUsersPost (S : Server) (s : State) (name email status role id : String) :
    State × Reply :=
  if name = "" ∨ email = "" then (s, .error (400, "name and email are required"))
  else
    let status := if status = "" then "Active" else status
    let role := if role = "" then "Member" else role
    match createUser S s.dir ⟨id, email, status, role⟩ with
    | none => (s, .error (400, "failed to create user"))
    | some dir => ({ s with dir }, .ok id)

/-- The constraints of the tables. -/
structure Schema (S : Server) (s : State) : Prop where
  /-- `users_email_lower_unique` -/
  emails : ∀ a ∈ s.dir.accounts.rows, ∀ b ∈ s.dir.accounts.rows,
    S.sqlLower a.email = S.sqlLower b.email → a = b
  members : Keyed s.dir
  invites : ∀ i ∈ s.invites.rows, s.dir.workspaces.get i.workspaceId ≠ none

/-- The invitation that the callback accepts. -/
structure Accepted (S : Server) (s : State) (token emailAddr : String) (now : Int)
    (row : InviteRow) : Prop where
  found : s.invites.get token = some row
  unused : row.used = false
  unexpired : now ≤ row.expiresAt
  email : S.unicode.stringsToLower row.email = S.unicode.stringsToLower emailAddr

/-- The user with the e-mail, in whatever case, is a member of the workspace. -/
def Joined (S : Server) (d : Directory) (ws email : String) : Prop :=
  ∃ a ∈ d.accounts.rows, S.sqlLower a.email = S.sqlLower email ∧ d.members.get (ws, a.id) ≠ none

/-- The invitation can still be used, or has produced the membership. -/
def Honoured (S : Server) (s : State) (token ws email : String) : Prop :=
  (∃ row, s.invites.get token = some row ∧ row.used = false) ∨ Joined S s.dir ws email

/-- There is a user whose e-mail is spelled like this. -/
def Spelled (d : Directory) (email : String) : Prop :=
  ∃ a ∈ d.accounts.rows, a.email = email ∧ a.id ≠ ""

/-- There is no user with the e-mail, in whatever case, and one can be created. -/
def Creatable (S : Server) (d : Directory) (email newUserId : String) : Prop :=
  (∀ a ∈ d.accounts.rows, S.sqlLower a.email ≠ S.sqlLower email) ∧
    d.accounts.get newUserId = none ∧ newUserId ≠ ""

section

variable {S : Server} {s : State} {d : Directory} {token emailAddr email newUserId ws role : String}
  {now : Int} {row : InviteRow} {a u : Account}

/-! ## The steps of the callback -/

/-- The user record, created or not. -/
def userCreated (S : Server) (d : Directory) (email newUserId : String) : Directory :=
  (createUser S d ⟨newUserId, email, "Active", "Member"⟩).getD d

/-- The member, added if the user is found. -/
def memberAdded (d : Directory) (ws email role : String) : Directory :=
  let userID := ((d.getUserByEmail email).map Account.id).getD ""
  if userID ≠ "" ∧ ws ≠ "" then (addMember d ⟨ws, userID, role⟩).getD d else d

theorem redeemInvite_eq (h : Accepted S s token emailAddr now row) :
    (redeemInvite S s token emailAddr newUserId now).1 =
      { dir := memberAdded (userCreated S s.dir (S.unicode.stringsToLower emailAddr) newUserId)
          row.workspaceId (S.unicode.stringsToLower emailAddr)
          (if row.role = "" then "member" else row.role)
        invites := s.invites.update (setUsed token) (setUsed_token token) } := by
  have hused : ¬ row.used = true := by simp [h.unused]
  have hexpired : ¬ now > row.expiresAt := Int.not_lt.mpr h.unexpired
  rw [redeemInvite]
  simp only [h.found]
  rw [if_neg hused, if_neg hexpired, if_neg (not_not.mpr h.email)]
  unfold memberAdded userCreated
  dsimp only
  split <;> rfl

/-- The invitation is used afterwards. -/
theorem honoured_redeem (h : Accepted S s token emailAddr now row) :
    Honoured S (redeemInvite S s token emailAddr newUserId now).1 token ws email ↔
      Joined S (redeemInvite S s token emailAddr newUserId now).1.dir ws email := by
  refine or_iff_right ?_
  rintro ⟨row', hrow', hunused⟩
  rw [redeemInvite_eq h, Table.get_update, h.found, Option.map_some, Option.some.injEq] at hrow'
  rw [← hrow', setUsed, if_pos (Table.mem_of_get h.found).2] at hunused
  cases hunused

theorem getUserByEmail_some (h : d.getUserByEmail email = some u) :
    u ∈ d.accounts.rows ∧ u.email = email :=
  ⟨List.mem_of_find?_eq_some h, by simpa using List.find?_some h⟩

theorem createUser_eq_none :
    createUser S d a = none ↔
      (∃ b ∈ d.accounts.rows, S.sqlLower b.email = S.sqlLower a.email) ∨
        d.accounts.get a.id ≠ none := by
  unfold createUser
  split
  next htaken => exact iff_of_true rfl (Or.inl (by simpa using htaken))
  next hfree =>
    have hnone : ¬ ∃ b ∈ d.accounts.rows, S.sqlLower b.email = S.sqlLower a.email := by
      simpa using hfree
    rw [Option.map_eq_none_iff, or_iff_right hnone, ← not_iff_not]
    exact Table.insert_isSome.trans not_not.symm

/-- A user is created only where neither the e-mail nor the id is taken. -/
theorem fresh_of_createUser {d' : Directory} (h : createUser S d a = some d') :
    (∀ b ∈ d.accounts.rows, S.sqlLower b.email ≠ S.sqlLower a.email) ∧
      d.accounts.get a.id = none := by
  have hfresh := mt createUser_eq_none.mpr (h ▸ Option.some_ne_none d')
  rw [not_or, not_not] at hfresh
  exact ⟨fun b hb hlower => hfresh.1 ⟨b, hb, hlower⟩, hfresh.2⟩

/-- `ON CONFLICT DO NOTHING`: in either case the row is there. -/
theorem get_insert_ne_none {t : Table MemberRow.key} {m : MemberRow} :
    ((t.insert m).getD t).get m.key ≠ none := by
  unfold Table.insert
  split
  · rw [Option.getD_some, Table.get_put, if_pos rfl]
    exact Option.some_ne_none m
  next htaken => exact htaken

theorem addMember_of_keys {m : MemberRow} (hws : d.workspaces.get m.workspaceId ≠ none)
    (huser : d.accounts.get m.userId ≠ none) :
    addMember d m = some { d with members := (d.members.insert m).getD d.members } := by
  rw [addMember, if_neg hws, Directory.addMember, if_neg huser]

theorem joined_memberAdded (hws : d.workspaces.get ws ≠ none) :
    Joined S (memberAdded d ws email role) ws email ↔
      Joined S d ws email ∨
        ws ≠ "" ∧ ∃ u, d.getUserByEmail email = some u ∧ u.id ≠ "" := by
  unfold memberAdded
  cases hfind : d.getUserByEmail email with
  | none => simp
  | some u =>
      obtain ⟨hmem, hemail⟩ := getUserByEmail_some hfind
      rw [Option.map_some, Option.getD_some]
      by_cases hadd : u.id ≠ "" ∧ ws ≠ ""
      · have huser : d.accounts.get u.id ≠ none := by
          rw [Table.get_of_mem hmem]
          exact Option.some_ne_none u
        rw [if_pos hadd, addMember_of_keys hws huser, Option.getD_some]
        refine iff_of_true ⟨u, hmem, by rw [hemail], get_insert_ne_none⟩ (Or.inr ?_)
        exact ⟨hadd.2, u, rfl, hadd.1⟩
      · rw [if_neg hadd]
        refine (or_iff_left ?_).symm
        rintro ⟨hne, u', hu', hid⟩
        obtain rfl := Option.some.inj hu'
        exact hadd ⟨hid, hne⟩

/-- A user who is created is not a member of anything. -/
theorem joined_userCreated (hkeyed : Keyed d) :
    Joined S (userCreated S d email newUserId) ws email ↔ Joined S d ws email := by
  unfold userCreated
  cases hcreate : createUser S d ⟨newUserId, email, "Active", "Member"⟩ with
  | none => exact Iff.rfl
  | some d' =>
      have hfree : d.accounts.get newUserId = none := (fresh_of_createUser hcreate).2
      have haccounts := Table.rows_put_of_free (r := Account.mk newUserId email "Active" "Member")
        hfree
      rw [Option.getD_some, createUser_eq hcreate]
      simp only [Joined, haccounts, List.mem_append, List.mem_singleton]
      constructor
      · rintro ⟨a, ha | rfl, hlower, hmember⟩
        · exact ⟨a, ha, hlower, hmember⟩
        · obtain ⟨m, hm⟩ := Option.ne_none_iff_exists'.mp hmember
          obtain ⟨hrow, hkey⟩ := Table.mem_of_get hm
          obtain ⟨-, hid⟩ := Prod.mk.inj hkey
          exact absurd (hid ▸ hfree) (hkeyed.user m hrow)
      · rintro ⟨a, ha, hlower, hmember⟩
        exact ⟨a, Or.inl ha, hlower, hmember⟩

/-- The look-up is by the exact spelling, which one user has at most. -/
theorem found_iff_spelled
    (hemails : ∀ a ∈ d.accounts.rows, ∀ b ∈ d.accounts.rows,
      S.sqlLower a.email = S.sqlLower b.email → a = b) :
    (∃ u, d.getUserByEmail email = some u ∧ u.id ≠ "") ↔ Spelled d email := by
  constructor
  · rintro ⟨u, hu, hid⟩
    obtain ⟨hmem, hemail⟩ := getUserByEmail_some hu
    exact ⟨u, hmem, hemail, hid⟩
  · rintro ⟨a, ha, hemail, hid⟩
    have hsome : (d.getUserByEmail email).isSome := by
      rw [Directory.getUserByEmail, List.find?_isSome]
      exact ⟨a, ha, decide_eq_true hemail⟩
    obtain ⟨u, hu⟩ := Option.isSome_iff_exists.mp hsome
    obtain ⟨hmem, hemail'⟩ := getUserByEmail_some hu
    obtain rfl := hemails a ha u hmem (by rw [hemail, hemail'])
    exact ⟨a, hu, hid⟩

/-- A user who has been created is found by the e-mail. -/
theorem getUserByEmail_created {d' : Directory} (h : createUser S d u = some d') :
    d'.getUserByEmail u.email = some u := by
  obtain ⟨hother, hfree⟩ := fresh_of_createUser h
  have hnone : d.accounts.rows.find? (fun a => a.email = u.email) = none := by
    refine List.find?_eq_none.mpr fun a ha hemail => hother a ha ?_
    rw [of_decide_eq_true hemail]
  rw [createUser_eq h, Directory.getUserByEmail, Table.rows_put_of_free hfree,
    List.find?_append, hnone, Option.none_or]
  simp

theorem found_userCreated
    (hemails : ∀ a ∈ d.accounts.rows, ∀ b ∈ d.accounts.rows,
      S.sqlLower a.email = S.sqlLower b.email → a = b) :
    (∃ u, (userCreated S d email newUserId).getUserByEmail email = some u ∧ u.id ≠ "") ↔
      Spelled d email ∨ Creatable S d email newUserId := by
  unfold userCreated
  cases hcreate : createUser S d ⟨newUserId, email, "Active", "Member"⟩ with
  | none =>
      have hnot : ¬ Creatable S d email newUserId := by
        rintro ⟨hother, hfree, -⟩
        rcases createUser_eq_none.mp hcreate with ⟨b, hb, hlower⟩ | htaken
        · exact hother b hb hlower
        · exact htaken hfree
      rw [Option.getD_none, or_iff_left hnot]
      exact found_iff_spelled hemails
  | some d' =>
      obtain ⟨hother, hfree⟩ := fresh_of_createUser hcreate
      have hnot : ¬ Spelled d email := by
        rintro ⟨a, ha, hemail, -⟩
        exact hother a ha (by rw [hemail])
      rw [Option.getD_some, getUserByEmail_created hcreate, or_iff_right hnot]
      constructor
      · rintro ⟨u, hu, hid⟩
        obtain rfl := Option.some.inj hu
        exact ⟨hother, hfree, hid⟩
      · rintro ⟨-, -, hid⟩
        exact ⟨_, rfl, hid⟩

/-- **When a used invitation has produced its membership.** -/
theorem redeem_honours_iff (hschema : Schema S s) (h : Accepted S s token emailAddr now row) :
    Honoured S (redeemInvite S s token emailAddr newUserId now).1 token row.workspaceId
        (S.unicode.stringsToLower emailAddr) ↔
      Joined S s.dir row.workspaceId (S.unicode.stringsToLower emailAddr) ∨
        row.workspaceId ≠ "" ∧
          (Spelled s.dir (S.unicode.stringsToLower emailAddr) ∨
            Creatable S s.dir (S.unicode.stringsToLower emailAddr) newUserId) := by
  have hws : (userCreated S s.dir (S.unicode.stringsToLower emailAddr) newUserId).workspaces.get
      row.workspaceId ≠ none := by
    have hinvite := hschema.invites row (Table.mem_of_get h.found).1
    unfold userCreated
    cases hcreate : createUser S s.dir ⟨newUserId, S.unicode.stringsToLower emailAddr, "Active",
        "Member"⟩ with
    | none => exact hinvite
    | some d' =>
        rw [Option.getD_some, createUser_eq hcreate]
        exact hinvite
  rw [honoured_redeem h, redeemInvite_eq h, joined_memberAdded hws,
    joined_userCreated hschema.members, found_userCreated hschema.emails]

end

/-- An administrator has made Bob a user, with the e-mail as he writes it; Alice invites him. -/
def bobInvited (email : String) : State :=
  let s := (handleUsersPost exampleServer acme "Bob" email "" "" "usr_2").1
  (handleInviteUser exampleServer s { userId := "usr_1" } "bob@acme.io" "ws_1" "" "member" "tok" 0
    true).1

def bobsInvite : InviteRow := ⟨"tok", "ws_1", "bob@acme.io", "member", 172800, false, true⟩

theorem accepted_bob {email : String} (h : (bobInvited email).invites.get "tok" = some bobsInvite) :
    Accepted exampleServer (bobInvited email) "tok" "bob@acme.io" 60 bobsInvite :=
  ⟨h, rfl, by decide, rfl⟩

/-- The e-mail is in lower case: Bob becomes a member. -/
theorem lower_case_joins :
    Honoured exampleServer
      (redeemInvite exampleServer (bobInvited "bob@acme.io") "tok" "bob@acme.io" "usr_3" 60).1
      "tok" "ws_1" "bob@acme.io" := by
  have hschema : Schema exampleServer (bobInvited "bob@acme.io") :=
    ⟨by decide, ⟨by decide, by decide⟩, by decide⟩
  refine (redeem_honours_iff hschema (accepted_bob (by decide))).mpr ?_
  refine Or.inr ⟨by decide, Or.inl ?_⟩
  exact ⟨⟨"usr_2", "bob@acme.io", "Active", "Member"⟩, by decide, rfl, by decide⟩

/-- It is not: the invitation is used up, and Bob is not a member. -/
theorem other_case_lost :
    Schema exampleServer (bobInvited "Bob@Acme.io") ∧
      Accepted exampleServer (bobInvited "Bob@Acme.io") "tok" "bob@acme.io" 60 bobsInvite ∧
      ¬ Honoured exampleServer
        (redeemInvite exampleServer (bobInvited "Bob@Acme.io") "tok" "bob@acme.io" "usr_3" 60).1
        "tok" "ws_1" "bob@acme.io" := by
  have haccepted : Accepted exampleServer (bobInvited "Bob@Acme.io") "tok" "bob@acme.io" 60
      bobsInvite := accepted_bob (by decide)
  refine ⟨⟨by decide, ⟨by decide, by decide⟩, by decide⟩, haccepted, ?_⟩
  rw [honoured_redeem haccepted]
  unfold Joined
  decide

end ZeroTrust.Admin.Membership
