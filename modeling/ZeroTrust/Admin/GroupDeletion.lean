/-
# `ZeroTrust.Admin.GroupDeletion` — what goes with a group

`DELETE /api/admin/user-groups/{id}` and `DELETE /api/groups/{id}` run the same four statements
in a transaction.  The third deletes the access rules that have no group, and that is all of
them, not only those the second has just taken the group from:

    groups of the rule      afterwards
    only the group          the rule is gone
    the group and others    the others are left
    only others             as before
    none                    the rule is gone

`POST /api/access-rules` accepts an empty list of groups, so there are rules of the last kind.

    `leavesOthers_carriedOut`   the deletion leaves the other rules alone iff there are none
    `delete_leavesOthers_iff`   the same for both routes, whatever fails
-/
import ZeroTrust.Admin.ErrorReplies

namespace ZeroTrust.Admin.GroupDeletion

open Lib
open Controller
open ErrorReplies (Store deleteGroup uiDeleteGroup deleteMembersOf deleteRuleGroupsOf
  deleteBareRules deleteGroupRow)
open PolicyRequests (deleteGroupRows)

/-! ## The rules and their groups -/

def HasGroup (s : Store) (ar : AccessRuleRow) (groupID : String) : Prop :=
  ⟨ar.id, groupID⟩ ∈ s.tables.db.accessRuleGroups.rows

structure OnlyGroup (s : Store) (ar : AccessRuleRow) (groupID : String) : Prop where
  has : HasGroup s ar groupID
  only : ∀ g, HasGroup s ar g → g = groupID

/-- Every rule that had another group, or none, is still there and has lost at most this one;
and no rule is new. -/
structure OthersKept (s s' : Store) (groupID : String) : Prop where
  old : ∀ ar ∈ s'.tables.db.accessRules.rows, ar ∈ s.tables.db.accessRules.rows
  kept : ∀ ar ∈ s.tables.db.accessRules.rows, ¬ OnlyGroup s ar groupID →
    ar ∈ s'.tables.db.accessRules.rows ∧
      ∀ g, HasGroup s' ar g ↔ HasGroup s ar g ∧ g ≠ groupID

/-- A deletion that does not take place changes nothing at all. -/
def LeavesOthers (s s' : Store) (groupID : String) : Prop := s' = s ∨ OthersKept s s' groupID

/-- Every rule has a group. -/
def NoneBare (s : Store) : Prop :=
  ∀ ar ∈ s.tables.db.accessRules.rows, ∃ g, HasGroup s ar g

/-- The store once the four statements are committed. -/
def carriedOut (s : Store) (groupID : String) : Store :=
  { s with tables := deleteGroupRows s.tables groupID }

section

variable {refuses : Nat → Bool} {s s' : Store} {groupID : String} {ar : AccessRuleRow}
  {e : AclStore.HttpError}

theorem hasGroup_carriedOut {g : String} :
    HasGroup (carriedOut s groupID) ar g ↔ HasGroup s ar g ∧ g ≠ groupID := by
  have hmem : HasGroup (carriedOut s groupID) ar g ↔
      HasGroup s ar g ∧ decide (g ≠ groupID) = true := List.mem_filter
  rw [hmem, decide_eq_true_eq]

/-- A rule stays iff it has another group. -/
theorem mem_rules_carriedOut :
    ar ∈ (carriedOut s groupID).tables.db.accessRules.rows ↔
      ar ∈ s.tables.db.accessRules.rows ∧ ∃ g, HasGroup s ar g ∧ g ≠ groupID := by
  refine List.mem_filter.trans (and_congr_right fun _ => ?_)
  rw [List.any_eq_true]
  constructor
  · rintro ⟨⟨_, g⟩, harg, hrule⟩
    obtain rfl := of_decide_eq_true hrule
    exact ⟨g, hasGroup_carriedOut.mp harg⟩
  · rintro ⟨g, hg⟩
    exact ⟨⟨ar.id, g⟩, hasGroup_carriedOut.mpr hg, decide_eq_true rfl⟩

theorem leavesOthers_carriedOut :
    LeavesOthers s (carriedOut s groupID) groupID ↔ NoneBare s := by
  constructor
  · intro h ar har
    have hstays : ∀ hmem : ar ∈ (carriedOut s groupID).tables.db.accessRules.rows,
        ∃ g, HasGroup s ar g := by
      intro hmem
      obtain ⟨-, g, hg, -⟩ := mem_rules_carriedOut.mp hmem
      exact ⟨g, hg⟩
    rcases h with heq | hkept
    · exact hstays (heq.symm ▸ har)
    · by_contra hbare
      -- a rule without groups has not this one as its only group, and yet it goes
      have hnotOnly : ¬ OnlyGroup s ar groupID := fun honly => hbare ⟨groupID, honly.has⟩
      exact hbare (hstays (hkept.kept ar har hnotOnly).1)
  · intro h
    refine Or.inr ⟨fun ar har => (mem_rules_carriedOut.mp har).1, fun ar har hnotOnly => ?_⟩
    refine ⟨mem_rules_carriedOut.mpr ⟨har, ?_⟩, fun g => hasGroup_carriedOut⟩
    by_contra hother
    push Not at hother
    obtain ⟨g, hg⟩ := h ar har
    exact hnotOnly ⟨hother g hg ▸ hg, hother⟩

/-! ## The two routes -/

theorem commits_deleteGroup :
    (Body.checked e (deleteMembersOf groupID) <| .checked e (deleteRuleGroupsOf groupID) <|
        .checked e deleteBareRules <| .checked e (deleteGroupRow groupID) .commit).Commits
          refuses 1 s s' ↔
      Unrefused refuses 1 5 ∧ s' = carriedOut s groupID := by
  simp only [Body.commits_checked, Body.Commits, deleteMembersOf, deleteRuleGroupsOf,
    deleteBareRules, deleteGroupRow, Store.rewrite, Store.onTables, Option.map_some,
    Option.some.injEq, exists_eq_left', unrefused_cons, unrefused_zero, and_true, and_assoc]
  rfl

theorem commits_uiDeleteGroup :
    (Body.execAll [deleteMembersOf groupID, deleteRuleGroupsOf groupID, deleteBareRules] <|
        .checked e (deleteGroupRow groupID) .commit).Commits refuses 1 s s' ↔
      Unrefused refuses 1 5 ∧ s' = carriedOut s groupID := by
  rw [← commits_deleteGroup (e := e)]
  simp only [Body.execAll, Body.Commits, Body.commits_checked]

theorem run_transaction_leavesOthers {body : ErrorReplies.Transaction}
    {answer : Bool → Option AclStore.HttpError}
    (hbody : ∀ s', body.Commits refuses 1 s s' ↔
      Unrefused refuses 1 5 ∧ s' = carriedOut s groupID) :
    LeavesOthers s ((Script.transaction e body fun committed =>
        .reply (answer committed)).run refuses 0 s).2 groupID ↔
      ¬ Unrefused refuses 0 6 ∨ NoneBare s := by
  have hrun := (Script.run_transaction_snd refuses body answer (n := 0) (s := s) (e := e)).mp rfl
  simp only [hbody, exists_and_left, exists_eq, and_true, Nat.zero_add] at hrun
  rw [unrefused_cons]
  rcases hrun with ⟨hbegin, hran, heq⟩ | ⟨hnot, heq⟩
  · rw [heq, leavesOthers_carriedOut]
    simp [hbegin, hran]
  · rw [heq]
    exact iff_of_true (Or.inl rfl) (Or.inl hnot)

/-- **Either route leaves the other rules alone iff no rule is without a group**, or the
deletion does not take place. -/
theorem delete_leavesOthers_iff (errorText : String) (refuses : Nat → Bool) (s : Store)
    (groupID : String) :
    (LeavesOthers s ((deleteGroup errorText groupID).run refuses 0 s).2 groupID ↔
      groupID = "" ∨ ¬ Unrefused refuses 0 6 ∨ NoneBare s) ∧
    (LeavesOthers s ((uiDeleteGroup groupID).run refuses 0 s).2 groupID ↔
      groupID = "" ∨ ¬ Unrefused refuses 0 6 ∨ NoneBare s) := by
  by_cases hempty : groupID = ""
  · subst hempty
    exact ⟨iff_of_true (Or.inl rfl) (Or.inl rfl), iff_of_true (Or.inl rfl) (Or.inl rfl)⟩
  · rw [deleteGroup, uiDeleteGroup, ErrorReplies.required, ErrorReplies.required, if_neg hempty,
      if_neg hempty, or_iff_right hempty]
    refine ⟨?_, run_transaction_leavesOthers fun s' => commits_uiDeleteGroup⟩
    have hanswer : (fun committed => if committed = true then ErrorReplies.ok
        else .reply (some (ErrorReplies.failed errorText "failed to delete group"))) =
          fun committed : Bool => (Script.reply (if committed = true then none
            else some (ErrorReplies.failed errorText "failed to delete group")) :
              ErrorReplies.Handler) := by
      funext committed
      cases committed <;> rfl
    simp only [hanswer]
    exact run_transaction_leavesOthers fun s' => commits_deleteGroup

end

/-- A group, and a rule that has none yet. -/
def newRule : Store where
  tables :=
    { db :=
        { connectors := ∅, remoteNetworkConnectors := ∅, connectorPolicyVersions := ∅
          accessRules := Table.single ⟨"rule_1", "res_1", 1⟩, accessRuleGroups := ∅
          userGroupMembers := ∅, users := ∅, resources := ∅ }
      userGroups := Table.single ⟨"grp_1", "Engineering", ""⟩, remoteNetworks := ∅ }
  authorizations := ∅
  workspaces := ∅
  members := ∅
  invites := ∅

/-- Deleting the group deletes the rule, which never had it. -/
theorem bare_rule_deleted :
    ¬ LeavesOthers newRule ((deleteGroup "" "grp_1").run (fun _ => false) 0 newRule).2 "grp_1" ∧
    ¬ LeavesOthers newRule ((uiDeleteGroup "grp_1").run (fun _ => false) 0 newRule).2 "grp_1" := by
  have hbare : ¬ NoneBare newRule := by
    intro h
    obtain ⟨g, hg⟩ := h ⟨"rule_1", "res_1", 1⟩ List.mem_cons_self
    cases hg
  have hkept : ¬ LeavesOthers newRule (carriedOut newRule "grp_1") "grp_1" :=
    mt leavesOthers_carriedOut.mp hbare
  exact ⟨hkept, hkept⟩

end ZeroTrust.Admin.GroupDeletion
