import BiddingAuction.Common.Json
import Mathlib.Data.List.Basic

/-!
# Members of a document

A document is edited in place: a member is removed by putting the last one in its place.
-/

namespace BiddingAuction

namespace Json

variable {V : Type} {name : String} {members : List (String × V)}

def names (members : List (String × V)) : List String := members.map Prod.fst

@[simp] theorem names_append (members members' : List (String × V)) :
    names (members ++ members') = names members ++ names members' :=
  List.map_append

/-- `RemoveMember`: the first member of the name goes, and the last one takes its place. -/
def removeMember (name : String) : List (String × V) → List (String × V)
  | [] => []
  | member :: rest =>
    if member.1 = name then
      match rest.getLast? with
      | some last => last :: rest.dropLast
      | none => []
    else member :: removeMember name rest

theorem removeMember_perm (name : String) (members : List (String × V)) :
    (removeMember name members).Perm (members.eraseP fun member => member.1 = name) := by
  induction members with
  | nil => exact .refl _
  | cons member rest ih =>
    unfold removeMember
    split
    · rename_i hname
      have herase : (member :: rest).eraseP (fun member => member.1 = name) = rest :=
        List.eraseP_cons_of_pos (decide_eq_true hname)
      rw [herase]
      cases hlast : rest.getLast? with
      | none => rw [List.getLast?_eq_none_iff.mp hlast]
      | some last =>
        have hrest : rest.dropLast ++ [last] = rest :=
          List.dropLast_append_getLast? last hlast
        calc last :: rest.dropLast
            _ |>.Perm (rest.dropLast ++ [last]) := (List.perm_append_singleton _ _).symm
            _ = rest := hrest
    · rename_i hname
      have herase : (member :: rest).eraseP (fun member => member.1 = name) =
          member :: rest.eraseP fun member => member.1 = name :=
        List.eraseP_cons_of_neg (by rwa [decide_eq_true_eq])
      rw [herase]
      exact ih.cons member

theorem removeMember_of_notMem (h : name ∉ names members) :
    removeMember name members = members := by
  induction members with
  | nil => rfl
  | cons member rest ih =>
    obtain ⟨hne, hrest⟩ := List.ne_and_not_mem_of_not_mem_cons h
    rw [removeMember, if_neg (Ne.symm hne), ih hrest]

theorem removeMember_append (h : name ∉ names members) (rest : List (String × V)) :
    removeMember name (members ++ rest) = members ++ removeMember name rest := by
  induction members with
  | nil => rfl
  | cons member members ih =>
    obtain ⟨hne, hmembers⟩ := List.ne_and_not_mem_of_not_mem_cons h
    rw [List.cons_append, removeMember, if_neg (Ne.symm hne), ih hmembers, List.cons_append]

theorem foldl_removeMember_of_notMem {removed : List String}
    (h : ∀ name ∈ removed, name ∉ names members) :
    removed.foldl (fun members name => removeMember name members) members = members := by
  induction removed with
  | nil => rfl
  | cons name removed ih =>
    rw [List.foldl_cons, removeMember_of_notMem (h name List.mem_cons_self)]
    exact ih fun other hother => h other (List.mem_cons_of_mem _ hother)

theorem foldl_removeMember_append {removed : List String}
    (h : ∀ name ∈ removed, name ∉ names members) (rest : List (String × V)) :
    removed.foldl (fun members name => removeMember name members) (members ++ rest) =
      members ++ removed.foldl (fun members name => removeMember name members) rest := by
  induction removed generalizing rest with
  | nil => rfl
  | cons name removed ih =>
    rw [List.foldl_cons, List.foldl_cons, removeMember_append (h name List.mem_cons_self)]
    exact ih (fun other hother => h other (List.mem_cons_of_mem _ hother)) _

theorem names_removeMember_perm (name : String) (members : List (String × V)) :
    (names (removeMember name members)).Perm ((names members).erase name) := by
  have herase : (names members).erase name =
      names (members.eraseP fun member => member.1 = name) := by
    unfold names
    rw [List.erase_eq_eraseP', List.eraseP_map]
    rfl
  rw [herase]
  exact (removeMember_perm name members).map Prod.fst

theorem names_foldl_removeMember_perm (removed : List String) {left : List String}
    (h : (names members).Perm left) :
    (names (removed.foldl (fun members name => removeMember name members) members)).Perm
      (left.diff removed) := by
  induction removed generalizing members left with
  | nil => exact h
  | cons name removed ih =>
    rw [List.foldl_cons, List.diff_cons]
    exact ih ((names_removeMember_perm name members).trans (h.erase name))

end Json

end BiddingAuction
