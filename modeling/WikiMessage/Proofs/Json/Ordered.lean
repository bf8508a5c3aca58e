import WikiMessage.Json.Basic

/-!
# The order of members

A sorted value holds the members of each of its objects in ascending order of their names, so that
no name stands twice; of members that shared a name the last is kept.
-/

namespace WikiMessage.Json

theorem pairwise_sortMembers (members : List (String × Json)) :
    (sortMembers members).Pairwise fun a b => a.1 < b.1 := by
  have h := @Std.TreeMap.ordered_keys_toList _ _ _ (Std.TreeMap.ofList members compare) _
  exact h.imp fun hc => compareOfLessAndEq_eq_lt.mp hc

theorem mem_sortMembers_iff {members : List (String × Json)} {name : String} {value : Json} :
    (name, value) ∈ sortMembers members ↔ members.reverse.lookup name = some value := by
  have hf : (fun p : String × Json => if compare p.1 name = .eq then some p.2 else none) =
      fun p => if (name == p.1) = true then some p.2 else none := by
    funext p
    simp only [Std.LawfulEqCmp.compare_eq_iff_eq, beq_iff_eq, @eq_comm _ p.1 name]
  rw [sortMembers, Std.TreeMap.mem_toList_iff_getElem?_eq_some,
    Std.TreeMap.ofList_eq_insertMany_empty, Std.TreeMap.getElem?_insertMany_list,
    Std.TreeMap.getElem?_emptyc, Option.or_none, List.findSomeRev?_eq_findSome?_reverse,
    List.lookup_eq_findSome?, ← hf]

theorem mem_of_mem_sortMembers {members : List (String × Json)} {m : String × Json}
    (h : m ∈ sortMembers members) : m ∈ members := by
  obtain ⟨before, after, he, -⟩ := List.lookup_eq_some_iff.mp (mem_sortMembers_iff.mp h)
  have hm : m ∈ members.reverse := by
    rw [he]
    exact List.mem_append_right _ List.mem_cons_self
  exact List.mem_reverse.mp hm

theorem sortedMembers_eq_map (members : List (String × Json)) :
    sortedMembers members = members.map fun m => (m.1, m.2.sorted) := by
  induction members with
  | nil => rfl
  | cons m members ih => rw [sortedMembers, ih, List.map_cons]

theorem lookup_reverse_map {α β : Type} (f : α → β) (members : List (String × α)) (name : String) :
    (members.map fun m => (m.1, f m.2)).reverse.lookup name =
      (members.reverse.lookup name).map f := by
  rw [← List.map_reverse]
  induction members.reverse with
  | nil => rfl
  | cons m rest ih =>
    rw [List.map_cons, List.lookup_cons, List.lookup_cons, ih]
    cases name == m.1 <;> rfl

/-- Of each name the last member that was written is kept, and is sorted in turn. -/
theorem mem_sorted_iff {members : List (String × Json)} {name : String} {value : Json} :
    (name, value) ∈ sortMembers (sortedMembers members) ↔
      (members.reverse.lookup name).map Json.sorted = some value := by
  rw [mem_sortMembers_iff, sortedMembers_eq_map, lookup_reverse_map]

theorem exists_sorted_object (members : List (String × Json)) : ∃ kept,
    (object members).sorted = object kept ∧ (kept.Pairwise fun a b => a.1 < b.1) ∧
      ∀ name value, (name, value) ∈ kept ↔
        (members.reverse.lookup name).map Json.sorted = some value :=
  ⟨_, by rw [sorted], pairwise_sortMembers _, fun _ _ => mem_sorted_iff⟩

/-- Every object in the value holds its members in ascending order of their names. -/
inductive Ordered : Json → Prop
  | null : Ordered null
  | bool {b : Bool} : Ordered (bool b)
  | integer {n : Int} : Ordered (integer n)
  | float {x : Numeral.Double} : Ordered (float x)
  | string {s : String} : Ordered (string s)
  | array {items : List Json} (h : ∀ j ∈ items, Ordered j) : Ordered (array items)
  | object {members : List (String × Json)} (hn : members.Pairwise fun a b => a.1 < b.1)
      (h : ∀ m ∈ members, Ordered m.2) : Ordered (object members)

mutual

theorem ordered_sorted : ∀ j : Json, j.sorted.Ordered
  | .null => .null
  | .bool _ => .bool
  | .integer _ => .integer
  | .float _ => .float
  | .string _ => .string
  | .array items => by
    rw [sorted]
    exact .array (ordered_sortedItems items)
  | .object members => by
    rw [sorted]
    refine .object (pairwise_sortMembers _) fun m hm => ?_
    exact ordered_sortedMembers members m (mem_of_mem_sortMembers hm)

theorem ordered_sortedItems : ∀ items : List Json, ∀ j ∈ sortedItems items, Ordered j
  | [] => by simp [sortedItems]
  | item :: items => by
    rw [sortedItems]
    exact List.forall_mem_cons.mpr ⟨ordered_sorted item, ordered_sortedItems items⟩

theorem ordered_sortedMembers :
    ∀ members : List (String × Json), ∀ m ∈ sortedMembers members, Ordered m.2
  | [] => by simp [sortedMembers]
  | (name, value) :: members => by
    rw [sortedMembers]
    exact List.forall_mem_cons.mpr ⟨ordered_sorted value, ordered_sortedMembers members⟩

end

end WikiMessage.Json
