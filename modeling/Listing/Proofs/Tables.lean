/-
  Listing/Proofs/Tables.lean
  ==========================
  **What the tables of a request carry.**

  A table carries each of its values under the name of the value's entry.  Joining
  two tables by name loses nothing and makes nothing up: the joined table has the
  names of both (`mem_names_merge`) and carries what both carry, in some order
  (`perm_carried_merge`).
-/
import Listing.Query.Basic
import Mathlib.Data.List.Perm.Basic

namespace Listing

namespace Request.Table

def names (table : Table) : List String := table.map Prod.fst

/-- Every value of the table, with the name of its entry. -/
def carried (table : Table) : List (String × String) :=
  table.flatMap fun entry => entry.2.map (Prod.mk entry.1)

theorem mem_carried_iff {table : Table} {name value : String} :
    (name, value) ∈ table.carried ↔ ∃ entry ∈ table, entry.1 = name ∧ value ∈ entry.2 := by
  simp only [carried, List.mem_flatMap, List.mem_map, Prod.mk.injEq]
  constructor
  · rintro ⟨entry, hentry, _, hvalue, hname, rfl⟩
    exact ⟨entry, hentry, hname, hvalue⟩
  · rintro ⟨entry, hentry, hname, hvalue⟩
    exact ⟨entry, hentry, value, hvalue, hname, rfl⟩

/-! ### Changing one entry -/

theorem mem_names_alter {table : Table} {name other : String}
    {change : List String → List String} :
    other ∈ (table.alter name change).names ↔ other ∈ table.names ∨ other = name := by
  induction table with
  | nil => simp [alter, names]
  | cons entry rest ih =>
    simp only [names] at ih
    simp only [alter]
    split
    · rename_i heq
      simp only [names, List.map_cons, List.mem_cons, heq]
      exact ⟨Or.inl, fun h => h.elim id fun h => .inl h⟩
    · simp only [names, List.map_cons, List.mem_cons, ih, or_assoc]

/-- Values that are appended to an entry are carried besides the others. -/
theorem perm_carried_alter (table : Table) (name : String) (values : List String) :
    (table.alter name (· ++ values)).carried.Perm (table.carried ++ values.map (Prod.mk name)) := by
  induction table with
  | nil => simp [alter, carried]
  | cons entry rest ih =>
    simp only [alter]
    split
    · rename_i heq
      simp only [carried, List.flatMap_cons, List.map_append, heq, List.append_assoc]
      exact List.Perm.append_left _ List.perm_append_comm
    · simp only [carried, List.flatMap_cons, List.append_assoc] at ih ⊢
      exact List.Perm.append_left _ ih

end Request.Table

/-! ### Joining tables -/

namespace Query

theorem mem_names_merge {table more : Request.Table} {name : String} :
    name ∈ (merge table more).names ↔ name ∈ table.names ∨ name ∈ more.names := by
  induction more generalizing table with
  | nil => simp [merge, Request.Table.names]
  | cons entry rest ih =>
    have hmerge : merge table (entry :: rest) = merge (table.alter entry.1 (· ++ entry.2)) rest := rfl
    rw [hmerge, ih, Request.Table.mem_names_alter]
    simp only [Request.Table.names, List.map_cons, List.mem_cons, or_assoc]

theorem perm_carried_merge (table more : Request.Table) :
    (merge table more).carried.Perm (table.carried ++ more.carried) := by
  induction more generalizing table with
  | nil => simp [merge, Request.Table.carried]
  | cons entry rest ih =>
    have hmerge : merge table (entry :: rest) = merge (table.alter entry.1 (· ++ entry.2)) rest := rfl
    have hcarried : Request.Table.carried (entry :: rest) = entry.2.map (Prod.mk entry.1)
        ++ Request.Table.carried rest := List.flatMap_cons
    rw [hmerge, hcarried, ← List.append_assoc]
    exact (ih _).trans ((Request.Table.perm_carried_alter table entry.1 entry.2).append_right _)

/-- What a request carries under both spellings of its filters. -/
def carried (request : Request) : List (String × String) :=
  (entries request "filters").carried ++ (entries request "filter").carried

theorem perm_carried_filtersOf (request : Request) :
    (filtersOf request).carried.Perm (carried request) :=
  perm_carried_merge _ _

end Query

end Listing
