import Mathlib.Data.List.Nodup
import Mathlib.Data.List.Basic

/-! # Tables with a primary key

A `Table` is a list of rows in insertion order in which no two rows share their
primary key. The writes are those of SQL on a key: `INSERT OR REPLACE`, `DELETE`
and `UPDATE`. Every write is characterized by its effect on `find?`, the lookup by
key, so that proofs never look at the list of rows.
-/

namespace Relational

/-- The primary key of a row type. -/
class Keyed (ρ : Type) (κ : outParam Type) where
  key : ρ → κ

/-- A change of a row that cannot change its primary key. -/
structure Change (ρ : Type) {κ : outParam Type} [Keyed ρ κ] where
  apply : ρ → ρ
  keepsKey : ∀ row, Keyed.key (apply row) = Keyed.key row := by intro row; rfl

structure Table (ρ : Type) {κ : outParam Type} [Keyed ρ κ] where
  rows : List ρ
  nodup : (rows.map Keyed.key).Nodup

variable {ρ κ : Type} [Keyed ρ κ] [DecidableEq κ]

namespace Table

def empty : Table ρ := ⟨[], List.nodup_nil⟩

/-- `SELECT .. WHERE key = ?`. -/
def find? (t : Table ρ) (k : κ) : Option ρ := t.rows.find? fun row => Keyed.key row = k

/-- `SELECT .. WHERE p`. -/
def select (t : Table ρ) (p : ρ → Bool) : List ρ := t.rows.filter p

/-- `DELETE .. WHERE key = ?`. -/
def delete (t : Table ρ) (k : κ) : Table ρ where
  rows := t.rows.filter fun row => Keyed.key row ≠ k
  nodup := t.nodup.sublist (List.filter_sublist.map _)

/-- `INSERT OR REPLACE`: a row with the same key makes room for the new one. -/
def insertOrReplace (t : Table ρ) (row : ρ) : Table ρ where
  rows := (t.delete (Keyed.key row)).rows ++ [row]
  nodup := by
    rw [List.map_append, List.nodup_append]
    refine ⟨(t.delete (Keyed.key row)).nodup, List.nodup_singleton _, ?_⟩
    intro a member b inNew same
    obtain ⟨old, inOld, rfl⟩ := List.mem_map.mp member
    simp only [delete, List.mem_filter, decide_eq_true_eq] at inOld
    simp only [List.map_cons, List.map_nil, List.mem_singleton] at inNew
    exact inOld.2 (same.trans inNew)

/-- `UPDATE .. SET .. WHERE p`. -/
def updateWhere (t : Table ρ) (p : ρ → Bool) (change : Change ρ) : Table ρ where
  rows := t.rows.map fun row => if p row then change.apply row else row
  nodup := by
    have keys : (t.rows.map fun row => if p row then change.apply row else row).map Keyed.key =
        t.rows.map Keyed.key := by
      rw [List.map_map]
      refine List.map_congr_left fun row _ => ?_
      simp only [Function.comp_apply]
      split
      · exact change.keepsKey row
      · rfl
    rw [keys]
    exact t.nodup

/-- `UPDATE .. SET .. WHERE key = ?`. -/
def update (t : Table ρ) (k : κ) (change : Change ρ) : Table ρ :=
  t.updateWhere (fun row => Keyed.key row = k) change

/-- The table holds a row under the key. -/
def Contains (t : Table ρ) (k : κ) : Prop := (t.find? k).isSome

instance (t : Table ρ) (k : κ) : Decidable (t.Contains k) :=
  inferInstanceAs (Decidable ((t.find? k).isSome = true))

/-- The rows whose key is to be kept. -/
def retain (t : Table ρ) (keep : κ → Bool) : Table ρ where
  rows := t.rows.filter fun row => keep (Keyed.key row)
  nodup := t.nodup.sublist (List.filter_sublist.map _)

variable {t : Table ρ} {row : ρ} {k k' : κ}

theorem find?_key (h : t.find? k = some row) : Keyed.key row = k := by
  simpa using List.find?_some h

theorem mem_of_find? (h : t.find? k = some row) : row ∈ t.rows :=
  List.mem_of_find?_eq_some h

/-- A row is in the table iff the lookup of its key finds it. -/
theorem mem_rows : row ∈ t.rows ↔ t.find? (Keyed.key row) = some row := by
  constructor
  · intro member
    cases found : t.find? (Keyed.key row) with
    | none =>
        have absent := List.find?_eq_none.mp found row member
        simp at absent
    | some other =>
        have same := List.inj_on_of_nodup_map t.nodup (mem_of_find? found) member (find?_key found)
        rw [same]
  · exact mem_of_find?

theorem find?_delete (t : Table ρ) (k k' : κ) :
    (t.delete k).find? k' = if k' = k then none else t.find? k' := by
  simp only [find?, delete, List.find?_filter]
  split
  · subst k'
    simp
  · congr 1
    funext row
    by_cases same : Keyed.key row = k' <;> simp_all

@[simp] theorem find?_delete_self (t : Table ρ) (k : κ) : (t.delete k).find? k = none := by
  rw [find?_delete, if_pos rfl]

/-- What is found after a `DELETE` was there before. -/
theorem find?_of_delete (found : (t.delete k').find? k = some row) : t.find? k = some row := by
  rw [find?_delete] at found
  split at found
  · cases found
  · exact found

theorem find?_insertOrReplace (t : Table ρ) (row : ρ) (k : κ) :
    (t.insertOrReplace row).find? k = if k = Keyed.key row then some row else t.find? k := by
  have split : (t.insertOrReplace row).find? k =
      ((t.delete (Keyed.key row)).find? k).or ([row].find? fun row => Keyed.key row = k) :=
    List.find?_append
  rw [split, find?_delete]
  by_cases same : k = Keyed.key row
  · simp [same]
  · simp [same, Ne.symm same]

@[simp] theorem find?_insertOrReplace_self (t : Table ρ) (row : ρ) :
    (t.insertOrReplace row).find? (Keyed.key row) = some row := by
  rw [find?_insertOrReplace, if_pos rfl]

/-- What is found after an insertion is the new row, or was there before. -/
theorem find?_of_insertOrReplace {new : ρ} (found : (t.insertOrReplace new).find? k = some row) :
    Keyed.key new = k ∧ new = row ∨ t.find? k = some row := by
  rw [find?_insertOrReplace] at found
  split at found
  case isTrue same => exact .inl ⟨same.symm, Option.some.inj found⟩
  case isFalse => exact .inr found

theorem mem_of_mem_insertOrReplace {other : ρ} (member : other ∈ (t.insertOrReplace row).rows) :
    other = row ∨ other ∈ t.rows := by
  rcases List.mem_append.mp member with kept | new
  · exact .inr (List.mem_of_mem_filter kept)
  · exact .inl (List.mem_singleton.mp new)

theorem find?_updateWhere (t : Table ρ) (p : ρ → Bool) (change : Change ρ) (k : κ) :
    (t.updateWhere p change).find? k =
      (t.find? k).map fun row => if p row then change.apply row else row := by
  have keys (row : ρ) : Keyed.key (if p row = true then change.apply row else row) =
      Keyed.key row := by
    split
    · exact change.keepsKey row
    · rfl
  simp only [find?, updateWhere, List.find?_map, Function.comp_def, keys]

theorem find?_update (t : Table ρ) (k k' : κ) (change : Change ρ) :
    (t.update k change).find? k' =
      if k' = k then (t.find? k').map change.apply else t.find? k' := by
  rw [update, find?_updateWhere]
  cases found : t.find? k' with
  | none => simp
  | some row =>
      simp only [Option.map_some, find?_key found, decide_eq_true_eq]
      split <;> rfl

@[simp] theorem find?_update_self (t : Table ρ) (k : κ) (change : Change ρ) :
    (t.update k change).find? k = (t.find? k).map change.apply := by
  rw [find?_update, if_pos rfl]

theorem contains_iff_mem : t.Contains k ↔ ∃ row ∈ t.rows, Keyed.key row = k := by
  rw [Contains, Option.isSome_iff_exists]
  constructor
  · rintro ⟨row, found⟩
    exact ⟨row, mem_of_find? found, find?_key found⟩
  · rintro ⟨row, member, rfl⟩
    exact ⟨row, mem_rows.mp member⟩

theorem not_contains_empty (k : κ) : ¬ (empty : Table ρ).Contains k := nofun

theorem contains_insertOrReplace :
    (t.insertOrReplace row).Contains k ↔ k = Keyed.key row ∨ t.Contains k := by
  rw [Contains, find?_insertOrReplace, Contains]
  split
  case isTrue same => exact iff_of_true rfl (.inl same)
  case isFalse other => exact (or_iff_right other).symm

omit [DecidableEq κ] in
theorem mem_retain {keep : κ → Bool} :
    row ∈ (t.retain keep).rows ↔ row ∈ t.rows ∧ keep (Keyed.key row) := List.mem_filter

theorem contains_retain {keep : κ → Bool} :
    (t.retain keep).Contains k ↔ keep k ∧ t.Contains k := by
  simp only [contains_iff_mem, mem_retain]
  constructor
  · rintro ⟨row, ⟨member, kept⟩, rfl⟩
    exact ⟨kept, row, member, rfl⟩
  · rintro ⟨kept, row, member, rfl⟩
    exact ⟨row, ⟨member, kept⟩, rfl⟩

/-- The rows are inserted one after the other. -/
theorem contains_foldl_insertOrReplace (rows : List ρ) :
    (rows.foldl insertOrReplace t).Contains k ↔ t.Contains k ∨ ∃ row ∈ rows, Keyed.key row = k := by
  induction rows generalizing t with
  | nil => simp
  | cons row rows ih =>
      rw [List.foldl_cons, ih, contains_insertOrReplace, List.exists_mem_cons_iff, or_assoc,
        or_left_comm, eq_comm]

/-- What is found after the insertions is one of the new rows, or was there before and none of them
    has its key. -/
theorem find?_of_foldl_insertOrReplace {rows : List ρ}
    (found : (rows.foldl insertOrReplace t).find? k = some row) :
    row ∈ rows ∨ t.find? k = some row ∧ ∀ other ∈ rows, Keyed.key other ≠ k := by
  induction rows generalizing t with
  | nil => exact .inr ⟨found, nofun⟩
  | cons first rows ih =>
      rcases ih found with later | ⟨earlier, none⟩
      · exact .inl (List.mem_cons_of_mem _ later)
      · rw [find?_insertOrReplace] at earlier
        split at earlier
        case isTrue =>
          cases earlier
          exact .inl (List.mem_cons_self ..)
        case isFalse other =>
          exact .inr ⟨earlier, List.forall_mem_cons.mpr ⟨Ne.symm other, none⟩⟩

theorem mem_foldl_insertOrReplace {rows : List ρ}
    (member : row ∈ (rows.foldl insertOrReplace t).rows) : row ∈ t.rows ∨ row ∈ rows := by
  rcases find?_of_foldl_insertOrReplace (mem_rows.mp member) with new | ⟨old, -⟩
  · exact .inr new
  · exact .inl (mem_of_find? old)

end Table

end Relational
