import Mathlib.Data.List.DropRight

/-! # Caches that follow snapshots

A cache holds rows for the keys of some collection that is only seen in snapshots of its keys.
With each snapshot the rows of new keys are loaded, as far as that succeeds, and the rows of keys
that are gone are dropped. What it holds then is determined by the snapshots alone: the keys of
the latest one that could be loaded at some time of their present stay.
-/

namespace Relational

variable {κ : Type}

/-- A snapshot of the keys, with those that could be loaded when it was taken. -/
structure Snapshot (κ : Type) where
  keys : List κ
  Loads : κ → Prop

namespace Snapshot

variable [DecidableEq κ] {history : List (Snapshot κ)} {snapshot : Snapshot κ} {key : κ}

/-- The snapshots since the key last entered them. -/
def stay (history : List (Snapshot κ)) (key : κ) : List (Snapshot κ) :=
  history.rtakeWhile fun snapshot => key ∈ snapshot.keys

/-- The key is in the latest snapshot, and was loaded since it last entered. -/
def Held (history : List (Snapshot κ)) (key : κ) : Prop :=
  (∃ latest ∈ history.getLast?, key ∈ latest.keys) ∧
    ∃ snapshot ∈ stay history key, snapshot.Loads key

theorem stay_concat_of_mem (present : key ∈ snapshot.keys) :
    stay (history ++ [snapshot]) key = stay history key ++ [snapshot] :=
  List.rtakeWhile_concat_pos _ _ _ (by simpa using present)

/-- A stay that is not over reaches to the latest snapshot. -/
theorem mem_latest_of_stay {earlier : Snapshot κ} (member : earlier ∈ stay history key) :
    ∃ latest ∈ history.getLast?, key ∈ latest.keys := by
  induction history using List.reverseRecOn with
  | nil => cases member
  | append_singleton history snapshot ih =>
      by_cases present : key ∈ snapshot.keys
      · exact ⟨snapshot, List.getLast?_concat, present⟩
      · rw [stay, List.rtakeWhile_concat_neg _ _ _ (by simpa using present)] at member
        cases member

theorem held_iff_stay : Held history key ↔ ∃ snapshot ∈ stay history key, snapshot.Loads key := by
  constructor
  · exact And.right
  · rintro ⟨snapshot, member, loads⟩
    exact ⟨mem_latest_of_stay member, snapshot, member, loads⟩

/-- What one more snapshot changes. -/
theorem held_concat : Held (history ++ [snapshot]) key ↔
    key ∈ snapshot.keys ∧ (snapshot.Loads key ∨ Held history key) := by
  by_cases present : key ∈ snapshot.keys
  · rw [held_iff_stay, held_iff_stay, stay_concat_of_mem present]
    simp only [List.mem_append, List.mem_singleton, or_and_right, exists_or, exists_eq_left,
      present, true_and]
    exact Or.comm
  · apply iff_of_false
    · rintro ⟨⟨latest, last, inLatest⟩, -⟩
      rw [List.getLast?_concat] at last
      cases last
      exact present inLatest
    · exact fun held => present held.1

/-- A cache that loads and drops with every snapshot, and is left alone without one, holds what the
    snapshots determine. -/
theorem holds_iff_held {σ ι : Type*} {step : σ → ι → σ} {snapshot? : ι → Option (Snapshot κ)}
    {holds : σ → κ → Prop} {start : σ} (empty : ∀ key, ¬ holds start key)
    (follows : ∀ s i snapshot key, snapshot? i = some snapshot →
      (holds (step s i) key ↔ key ∈ snapshot.keys ∧ (snapshot.Loads key ∨ holds s key)))
    (idles : ∀ s i, snapshot? i = none → step s i = s) (course : List ι) (key : κ) :
    holds (course.foldl step start) key ↔ Held (course.filterMap snapshot?) key := by
  induction course using List.reverseRecOn generalizing key with
  | nil => exact iff_of_false (empty key) fun held => by cases held.1.choose_spec.1
  | append_singleton course i ih =>
      rw [List.foldl_concat, List.filterMap_append]
      cases taken : snapshot? i with
      | none =>
          rw [idles _ i taken, ih, List.filterMap_cons_none taken, List.filterMap_nil,
            List.append_nil]
      | some snapshot =>
          rw [follows _ i snapshot key taken, ih, List.filterMap_cons_some taken,
            List.filterMap_nil, held_concat]

end Snapshot

end Relational
