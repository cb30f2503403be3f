import Mathlib.Data.List.Nodup
import Mathlib.Data.List.Perm.Subperm
import Scriptlet.Proofs.Eval.Operations

/-!
# Texts of objects and values

The text of an object is found by a descent that is cut short at objects of its path. A path repeats
no object, so it is never longer than there are objects, and a descent that is allowed more steps
than that comes to the same text (`Heap.objectTextWithin_eq_objectText`).

Plain and quoted texts differ in how they show a string, which always has both. So values have
quoted texts exactly when they have plain ones (`Heap.quotedAll_eq_error_iff`).
-/

namespace Scriptlet.Heap

variable {h : Heap}

/-- A path that repeats no object is not longer than there are objects. -/
lemma length_le_size {path : List Ref} (nodup : path.Nodup) (hlt : ∀ r ∈ path, r.index < h.size) :
    path.length ≤ h.size := by
  have hinj : Function.Injective Ref.index := by
    rintro ⟨i⟩ ⟨j⟩ rfl
    rfl
  have hsub : path.map Ref.index ⊆ List.range h.size := by
    intro i hi
    obtain ⟨r, hr, rfl⟩ := List.mem_map.1 hi
    exact List.mem_range.2 (hlt r hr)
  have hle := ((nodup.map hinj).subperm hsub).length_le
  rwa [List.length_map, List.length_range] at hle

/-- One step more makes no difference to a descent that has a step for each object outside its path
and one to spare. -/
lemma objectTextWithin_succ {n : Nat} {path : List Ref} (nodup : path.Nodup)
    (hlt : ∀ r ∈ path, r.index < h.size) (hn : h.size < n + path.length) (r : Ref) :
    h.objectTextWithin (n + 1) path r = h.objectTextWithin n path r := by
  induction n generalizing path r with
  | zero =>
    have hle := length_le_size nodup hlt
    omega
  | succ n ih =>
    rw [objectTextWithin, objectTextWithin]
    split
    · rename_i fields hr
      split
      · rfl
      · rename_i hmem
        have hnodup : (r :: path).Nodup := List.nodup_cons.2 ⟨hmem, nodup⟩
        have hlt' : ∀ s ∈ r :: path, s.index < h.size :=
          List.forall_mem_cons.2 ⟨lt_size_of_kind? (kind?_of_get? hr), hlt⟩
        have hn' : h.size < n + (r :: path).length := by
          rw [List.length_cons]
          omega
        have key : h.objectTextWithin (n + 1) (r :: path) = h.objectTextWithin n (r :: path) :=
          funext fun s => ih hnodup hlt' hn' s
        rw [key]
    all_goals rfl

/-- A descent with more steps than there are objects comes to the text of the object. -/
theorem objectTextWithin_eq_objectText {n : Nat} (hn : h.size < n) (r : Ref) :
    h.objectTextWithin n [] r = h.objectText r := by
  induction hn with
  | refl => rfl
  | step hn ih => rw [objectTextWithin_succ List.nodup_nil (List.forall_mem_nil _) hn, ih]

/-- Two computations, the second of which does not depend on the first, come to an error as soon as
one of them does. -/
lemma pair_eq_error_iff {x : Except ε α} {y : Except ε β} {g : α → β → γ} {e} :
    (do
      let a ← x
      let b ← y
      return g a b) = .error e ↔ x = .error e ∨ (∀ e', x ≠ .error e') ∧ y = .error e := by
  cases x <;> cases y <;> simp [bind, Except.bind, pure, Except.pure]

/-- A value has no quoted text exactly if it has no plain one. -/
lemma quoted_eq_error_iff {v : Value} {f} : h.quoted v = .error f ↔ h.text v = .error f := by
  cases v with
  | atom a =>
    cases a with
    | str => exact ⟨nofun, nofun⟩
    | int | bool | null | undefined => exact Iff.rfl
  | ref | returning => exact Iff.rfl

/-- Values have no quoted texts exactly when they have no plain ones. -/
theorem quotedAll_eq_error_iff {vs : List Value} {f} :
    h.quotedAll vs = .error f ↔ h.textAll vs = .error f := by
  induction vs with
  | nil => exact ⟨nofun, nofun⟩
  | cons v rest ih =>
    simp only [quotedAll, textAll, pair_eq_error_iff, ne_eq, quoted_eq_error_iff, ih]

end Scriptlet.Heap
