import Mathlib.Tactic.Lemma
import Scriptlet.Operator.Apply

/-!
# Comparisons

The six comparisons fit together, whatever values they are asked about. Any two values are equal or
not, as in an equivalence. Two values stand in an order or in none (`Value.compare?`): numbers and
strings do, and signals that carry such or carry equal values. If they do, all four questions about
order are answered, and alike from either side; if they do not, none is. The order is strict, and
goes with equality.

Main statements:
* `Value.compare?_swap`, `Value.equal_iff_of_compare?`, `Value.compare?_trans`: how values stand.
* `Heap.ordered_of_compare?`, `Heap.ordered_of_incomparable`: what the questions come to.
* `Heap.comparisons_coherent`: the laws of the operators.
-/

namespace Scriptlet

namespace Atom

variable {a b c : Atom}

/-- Equal atoms count as the same number, or count as none and are the same. -/
lemma equal_iff : a.equal b = true ↔ a.number? = b.number? ∧ (a.number? = none → a = b) := by
  rw [equal]
  cases ha : a.number? <;> cases hb : b.number? <;> simp

/-- An atom equals itself. -/
lemma equal_refl (a : Atom) : a.equal a = true :=
  equal_iff.2 ⟨rfl, fun _ => rfl⟩

/-- Equality of atoms goes both ways. -/
lemma equal_symm (h : a.equal b = true) : b.equal a = true := by
  obtain ⟨hnumber, hsame⟩ := equal_iff.1 h
  exact equal_iff.2 ⟨hnumber.symm, fun hb => (hsame (hnumber.trans hb)).symm⟩

/-- Atoms that equal the same atom equal one another. -/
lemma equal_trans (h : a.equal b = true) (h' : b.equal c = true) : a.equal c = true := by
  obtain ⟨hnumber, hsame⟩ := equal_iff.1 h
  obtain ⟨hnumber', hsame'⟩ := equal_iff.1 h'
  refine equal_iff.2 ⟨hnumber.trans hnumber', fun ha => ?_⟩
  exact (hsame ha).trans (hsame' (hnumber.symm.trans ha))

/-- What atoms have an order by: two numbers, or two strings. -/
lemma compare?_cases {o} (h : a.compare? b = some o) :
    (∃ m n, a.number? = some m ∧ b.number? = some n ∧ o = compare m n) ∨
      ∃ s t, a = .str s ∧ b = .str t ∧ o = compare s t := by
  unfold compare? at h
  split at h
  · exact .inl ⟨_, _, ‹_›, ‹_›, (Option.some.inj h).symm⟩
  · split at h
    · exact .inr ⟨_, _, rfl, rfl, (Option.some.inj h).symm⟩
    · cases h

/-- Atoms that count as numbers compare as these. -/
lemma compare?_of_number? {m n} (ha : a.number? = some m) (hb : b.number? = some n) :
    a.compare? b = some (compare m n) := by
  simp only [compare?, ha, hb]

/-- Strings compare as strings. -/
lemma compare?_str (s t : String) : (str s).compare? (str t) = some (compare s t) := rfl

/-- From the other side the order is reversed. -/
lemma compare?_swap_of_some {o} (h : a.compare? b = some o) : b.compare? a = some o.swap := by
  obtain ⟨m, n, ha, hb, rfl⟩ | ⟨s, t, rfl, rfl, rfl⟩ := compare?_cases h
  · have hswap : compare n m = (compare m n).swap := Std.OrientedCmp.eq_swap
    rw [compare?_of_number? hb ha, hswap]
  · have hswap : compare t s = (compare s t).swap := Std.OrientedCmp.eq_swap
    rw [compare?_str, hswap]

/-- Atoms that have an order are equal exactly if neither comes first. -/
lemma equal_iff_of_compare? {o} (h : a.compare? b = some o) : a.equal b = true ↔ o = .eq := by
  obtain ⟨m, n, ha, hb, rfl⟩ | ⟨s, t, rfl, rfl, rfl⟩ := compare?_cases h
  · rw [equal_iff, ha, hb, Std.LawfulEqCmp.compare_eq_iff_eq]
    simp
  · rw [equal_iff, Std.LawfulEqCmp.compare_eq_iff_eq]
    simp [number?]

/-- An atom comes before all that come after one that it comes before. -/
lemma compare?_trans (h : a.compare? b = some .lt) (h' : b.compare? c = some .lt) :
    a.compare? c = some .lt := by
  obtain ⟨m, n, ha, hb, hmn⟩ | ⟨s, t, rfl, rfl, hst⟩ := compare?_cases h
  · obtain ⟨n', k, hb', hc, hnk⟩ | ⟨s, t, rfl, rfl, _⟩ := compare?_cases h'
    · obtain rfl : n = n' := Option.some.inj (hb.symm.trans hb')
      rw [compare?_of_number? ha hc, Std.TransCmp.lt_trans hmn.symm hnk.symm]
    · cases hb
  · obtain ⟨n', k, hb', hc, _⟩ | ⟨t', u, ht, rfl, htu⟩ := compare?_cases h'
    · cases hb'
    · cases ht
      rw [compare?_str, Std.TransCmp.lt_trans hst.symm htu.symm]

end Atom

namespace Value

variable {u v w : Value}

/-- How two values stand, if they have an order. Equal signals need none between what they carry. -/
def compare? : Value → Value → Option Ordering
  | returning _ v, returning _ w => if v.equal w then some .eq else v.compare? w
  | atom a, atom b => a.compare? b
  | _, _ => none

/-- A value equals itself. -/
lemma equal_refl (v : Value) : v.equal v = true := by
  induction v with
  | atom a => exact a.equal_refl
  | ref r => exact decide_eq_true rfl
  | returning _ _ ih => exact ih

/-- Equality of values goes both ways. -/
lemma equal_symm (h : v.equal w = true) : w.equal v = true := by
  induction v generalizing w with
  | atom a =>
    cases w with
    | atom b => exact Atom.equal_symm h
    | ref | returning => cases h
  | ref r =>
    cases w with
    | ref s => exact decide_eq_true (of_decide_eq_true h).symm
    | atom | returning => cases h
  | returning _ v ih =>
    cases w with
    | returning _ w => exact ih h
    | atom | ref => cases h

/-- Values that equal the same value equal one another. -/
lemma equal_trans (h : u.equal v = true) (h' : v.equal w = true) : u.equal w = true := by
  induction u generalizing v w with
  | atom a =>
    cases v with
    | atom b =>
      cases w with
      | atom c => exact Atom.equal_trans h h'
      | ref | returning => cases h'
    | ref | returning => cases h
  | ref r =>
    cases v with
    | ref s =>
      obtain rfl : r = s := of_decide_eq_true h
      exact h'
    | atom | returning => cases h
  | returning _ u ih =>
    cases v with
    | returning _ v =>
      cases w with
      | returning _ w => exact ih h h'
      | atom | ref => cases h'
    | atom | ref => cases h

/-- To ask whether two values are equal is the same either way round. -/
lemma equal_comm (v w : Value) : v.equal w = w.equal v :=
  Bool.eq_iff_iff.2 ⟨equal_symm, equal_symm⟩

/-- Two values that have an order have the opposite one the other way round. -/
lemma compare?_swap_of_some {o} (h : v.compare? w = some o) : w.compare? v = some o.swap := by
  induction v generalizing w with
  | atom a =>
    cases w with
    | atom b => exact Atom.compare?_swap_of_some h
    | ref | returning => cases h
  | ref => cases w <;> cases h
  | returning _ v ih =>
    cases w with
    | returning _ w =>
      rw [compare?] at h ⊢
      rw [equal_comm w v]
      split at h
      · rename_i he
        cases h
        rw [if_pos he]
        rfl
      · rename_i he
        rw [if_neg he]
        exact ih h
    | atom | ref => cases h

/-- From the other side values stand the other way round, or in no order either. -/
theorem compare?_swap (v w : Value) : w.compare? v = (v.compare? w).map Ordering.swap := by
  cases h : v.compare? w with
  | some o => exact compare?_swap_of_some h
  | none =>
    refine Option.eq_none_iff_forall_ne_some.2 fun o h' => ?_
    exact nomatch h.symm.trans (compare?_swap_of_some h')

/-- Among values with an order the equal ones are those that stand so. -/
theorem equal_iff_of_compare? {o} (h : v.compare? w = some o) : v.equal w = true ↔ o = .eq := by
  induction v generalizing w with
  | atom a =>
    cases w with
    | atom b => exact Atom.equal_iff_of_compare? h
    | ref | returning => cases h
  | ref => cases w <;> cases h
  | returning _ v ih =>
    cases w with
    | returning _ w =>
      rw [compare?] at h
      split at h
      · rename_i he
        exact ⟨fun _ => (Option.some.inj h).symm, fun _ => he⟩
      · exact ih h
    | atom | ref => cases h

/-- Signals that stand below one another are not equal, and stand as what they carry. -/
lemma compare?_returning_lt_iff {k l : Nat} :
    (returning k v).compare? (returning l w) = some .lt ↔ v.compare? w = some .lt := by
  rw [compare?]
  split
  · rename_i he
    refine ⟨fun h => by simp at h, fun h => ?_⟩
    cases (equal_iff_of_compare? h).1 he
  · exact Iff.rfl

/-- A value comes before all that come after one that it comes before. -/
theorem compare?_trans (h : u.compare? v = some .lt) (h' : v.compare? w = some .lt) :
    u.compare? w = some .lt := by
  induction u generalizing v w with
  | atom a =>
    cases v with
    | atom b =>
      cases w with
      | atom c => exact Atom.compare?_trans h h'
      | ref | returning => cases h'
    | ref | returning => cases h
  | ref => cases v <;> cases h
  | returning _ u ih =>
    cases v with
    | returning _ v =>
      cases w with
      | returning _ w =>
        rw [compare?_returning_lt_iff] at h h' ⊢
        exact ih h h'
      | atom | ref => cases h'
    | atom | ref => cases h

end Value

namespace Heap

variable (h : Heap) {v w : Value}

/-- A question about two values that have an order is answered by how they stand. -/
lemma ordered_of_compare? {c} (hc : v.compare? w = some c) (op : Order) :
    h.ordered op v w = .ok (op.holds c) := by
  induction v generalizing w with
  | atom a =>
    cases w with
    | atom b =>
      have hc : a.compare? b = some c := hc
      simp only [ordered, hc]
    | ref | returning => cases hc
  | ref => cases w <;> cases hc
  | returning _ v ih =>
    cases w with
    | returning _ w =>
      rw [Value.compare?] at hc
      rw [ordered]
      split at hc
      · rename_i he
        cases hc
        rw [if_pos he]
      · rename_i he
        rw [if_neg he]
        exact ih hc
    | atom | ref => cases hc

/-- No question about two values without an order is answered, and the fault is the same but for the
sign of the question. -/
lemma ordered_of_incomparable (hc : v.compare? w = none) :
    ∃ left right, ∀ op, h.ordered op v w = .error (.unordered op left right) := by
  induction v generalizing w with
  | atom a =>
    cases w with
    | atom b =>
      have hc : a.compare? b = none := hc
      exact ⟨a.shape, b.shape, fun op => by simp only [ordered, hc]⟩
    | ref | returning => exact ⟨_, _, fun _ => rfl⟩
  | ref => exact ⟨_, _, fun _ => rfl⟩
  | returning _ v ih =>
    cases w with
    | returning _ w =>
      rw [Value.compare?] at hc
      split at hc
      · cases hc
      · rename_i he
        obtain ⟨left, right, hop⟩ := ih hc
        refine ⟨left, right, fun op => ?_⟩
        rw [ordered, if_neg he]
        exact hop op
    | atom | ref => exact ⟨_, _, fun _ => rfl⟩

/-- An operator answers one. -/
def Holds (op : Operator) (v w : Value) : Prop :=
  h.apply op v w = .ok (.int 1)

/-- An operator answers one or zero. -/
def Answers (op : Operator) (v w : Value) : Prop :=
  h.apply op v w = .ok (.int 1) ∨ h.apply op v w = .ok (.int 0)

/-- A question about order has no answer. -/
def Refuses (op : Order) (v w : Value) : Prop :=
  ∃ left right, h.apply (.order op) v w = .error (.unordered op left right)

/-- How the comparisons of three values hang together. -/
structure Coherent (a b c : Value) : Prop where
  equal_refl : h.Holds .equal a a
  equal_answers : h.Answers .equal a b
  equal_symm : h.apply .equal b a = h.apply .equal a b
  equal_trans : h.Holds .equal a b → h.Holds .equal b c → h.Holds .equal a c
  /-- One answers one minus what the other does. -/
  unequal : ∃ n : Int, h.apply .equal a b = .ok (.int n) ∧
    h.apply .unequal a b = .ok (.int (1 - n))
  /-- All questions about order are answered, or none is, and the same from the other side. -/
  together : (∀ op, h.Answers (.order op) a b ∧ h.Answers (.order op) b a) ∨
    ∀ op, h.Refuses op a b ∧ h.Refuses op b a
  /-- Exactly one of three holds. -/
  trichotomy : h.Answers (.order .lt) a b →
    h.Holds (.order .lt) a b ∧ ¬ h.Holds .equal a b ∧ ¬ h.Holds (.order .gt) a b ∨
      ¬ h.Holds (.order .lt) a b ∧ h.Holds .equal a b ∧ ¬ h.Holds (.order .gt) a b ∨
        ¬ h.Holds (.order .lt) a b ∧ ¬ h.Holds .equal a b ∧ h.Holds (.order .gt) a b
  le_iff : h.Answers (.order .lt) a b →
    (h.Holds (.order .le) a b ↔ h.Holds (.order .lt) a b ∨ h.Holds .equal a b)
  gt_eq_lt : h.Answers (.order .lt) a b →
    h.apply (.order .gt) a b = h.apply (.order .lt) b a
  ge_eq_le : h.Answers (.order .lt) a b →
    h.apply (.order .ge) a b = h.apply (.order .le) b a
  lt_trans : h.Holds (.order .lt) a b → h.Holds (.order .lt) b c → h.Holds (.order .lt) a c

/-- The answer of a comparison is one exactly if the comparison holds. -/
lemma ofBool_eq_one_iff {b : Bool} :
    (.ok (.ofBool b) : Except Fault Value) = .ok (.int 1) ↔ b = true := by
  cases b <;> simp

/-- The operator of equality answers one exactly for values that are equal. -/
lemma holds_equal_iff : h.Holds .equal v w ↔ v.equal w = true :=
  ofBool_eq_one_iff

/-- The operators of order answer for values that have an order. -/
lemma apply_order_of_compare? {c} (hc : v.compare? w = some c) (op : Order) :
    h.apply (.order op) v w = .ok (.ofBool (op.holds c)) := by
  simp only [apply, h.ordered_of_compare? hc]
  rfl

/-- An operator that comes to a truth value has an answer. -/
lemma answers_ofBool {op : Operator} {b : Bool} (hb : h.apply op v w = .ok (.ofBool b)) :
    h.Answers op v w := by
  cases b with
  | true => exact .inl hb
  | false => exact .inr hb

/-- The operators of order have no answer for values without an order. -/
lemma refuses_of_incomparable (hc : v.compare? w = none) (op : Order) : h.Refuses op v w := by
  obtain ⟨left, right, hop⟩ := h.ordered_of_incomparable hc
  refine ⟨left, right, ?_⟩
  simp only [apply, hop op]
  rfl

/-- Values that an operator of order answers for have an order. -/
lemma exists_compare?_of_answers {op : Order} (ha : h.Answers (.order op) v w) :
    ∃ c, v.compare? w = some c := by
  cases hc : v.compare? w with
  | some c => exact ⟨c, rfl⟩
  | none =>
    obtain ⟨left, right, hr⟩ := h.refuses_of_incomparable hc op
    obtain ha | ha := ha
    · cases hr.symm.trans ha
    · cases hr.symm.trans ha

/-- An operator of order answers one exactly if the order of the values is one that it holds of. -/
lemma holds_order_iff {op : Order} {c} (hc : v.compare? w = some c) :
    h.Holds (.order op) v w ↔ op.holds c = true := by
  rw [Holds, h.apply_order_of_compare? hc]
  exact ofBool_eq_one_iff

/-- The operator for less answers one exactly if the first value comes before the second. -/
lemma holds_lt_iff : h.Holds (.order .lt) v w ↔ v.compare? w = some .lt := by
  constructor
  · intro hlt
    obtain ⟨c, hc⟩ := h.exists_compare?_of_answers (.inl hlt)
    have hholds := (h.holds_order_iff hc).1 hlt
    cases c with
    | lt => exact hc
    | eq | gt => cases hholds
  · intro hc
    exact (h.holds_order_iff hc).2 rfl

/-- The comparisons of any three values are coherent. -/
theorem comparisons_coherent (a b c : Value) : h.Coherent a b c where
  equal_refl := h.holds_equal_iff.2 a.equal_refl
  equal_answers := h.answers_ofBool rfl
  equal_symm := by
    rw [apply, apply, Value.equal_comm]
  equal_trans hab hbc := by
    rw [holds_equal_iff] at hab hbc ⊢
    exact Value.equal_trans hab hbc
  unequal := by
    rw [apply, apply]
    cases a.equal b with
    | true => exact ⟨1, rfl, rfl⟩
    | false => exact ⟨0, rfl, rfl⟩
  together := by
    have hswap := Value.compare?_swap a b
    cases hc : a.compare? b with
    | some o =>
      rw [hc] at hswap
      left
      intro op
      exact ⟨h.answers_ofBool (h.apply_order_of_compare? hc op),
        h.answers_ofBool (h.apply_order_of_compare? hswap op)⟩
    | none =>
      rw [hc] at hswap
      right
      intro op
      exact ⟨h.refuses_of_incomparable hc op, h.refuses_of_incomparable hswap op⟩
  trichotomy ha := by
    obtain ⟨o, hc⟩ := h.exists_compare?_of_answers ha
    rw [h.holds_order_iff hc, h.holds_order_iff hc, holds_equal_iff,
      Value.equal_iff_of_compare? hc]
    cases o <;> simp [Order.holds]
  le_iff ha := by
    obtain ⟨o, hc⟩ := h.exists_compare?_of_answers ha
    rw [h.holds_order_iff hc, h.holds_order_iff hc, holds_equal_iff,
      Value.equal_iff_of_compare? hc]
    cases o <;> simp [Order.holds]
  gt_eq_lt ha := by
    obtain ⟨o, hc⟩ := h.exists_compare?_of_answers ha
    rw [h.apply_order_of_compare? hc, h.apply_order_of_compare? (Value.compare?_swap_of_some hc)]
    cases o <;> rfl
  ge_eq_le ha := by
    obtain ⟨o, hc⟩ := h.exists_compare?_of_answers ha
    rw [h.apply_order_of_compare? hc, h.apply_order_of_compare? (Value.compare?_swap_of_some hc)]
    cases o <;> rfl
  lt_trans hab hbc := by
    rw [holds_lt_iff] at hab hbc ⊢
    exact Value.compare?_trans hab hbc

end Heap

end Scriptlet
