import Scriptlet.Proofs.Eval.Operations

/-!
# Truncating division

The quotient of two integers rounds toward zero, and the remainder is what is left of the dividend. A
quotient and a remainder are the right ones exactly when they restore the dividend, the remainder is
smaller than the divisor, and it does not point away from the dividend
(`Arithmetic.Truncates.unique`). All laws about signs follow from that, since turning a sign around in
the operands turns signs around in quotient and remainder (`Heap.division_truncates`).
-/

namespace Scriptlet

namespace Arithmetic

/-- A quotient and a remainder where the remainder takes after the dividend. -/
structure Truncates (a b q r : Int) : Prop where
  restores : a = b * q + r
  smaller : r.natAbs < b.natAbs
  sign : r = 0 ∨ r.sign = a.sign

namespace Truncates

variable {a b q r q' r' : Int}

/-- The remainder lies on the same side of zero as the dividend. -/
lemma same_side (h : Truncates a b q r) : (0 ≤ a → 0 ≤ r) ∧ (a ≤ 0 → r ≤ 0) := by
  obtain rfl | hsign := h.sign
  · exact ⟨fun _ => Int.le_refl 0, fun _ => Int.le_refl 0⟩
  · constructor
    · intro ha
      exact Int.sign_nonneg_iff.1 (hsign ▸ Int.sign_nonneg_iff.2 ha)
    · intro ha
      exact Int.sign_nonpos_iff.1 (hsign ▸ Int.sign_nonpos_iff.2 ha)

/-- There is one quotient and one remainder at most. -/
theorem unique (h : Truncates a b q r) (h' : Truncates a b q' r') : q' = q ∧ r' = r := by
  obtain ⟨hpos, hneg⟩ := h.same_side
  obtain ⟨hpos', hneg'⟩ := h'.same_side
  have hsmaller := h.smaller
  have hsmaller' := h'.smaller
  have hdiff : b * (q - q') = r' - r := by
    have hsame : b * q + r = b * q' + r' := h.restores.symm.trans h'.restores
    rw [Int.mul_sub]
    omega
  -- both remainders are on one side, so their difference is no greater than either
  have hlt : (b * (q - q')).natAbs < b.natAbs * 1 := by
    rw [hdiff]
    omega
  rw [Int.natAbs_mul] at hlt
  have hzero : (q - q').natAbs < 1 := Nat.lt_of_mul_lt_mul_left hlt
  obtain rfl : q' = q := by omega
  rw [Int.sub_self, Int.mul_zero] at hdiff
  exact ⟨rfl, by omega⟩

/-- With the dividend the quotient and the remainder change their signs. -/
lemma neg_dividend (h : Truncates a b q r) : Truncates (-a) b (-q) (-r) where
  restores := by
    rw [h.restores, Int.mul_neg, Int.neg_add]
  smaller := by
    rw [Int.natAbs_neg]
    exact h.smaller
  sign := by
    rw [Int.sign_neg, Int.sign_neg]
    exact h.sign.imp (fun hr => by rw [hr, Int.neg_zero]) (congrArg Neg.neg)

/-- With the divisor only the quotient changes its sign. -/
lemma neg_divisor (h : Truncates a b q r) : Truncates a (-b) (-q) r where
  restores := by
    rw [Int.neg_mul_neg]
    exact h.restores
  smaller := by
    rw [Int.natAbs_neg]
    exact h.smaller
  sign := h.sign

end Truncates

/-- To divide absolute values and then to set the sign is to round toward zero. -/
lemma quotient_eq_tdiv (a b : Int) : quotient a b = a.tdiv b := by
  have hpos : ∀ i : Int, ¬ i < 0 → (i.natAbs : Int) = i := by omega
  have hneg : ∀ i : Int, i < 0 → (i.natAbs : Int) = -i := by omega
  rw [quotient, Int.ofNat_tdiv]
  by_cases ha : a < 0
  · by_cases hb : b < 0
    · rw [if_pos (iff_of_true ha hb), hneg a ha, hneg b hb, Int.neg_tdiv, Int.tdiv_neg, Int.neg_neg]
    · rw [if_neg fun h => hb (h.1 ha), hneg a ha, hpos b hb, Int.neg_tdiv, Int.neg_neg]
  · by_cases hb : b < 0
    · rw [if_neg fun h => ha (h.2 hb), hpos a ha, hneg b hb, Int.tdiv_neg, Int.neg_neg]
    · rw [if_pos (iff_of_false ha hb), hpos a ha, hpos b hb]

/-- The remainder is the one that rounding toward zero leaves. -/
lemma remainder_eq_tmod (a b : Int) : remainder a b = a.tmod b := by
  rw [remainder, quotient_eq_tdiv, Int.tmod_def]

/-- Division by anything but zero has the quotient and the remainder that it should have. -/
lemma truncates_quotient_remainder (a : Int) {b : Int} (hb : b ≠ 0) :
    Truncates a b (quotient a b) (remainder a b) where
  restores := by
    rw [remainder]
    omega
  smaller := by
    rw [remainder_eq_tmod, Int.natAbs_tmod]
    exact Nat.mod_lt _ (Int.natAbs_pos.2 hb)
  sign := by
    rw [remainder_eq_tmod]
    obtain ha | rfl | ha := Int.lt_trichotomy a 0
    · have hr : 0 ≤ (-a).tmod b := Int.tmod_nonneg b (by omega)
      rw [Int.neg_tmod] at hr
      obtain hr | hr := Int.lt_or_eq_of_le hr
      · right
        rw [Int.sign_eq_neg_one_of_neg ha, Int.sign_eq_neg_one_of_neg (by omega)]
      · left
        omega
    · exact .inl (Int.zero_tmod b)
    · have hr : 0 ≤ a.tmod b := Int.tmod_nonneg b (by omega)
      obtain hr | hr := Int.lt_or_eq_of_le hr
      · right
        rw [Int.sign_eq_one_of_pos ha, Int.sign_eq_one_of_pos hr]
      · exact .inl hr.symm

end Arithmetic

namespace Heap

variable (h : Heap)

/-- Whether `/` and `%` answer with a quotient and a remainder. -/
structure Divides (a b q r : Int) : Prop where
  quotient : h.apply (.arithmetic .div) (.int a) (.int b) = .ok (.int q)
  remainder : h.apply (.arithmetic .mod) (.int a) (.int b) = .ok (.int r)

/-- Arithmetic on integers answers what it computes. -/
lemma apply_int_of_ok {op : Arithmetic} {a b c : Int} (hc : op.compute a b = .ok c) :
    h.apply (.arithmetic op) (.int a) (.int b) = .ok (.int c) := by
  show (do let c ← op.compute a b; return .int c : Except Fault Value) = _
  rw [hc]
  rfl

/-- An operation of arithmetic that fails for two integers does so as an operator. -/
lemma apply_int_of_error {op : Arithmetic} {a b : Int} {f} (hf : op.compute a b = .error f) :
    h.apply (.arithmetic op) (.int a) (.int b) = .error f := by
  show (do let c ← op.compute a b; return .int c : Except Fault Value) = _
  rw [hf]
  rfl

/-- An operand that is no integer is shown, whatever the other one is. -/
lemma apply_of_not_integer {x : Atom} (hx : x.shape ≠ .int) :
    ∃ shown, x.quoted = .ok shown ∧ ∀ op,
      (∀ w, h.apply (.arithmetic op) (.atom x) w = .error (.notInteger shown)) ∧
        ∀ a, h.apply (.arithmetic op) (.int a) (.atom x) = .error (.notInteger shown) := by
  cases x with
  | int i => exact absurd rfl hx
  | str | bool | null | undefined => exact ⟨_, rfl, fun op => ⟨fun _ => rfl, fun _ => rfl⟩⟩

/-- The operators of quotient and remainder divide by whatever is not zero. -/
lemma divides_quotient_remainder (a : Int) {b : Int} (hb : b ≠ 0) :
    h.Divides a b (Arithmetic.quotient a b) (Arithmetic.remainder a b) where
  quotient := h.apply_int_of_ok (if_neg hb)
  remainder := h.apply_int_of_ok (if_neg hb)

variable {h} in
/-- Division answers with a quotient and a remainder that are right. -/
lemma Divides.of_truncates {a b q r : Int} (ht : Arithmetic.Truncates a b q r) :
    h.Divides a b q r := by
  have hb : b ≠ 0 := by
    rintro rfl
    exact Nat.not_lt_zero _ ht.smaller
  obtain ⟨rfl, rfl⟩ := (Arithmetic.truncates_quotient_remainder a hb).unique ht
  exact h.divides_quotient_remainder a hb

/-- Division of integers truncates, and what is no integer is told before the divisor is looked at.
The quotient and the remainder restore the dividend, the remainder is smaller than the divisor and has
the sign of the dividend, and no others do; the quotient is the one of the absolute values, up to its
sign. A sign turned around in an operand turns the quotient around, and in the dividend the remainder
too. There is no division by zero. -/
theorem division_truncates (a b : Int) :
    (b ≠ 0 → ∃ q r, h.Divides a b q r ∧ Arithmetic.Truncates a b q r ∧
      q.natAbs = a.natAbs / b.natAbs ∧
      (∀ q' r', Arithmetic.Truncates a b q' r' → q' = q ∧ r' = r) ∧
      h.Divides (-a) b (-q) (-r) ∧ h.Divides a (-b) (-q) r) ∧
    (∀ op ∈ [Arithmetic.div, .mod],
      h.apply (.arithmetic op) (.int a) (.int 0) = .error .zeroDivisor) ∧
    ∀ x : Atom, x.shape ≠ .int → ∃ shown, x.quoted = .ok shown ∧
      ∀ op ∈ [Arithmetic.div, .mod],
        (∀ w, h.apply (.arithmetic op) (.atom x) w = .error (.notInteger shown)) ∧
          h.apply (.arithmetic op) (.int a) (.atom x) = .error (.notInteger shown) := by
  refine ⟨fun hb => ?_, ?_, fun x hx => ?_⟩
  · have ht := Arithmetic.truncates_quotient_remainder a hb
    have habs : (Arithmetic.quotient a b).natAbs = a.natAbs / b.natAbs :=
      (congrArg Int.natAbs (Arithmetic.quotient_eq_tdiv a b)).trans (Int.natAbs_tdiv a b)
    exact ⟨_, _, .of_truncates ht, ht, habs, fun _ _ => ht.unique,
      .of_truncates ht.neg_dividend, .of_truncates ht.neg_divisor⟩
  · refine List.forall_mem_cons.2 ⟨?_, List.forall_mem_singleton.2 ?_⟩
    · exact h.apply_int_of_error rfl
    · exact h.apply_int_of_error rfl
  · obtain ⟨shown, hshown, hops⟩ := h.apply_of_not_integer hx
    exact ⟨shown, hshown, fun op _ => (hops op).imp_right fun hright => hright a⟩

/-- A dividend of many digits below zero, by a divisor of a few, on either side of zero; then by zero,
and with a string and a truth value for operands. -/
theorem division_truncates_longDividend :
    (9973 : Int) ≠ 0 ∧
      empty.Divides (-10000000000000000000000000000000000000007) 9973
        (-1002707309736287977539356261907149303) (-1188) ∧
      empty.Divides (-10000000000000000000000000000000000000007) (-9973)
        1002707309736287977539356261907149303 (-1188) ∧
      empty.apply (.arithmetic .mod) (.int (-10000000000000000000000000000000000000007)) (.int 0) =
        .error .zeroDivisor ∧
      Atom.shape (.str "it's") ≠ .int ∧
      empty.apply (.arithmetic .div) (.str "it's") (.int 0) = .error (.notInteger "\"it's\"") ∧
      Atom.shape (.bool false) ≠ .int ∧
      empty.apply (.arithmetic .mod) (.int (-10000000000000000000000000000000000000007))
        (.atom (.bool false)) = .error (.notInteger "False") := by
  have hb : (9973 : Int) ≠ 0 := by decide
  have hstr : Atom.shape (.str "it's") ≠ .int := by decide
  have hbool : Atom.shape (.bool false) ≠ .int := by decide
  obtain ⟨hdivides, hzero, hshown⟩ :=
    empty.division_truncates (-10000000000000000000000000000000000000007) 9973
  obtain ⟨q, r, hqr, _, _, hunique, _, hdivisor⟩ := hdivides hb
  obtain ⟨rfl, rfl⟩ :=
    hunique (-1002707309736287977539356261907149303) (-1188) ⟨by decide, by decide, by decide⟩
  obtain ⟨shown, htext, hleft⟩ := hshown (.str "it's") hstr
  obtain ⟨shown', htext', hright⟩ := hshown (.bool false) hbool
  obtain rfl : shown = "\"it's\"" := by
    have hquoted : Text.quoted "it's" = "\"it's\"" := by decide +kernel
    exact (Except.ok.inj htext).symm.trans hquoted
  obtain rfl : "False" = shown' := Except.ok.inj htext'
  exact ⟨hb, hqr, hdivisor, hzero .mod (by decide), hstr, (hleft .div (by decide)).1 _, hbool,
    (hright .mod (by decide)).2⟩

end Heap

end Scriptlet
