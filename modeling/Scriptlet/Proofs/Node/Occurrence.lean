import Mathlib.Tactic.Lemma
import Scriptlet.Node

/-!
# Occurrences of nodes

A node occurs in a script at a position: as a statement, whose value may be the signal of a `return`
on its way up, or as an operand, whose value is put to use. The root is a statement, and so is the
body of every function; instructions and branches take over the position of the block or the choice
that they belong to; all other parts are operands (`Node.parts`).

Main definitions and statements:
* `Node.Occurs`: the occurrences in a script, the root first and then parts of parts.
* `Node.ReturnProper`: every `return` is a statement. `Node.Proper`: every node is an expression.
* `Node.everywhere_iff`: a test at all occurrences can be computed, so both are decidable.
-/

namespace Scriptlet.Node

/-- Where a node stands. -/
inductive Position where
  | statement
  | operand
  deriving DecidableEq

/-- The nodes right inside a node at a position, each at its own. -/
def parts (p : Position) : Node → List (Position × Node)
  | block body _ => body.map fun n => (p, n)
  | literal .. => []
  | call callee args _ => (.operand, callee) :: args.map fun n => (.operand, n)
  | var .. => []
  | assign _ value _ _ => [(.operand, value)]
  | function _ _ body _ => [(.statement, body)]
  | ret value _ => [(.operand, value)]
  | cond test yes no _ => [(.operand, test), (p, yes), (p, no)]
  | object fields _ => fields.map fun field => (.operand, field.2)
  | field receiver _ _ => [(.operand, receiver)]
  | setField receiver _ value _ => [(.operand, receiver), (.operand, value)]
  | method receiver _ args _ => (.operand, receiver) :: args.map fun n => (.operand, n)
  | script body => [(.operand, body)]
  | absent => []

/-- The occurrences of nodes in a tree, by position. -/
inductive Occurs (root : Node) : Position → Node → Prop where
  | root : Occurs root .statement root
  | part {p n q m} :
    Occurs root p n →
    (q, m) ∈ n.parts p →
    Occurs root q m

/-- Whether a node is one of the twelve kinds of expression. -/
def IsExpression (n : Node) : Prop :=
  n.kind ≠ .script ∧ n.kind ≠ .absent

/-- No `return` is an operand or inside one, except in the body of a function. -/
def ReturnProper (root : Node) : Prop :=
  ∀ p n, Occurs root p n → n.kind = .ret → p = .statement

/-- Nothing but expressions stands where a node is expected. -/
def Proper (root : Node) : Prop :=
  ∀ p n, Occurs root p n → n.IsExpression

instance (n : Node) : Decidable n.IsExpression :=
  inferInstanceAs (Decidable (_ ∧ _))

mutual

/-- Whether a test holds of a node at a position and of all nodes inside it. -/
def everywhere (test : Position → Node → Bool) (p : Position) : Node → Bool
  | block body line => test p (.block body line) && allEverywhere test p body
  | literal value line => test p (.literal value line)
  | call callee args line =>
    test p (.call callee args line) && callee.everywhere test .operand
      && allEverywhere test .operand args
  | var name line => test p (.var name line)
  | assign name value declares line =>
    test p (.assign name value declares line) && value.everywhere test .operand
  | function name params body line =>
    test p (.function name params body line) && body.everywhere test .statement
  | ret value line => test p (.ret value line) && value.everywhere test .operand
  | cond condition yes no line =>
    test p (.cond condition yes no line) && condition.everywhere test .operand
      && yes.everywhere test p && no.everywhere test p
  | object fields line => test p (.object fields line) && fieldsEverywhere test fields
  | field receiver name line =>
    test p (.field receiver name line) && receiver.everywhere test .operand
  | setField receiver name value line =>
    test p (.setField receiver name value line) && receiver.everywhere test .operand
      && value.everywhere test .operand
  | method receiver name args line =>
    test p (.method receiver name args line) && receiver.everywhere test .operand
      && allEverywhere test .operand args
  | script body => test p (.script body) && body.everywhere test .operand
  | absent => test p .absent

/-- Whether a test holds of nodes at a position and of all nodes inside them. -/
def allEverywhere (test : Position → Node → Bool) (p : Position) : List Node → Bool
  | [] => true
  | n :: rest => n.everywhere test p && allEverywhere test p rest

/-- Whether a test holds of initializers and of all nodes inside them. -/
def fieldsEverywhere (test : Position → Node → Bool) : List (String × Node) → Bool
  | [] => true
  | (_, n) :: rest => n.everywhere test .operand && fieldsEverywhere test rest

end

/-- Nodes pass a test throughout when each of them does. -/
lemma allEverywhere_iff {test : Position → Node → Bool} {p} {ns : List Node} :
    allEverywhere test p ns = true ↔ ∀ n ∈ ns, n.everywhere test p = true := by
  induction ns with
  | nil => simp [allEverywhere]
  | cons n rest ih => simp [allEverywhere, ih]

/-- Initializers pass a test throughout when each of them does. -/
lemma fieldsEverywhere_iff {test : Position → Node → Bool} {fields : List (String × Node)} :
    fieldsEverywhere test fields = true ↔
      ∀ field ∈ fields, field.2.everywhere test .operand = true := by
  induction fields with
  | nil => simp [fieldsEverywhere]
  | cons field rest ih => simp [fieldsEverywhere, ih]

/-- A node passes a test throughout when it passes itself and all its parts do throughout. -/
lemma everywhere_iff_parts {test : Position → Node → Bool} {p} {n : Node} :
    n.everywhere test p = true ↔
      test p n = true ∧ ∀ o ∈ n.parts p, o.2.everywhere test o.1 = true := by
  cases n with
  | object fields line =>
    simp only [everywhere, parts, fieldsEverywhere_iff, Bool.and_eq_true, List.forall_mem_map]
  | _ => simp [everywhere, parts, allEverywhere_iff, and_assoc]

/-- The parts of a node are smaller than the node. -/
lemma sizeOf_lt_of_mem_parts {p} {n : Node} {o} (ho : o ∈ n.parts p) : sizeOf o.2 < sizeOf n := by
  cases n with
  | block body line =>
    obtain ⟨n, hn, rfl⟩ := List.mem_map.1 ho
    have h := List.sizeOf_lt_of_mem hn
    simp only [block.sizeOf_spec]
    omega
  | object fields line =>
    obtain ⟨⟨name, n⟩, hf, rfl⟩ := List.mem_map.1 ho
    have h := List.sizeOf_lt_of_mem hf
    simp only [Prod.mk.sizeOf_spec, object.sizeOf_spec] at h ⊢
    omega
  | call callee args line =>
    obtain rfl | ⟨n, hn, rfl⟩ := by simpa only [parts, List.mem_cons, List.mem_map] using ho
    · simp only [call.sizeOf_spec]
      omega
    · have h := List.sizeOf_lt_of_mem hn
      simp only [call.sizeOf_spec]
      omega
  | method receiver name args line =>
    obtain rfl | ⟨n, hn, rfl⟩ := by simpa only [parts, List.mem_cons, List.mem_map] using ho
    · simp only [method.sizeOf_spec]
      omega
    · have h := List.sizeOf_lt_of_mem hn
      simp only [method.sizeOf_spec]
      omega
  | cond test yes no line =>
    obtain rfl | rfl | rfl := by simpa [parts] using ho
    all_goals simp only [cond.sizeOf_spec]; omega
  | setField receiver name value line =>
    obtain rfl | rfl := by simpa [parts] using ho
    all_goals simp only [setField.sizeOf_spec]; omega
  | literal | var | absent => simp [parts] at ho
  | assign | function | ret | field | script =>
    obtain rfl := by simpa [parts] using ho
    simp +arith

/-- What a test says of all nodes inside a node it says of each occurrence. -/
lemma Occurs.everywhere {test : Position → Node → Bool} {root p n} (occ : Occurs root p n)
    (h : root.everywhere test .statement = true) : n.everywhere test p = true := by
  induction occ with
  | root => exact h
  | part _ hm ih => exact (everywhere_iff_parts.1 ih).2 _ hm

/-- A test that holds of each occurrence holds throughout each. -/
lemma everywhere_of_occurs {test : Position → Node → Bool} {root}
    (h : ∀ p n, Occurs root p n → test p n = true) (n : Node) (p) (occ : Occurs root p n) :
    n.everywhere test p = true :=
  -- by size of the node, for what occurs in a part of it occurs in the tree
  everywhere_iff_parts.2
    ⟨h p n occ, fun o ho => everywhere_of_occurs h o.2 o.1 (occ.part ho)⟩
termination_by sizeOf n
decreasing_by exact sizeOf_lt_of_mem_parts ho

/-- A test holds throughout a tree exactly when it holds of each occurrence. -/
lemma everywhere_iff {test : Position → Node → Bool} {root : Node} :
    root.everywhere test .statement = true ↔ ∀ p n, Occurs root p n → test p n = true := by
  constructor
  · intro h p n occ
    exact (everywhere_iff_parts.1 (occ.everywhere h)).1
  · intro h
    exact everywhere_of_occurs h root .statement .root

instance (root : Node) : Decidable root.ReturnProper :=
  decidable_of_iff (root.everywhere (fun p n => n.kind = .ret → p = .statement) .statement = true)
    (by simp only [everywhere_iff, decide_eq_true_eq, ReturnProper])

instance (root : Node) : Decidable root.Proper :=
  decidable_of_iff (root.everywhere (fun _ n => n.IsExpression) .statement = true)
    (by simp only [everywhere_iff, decide_eq_true_eq, Proper])

end Scriptlet.Node
