import Mathlib.Data.List.Forall2
import Scriptlet.Proofs.Correspondence

/-!
# Trees without lines

Two trees that are the same but for lines become equal when all lines are struck from them. Such
trees match (`Node.matches_of_unlined`): they are of one kind, with the same data, and their parts
are again the same but for lines.
-/

namespace Scriptlet.Node

mutual

/-- A tree with all lines struck. -/
def unlined : Node → Node
  | block body _ => .block (unlinedAll body) 0
  | literal value _ => .literal value 0
  | call callee args _ => .call callee.unlined (unlinedAll args) 0
  | var name _ => .var name 0
  | assign name value declares _ => .assign name value.unlined declares 0
  | function name params body _ => .function name params body.unlined 0
  | ret value _ => .ret value.unlined 0
  | cond test yes no _ => .cond test.unlined yes.unlined no.unlined 0
  | object fields _ => .object (unlinedFields fields) 0
  | field receiver name _ => .field receiver.unlined name 0
  | setField receiver name value _ => .setField receiver.unlined name value.unlined 0
  | method receiver name args _ => .method receiver.unlined name (unlinedAll args) 0
  | script body => .script body.unlined
  | absent => .absent

/-- Trees with all lines struck. -/
def unlinedAll : List Node → List Node
  | [] => []
  | n :: rest => n.unlined :: unlinedAll rest

/-- Initializers with all lines struck. -/
def unlinedFields : List (String × Node) → List (String × Node)
  | [] => []
  | (name, n) :: rest => (name, n.unlined) :: unlinedFields rest

end

/-- Rows of nodes that are the same without lines are so node by node. -/
lemma forall₂_of_unlinedAll {ns ns' : List Node} (h : unlinedAll ns = unlinedAll ns') :
    List.Forall₂ (fun n n' => n.unlined = n'.unlined) ns ns' := by
  induction ns generalizing ns' with
  | nil =>
    cases ns' with
    | nil => exact .nil
    | cons => cases h
  | cons n rest ih =>
    cases ns' with
    | nil => cases h
    | cons n' rest' =>
      rw [unlinedAll, unlinedAll] at h
      obtain ⟨hn, hrest⟩ := List.cons.inj h
      exact .cons hn (ih hrest)

/-- Initializers that are the same without lines are so one by one. -/
lemma forall₂_of_unlinedFields {fields fields' : List (String × Node)}
    (h : unlinedFields fields = unlinedFields fields') :
    List.Forall₂ (fun f f' => f.1 = f'.1 ∧ f.2.unlined = f'.2.unlined) fields fields' := by
  induction fields generalizing fields' with
  | nil =>
    cases fields' with
    | nil => exact .nil
    | cons => cases h
  | cons f rest ih =>
    cases fields' with
    | nil => cases h
    | cons f' rest' =>
      rw [unlinedFields, unlinedFields] at h
      obtain ⟨hf, hrest⟩ := List.cons.inj h
      exact .cons (Prod.mk.inj hf) (ih hrest)

/-- A node keeps its kind without its line. -/
lemma kind_unlined (n : Node) : n.unlined.kind = n.kind := by
  cases n <;> rfl

/-- Trees that are the same but for lines match. -/
theorem matches_of_unlined {n n' : Node} (h : n.unlined = n'.unlined) :
    n.Matches (fun n n' => n.unlined = n'.unlined) n' := by
  have hkind : n.kind = n'.kind := n.kind_unlined ▸ n'.kind_unlined ▸ congrArg kind h
  -- two nodes of one kind with the same data, and with equal parts once lines are struck
  cases n <;> cases n' <;> cases hkind
  all_goals
    simp only [unlined, block.injEq, literal.injEq, call.injEq, var.injEq, assign.injEq,
      function.injEq, ret.injEq, cond.injEq, object.injEq, field.injEq, setField.injEq,
      method.injEq, and_true] at h
  case block => exact .block (forall₂_of_unlinedAll h)
  case literal =>
    obtain rfl := h
    exact .literal
  case call =>
    obtain ⟨hcallee, hargs⟩ := h
    exact .call hcallee (forall₂_of_unlinedAll hargs)
  case var =>
    obtain rfl := h
    exact .var
  case assign =>
    obtain ⟨rfl, hvalue, rfl⟩ := h
    exact .assign hvalue
  case function =>
    obtain ⟨rfl, rfl, hbody⟩ := h
    exact .function hbody
  case ret => exact .ret h
  case cond =>
    obtain ⟨htest, hyes, hno⟩ := h
    exact .cond htest hyes hno
  case object => exact .object (forall₂_of_unlinedFields h)
  case field =>
    obtain ⟨hreceiver, rfl⟩ := h
    exact .field hreceiver
  case setField =>
    obtain ⟨hreceiver, rfl, hvalue⟩ := h
    exact .setField hreceiver hvalue
  case method =>
    obtain ⟨hreceiver, rfl, hargs⟩ := h
    exact .method hreceiver (forall₂_of_unlinedAll hargs)
  case script => exact .script
  case absent => exact .absent

end Scriptlet.Node
