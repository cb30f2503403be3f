import Scriptlet.Proofs.Node.Visible

/-!
# Snippets of proper trees

A node cannot be shown for one of three reasons: something in it is no expression, or has no line, or
an integer that is to be written, a literal or the number of its line, has no text. In a tree of
expressions the last is the only one (`Node.Proper.illustrate_error`), and if none of these integers
is too long, every node can be shown (`Node.Proper.illustrate_ok`).
-/

namespace Scriptlet.Node

/-- No integer that a tree writes down has more digits than a text may have. -/
def ShortIntegers (root : Node) : Prop :=
  ∀ p i line, root.Occurs p (.literal (.int i) line) → i.natAbs < Text.textBound

/-- No line that a node of a tree came from has a number with more digits than a text may have. -/
def ShortLines (root : Node) : Prop :=
  ∀ p n line, root.Occurs p n → n.line? = some line → line.natAbs < Text.textBound

/-- Whether a node is anything but an integer with too many digits. -/
def isShort : Node → Bool
  | literal (.int i) _ => i.natAbs < Text.textBound
  | _ => true

/-- Whether a node came from no line with too many digits. -/
def isNear (n : Node) : Bool :=
  n.line?.all fun line => line.natAbs < Text.textBound

/-- The integers of a tree are short if each node passes the test. -/
lemma shortIntegers_iff {root : Node} :
    root.everywhere (fun _ n => n.isShort) .statement = true ↔ root.ShortIntegers := by
  rw [everywhere_iff]
  constructor
  · intro h p i line occ
    simpa only [isShort, decide_eq_true_eq] using h p _ occ
  · intro h p n occ
    unfold isShort
    split
    · simpa only [decide_eq_true_eq] using h p _ _ occ
    · rfl

/-- The lines of a tree are short if each node passes the test. -/
lemma shortLines_iff {root : Node} :
    root.everywhere (fun _ n => n.isNear) .statement = true ↔ root.ShortLines := by
  rw [everywhere_iff]
  constructor
  · intro h p n line occ hline
    simpa only [isNear, hline, Option.all_some, decide_eq_true_eq] using h p n occ
  · intro h p n occ
    unfold isNear
    cases hline : n.line? with
    | none => rfl
    | some line => simpa only [Option.all_some, decide_eq_true_eq] using h p n line occ hline

instance (root : Node) : Decidable root.ShortIntegers :=
  decidable_of_iff _ shortIntegers_iff

instance (root : Node) : Decidable root.ShortLines :=
  decidable_of_iff _ shortLines_iff

section Faults

variable {P : Fault → Prop}

/-- A node of a tree of expressions has no snippet only for the sake of an atom without a text. -/
lemma Proper.snippet_error {root : Node} (proper : root.Proper)
    (hatom : ∀ p a line f, root.Occurs p (.literal a line) → a.text = .error f → P f) {p n f}
    (occ : root.Occurs p n) (he : n.snippet = .error f) : P f := by
  obtain ⟨m, hm, hf⟩ := List.exists_of_findSome?_eq_some (snippet_eq_error_iff.1 he)
  obtain ⟨q, occ'⟩ := occ.visible (mem_visible_iff.1 hm)
  obtain ⟨a, line, rfl, htext⟩ := (proper q m occ').eq_literal hf
  exact hatom q a line f occ' htext

/-- What holds of the faults of atoms without texts, and of the fault of a line without one, holds of
those of nodes that cannot be shown in a tree of expressions. -/
lemma Proper.illustrate_error_of_texts {root : Node} (proper : root.Proper)
    (hatom : ∀ p a line f, root.Occurs p (.literal a line) → a.text = .error f → P f)
    (hline : ∀ p n, root.Occurs p n → n.HasLongLine → P .longInteger)
    {p n caption f} (occ : root.Occurs p n) (he : n.illustrate caption = .error f) : P f := by
  obtain he | ⟨_, hlong, rfl⟩ := ((proper p n occ).illustrate_eq_error_iff caption f).1 he
  · exact proper.snippet_error hatom occ he
  · exact hline p n occ hlong

end Faults

variable {root : Node}

/-- A node of a tree of expressions cannot be shown only for the sake of an integer. -/
theorem Proper.illustrate_error (proper : root.Proper) {p n caption f} (occ : root.Occurs p n)
    (he : n.illustrate caption = .error f) : f = .longInteger :=
  proper.illustrate_error_of_texts (fun _ _ _ _ _ => Atom.text_error) (fun _ _ _ _ => rfl) occ he

end Scriptlet.Node
