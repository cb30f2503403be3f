import Scriptlet.Node.Snippet
import Scriptlet.Proofs.Eval.Operations
import Scriptlet.Proofs.Node.Occurrence

/-!
# What a snippet shows

A snippet goes through the parts of a node in the order of its text, and leaves out the bodies of
functions and the branches of choices. What it goes through is visible (`Node.Visible`, in order
`Node.visible`). It fails at the first visible node that has no text (`Node.of?_snippet`), and
otherwise its text tells nothing of what is not visible, nor of lines (`Node.snippet_skeleton`). A
listing also writes the number of the node's line, which may have too many digits
(`Node.HasLongLine`).
-/

namespace Scriptlet

/-- The fault that a computation comes to, if it does. -/
def Fault.of? {α : Type} : Except Fault α → Option Fault
  | .ok _ => none
  | .error f => some f

namespace Fault

variable {α β γ : Type}

/-- The fault of a computation is the one that it ends in. -/
lemma of?_eq_some_iff {x : Except Fault α} {f : Fault} : of? x = some f ↔ x = .error f := by
  cases x <;> simp [of?]

/-- A computation without a fault ends in a value. -/
lemma of?_eq_none_iff {x : Except Fault α} : of? x = none ↔ ∃ a, x = .ok a := by
  cases x <;> simp [of?]

/-- What is made of the value of a computation comes to no other fault. -/
lemma of?_bind_return (x : Except Fault α) (g : α → β) :
    of? (do let a ← x; return g a) = of? x := by
  cases x <;> rfl

/-- Of two computations in a row the first one to come to a fault decides. -/
lemma of?_bind_bind_return (x : Except Fault α) (y : Except Fault β) (g : α → β → γ) :
    of? (do let a ← x; let b ← y; return g a b) = (of? x).or (of? y) := by
  cases x with
  | ok a => exact of?_bind_return y (g a)
  | error f => rfl

end Fault

namespace Node

/-- The parts of a node, but for the body of a function and the branches of a choice. -/
def shown : Node → List Node
  | function .. => []
  | cond test _ _ _ => [test]
  | n => (n.parts .statement).map Prod.snd

/-- The nodes that are reached from a root without a step into the body of a function or into a branch
of a choice. -/
inductive Visible (root : Node) : Node → Prop where
  | root : Visible root root
  | part {n m} :
    Visible root n →
    m ∈ n.shown →
    Visible root m

mutual

/-- The visible nodes of a tree in the order of its text, each before what is visible in it. -/
def visible : Node → List Node
  | block body line => .block body line :: visibleAll body
  | literal value line => [.literal value line]
  | call callee args line => .call callee args line :: (callee.visible ++ visibleAll args)
  | var name line => [.var name line]
  | assign name value declares line => .assign name value declares line :: value.visible
  | function name params body line => [.function name params body line]
  | ret value line => .ret value line :: value.visible
  | cond test yes no line => .cond test yes no line :: test.visible
  | object fields line => .object fields line :: visibleFields fields
  | field receiver name line => .field receiver name line :: receiver.visible
  | setField receiver name value line =>
    .setField receiver name value line :: (receiver.visible ++ value.visible)
  | method receiver name args line =>
    .method receiver name args line :: (receiver.visible ++ visibleAll args)
  | script body => .script body :: body.visible
  | absent => [.absent]

/-- The visible nodes of several trees. -/
def visibleAll : List Node → List Node
  | [] => []
  | n :: rest => n.visible ++ visibleAll rest

/-- The visible nodes of initializers. -/
def visibleFields : List (String × Node) → List Node
  | [] => []
  | (_, n) :: rest => n.visible ++ visibleFields rest

end

/-- Why a node has no text of its own: it is no expression, or an integer with too many digits. -/
def blemish? : Node → Option Fault
  | script _ => some (.noSnippet .script)
  | absent => some (.noSnippet .absent)
  | literal (.int i) _ =>
    if Text.digitLimit < (Text.digits i.natAbs).length then some .longInteger else none
  | _ => none

/-- The number of the line that a node came from has too many digits. -/
def HasLongLine (n : Node) : Prop :=
  ∃ line, n.line? = some line ∧ Text.digitLimit < (Text.digits line.natAbs).length

mutual

/-- A tree of what is visible alone: no lines, no bodies of functions and no branches. -/
def skeleton : Node → Node
  | block body _ => .block (skeletons body) 0
  | literal value _ => .literal value 0
  | call callee args _ => .call callee.skeleton (skeletons args) 0
  | var name _ => .var name 0
  | assign name value declares _ => .assign name value.skeleton declares 0
  | function name params _ _ => .function name params .absent 0
  | ret value _ => .ret value.skeleton 0
  | cond test _ _ _ => .cond test.skeleton .absent .absent 0
  | object fields _ => .object (fieldSkeletons fields) 0
  | field receiver name _ => .field receiver.skeleton name 0
  | setField receiver name value _ => .setField receiver.skeleton name value.skeleton 0
  | method receiver name args _ => .method receiver.skeleton name (skeletons args) 0
  | script body => .script body.skeleton
  | absent => .absent

/-- The trees of what is visible in several trees. -/
def skeletons : List Node → List Node
  | [] => []
  | n :: rest => n.skeleton :: skeletons rest

/-- The trees of what is visible in initializers, each with its name. -/
def fieldSkeletons : List (String × Node) → List (String × Node)
  | [] => []
  | (name, n) :: rest => (name, n.skeleton) :: fieldSkeletons rest

end

/-- The visible nodes of several trees are those of each, in a row. -/
lemma visibleAll_eq_flatMap (ns : List Node) : visibleAll ns = ns.flatMap visible := by
  induction ns with
  | nil => rfl
  | cons n rest ih => rw [visibleAll, List.flatMap_cons, ih]

/-- The visible nodes of initializers are those of each, in a row. -/
lemma visibleFields_eq_flatMap (fields : List (String × Node)) :
    visibleFields fields = (fields.map Prod.snd).flatMap visible := by
  induction fields with
  | nil => rfl
  | cons field rest ih => rw [visibleFields, List.map_cons, List.flatMap_cons, ih]

/-- A node is visible in itself, and then what is visible in the parts that are shown. -/
lemma visible_eq (n : Node) : n.visible = n :: n.shown.flatMap visible := by
  cases n <;>
    simp [visible, shown, parts, visibleAll_eq_flatMap, visibleFields_eq_flatMap, Function.comp_def]

/-- Which parts a node has does not depend on where it stands. -/
lemma map_snd_parts (n : Node) (p : Position) :
    (n.parts p).map Prod.snd = (n.parts .statement).map Prod.snd := by
  cases n <;> simp [parts, Function.comp_def]

/-- The parts that are shown are parts, wherever the node stands. -/
lemma mem_parts_of_mem_shown {n m : Node} (hm : m ∈ n.shown) (p : Position) :
    ∃ q, (q, m) ∈ n.parts p := by
  have hmem : m ∈ (n.parts p).map Prod.snd := by
    rw [map_snd_parts]
    unfold shown at hm
    split at hm
    · cases hm
    · obtain rfl := List.mem_singleton.1 hm
      exact List.mem_cons_self
    · exact hm
  obtain ⟨⟨q, _⟩, hq, rfl⟩ := List.mem_map.1 hmem
  exact ⟨q, hq⟩

/-- A part that is shown is smaller than the node. -/
lemma sizeOf_lt_of_mem_shown {n m : Node} (hm : m ∈ n.shown) : sizeOf m < sizeOf n := by
  obtain ⟨q, hq⟩ := mem_parts_of_mem_shown hm .statement
  exact sizeOf_lt_of_mem_parts hq

/-- What is visible in a node that occurs in a tree occurs there as well. -/
lemma Occurs.visible {root n m : Node} {p} (occ : root.Occurs p n) (h : n.Visible m) :
    ∃ q, root.Occurs q m := by
  induction h with
  | root => exact ⟨p, occ⟩
  | part _ hm ih =>
    obtain ⟨q, occ⟩ := ih
    obtain ⟨q', hq'⟩ := mem_parts_of_mem_shown hm q
    exact ⟨q', occ.part hq'⟩

/-- What is visible in something visible is visible. -/
lemma Visible.trans {root n m : Node} (h : root.Visible n) (h' : n.Visible m) : root.Visible m := by
  induction h' with
  | root => exact h
  | part _ hm ih => exact ih.part hm

/-- All that is in the row of visible nodes is visible. -/
lemma visible_of_mem_visible (n m : Node) (hm : m ∈ n.visible) : n.Visible m := by
  rw [visible_eq] at hm
  obtain rfl | hm := List.mem_cons.1 hm
  · exact .root
  · obtain ⟨k, hk, hm⟩ := List.mem_flatMap.1 hm
    exact (Visible.root.part hk).trans (visible_of_mem_visible k m hm)
termination_by sizeOf n
decreasing_by exact sizeOf_lt_of_mem_shown hk

/-- The row of visible nodes has the parts that are shown of each node in it. -/
lemma mem_visible_of_shown (root : Node) {n m : Node} (hn : n ∈ root.visible) (hm : m ∈ n.shown) :
    m ∈ root.visible := by
  rw [visible_eq] at hn ⊢
  refine List.mem_cons_of_mem _ (List.mem_flatMap.2 ?_)
  obtain rfl | hn := List.mem_cons.1 hn
  · exact ⟨m, hm, visible_eq m ▸ List.mem_cons_self⟩
  · obtain ⟨k, hk, hn⟩ := List.mem_flatMap.1 hn
    exact ⟨k, hk, mem_visible_of_shown k hn hm⟩
termination_by sizeOf root
decreasing_by exact sizeOf_lt_of_mem_shown hk

/-- All that is visible is in the row of visible nodes, and nothing else. -/
theorem mem_visible_iff {n m : Node} : m ∈ n.visible ↔ n.Visible m := by
  constructor
  · exact visible_of_mem_visible n m
  · intro h
    induction h with
    | root => exact visible_eq n ▸ List.mem_cons_self
    | part _ hm ih => exact mem_visible_of_shown n ih hm

/-- An atom has no text exactly when it is an integer with too many digits. -/
lemma of?_text (value : Atom) (line : Int) :
    Fault.of? value.text = (literal value line).blemish? := by
  cases value with
  | int i =>
    cases h : (Atom.int i).text with
    | ok text =>
      have hshort : ¬Text.digitLimit < (Text.digits i.natAbs).length := by
        intro hlong
        have hnone := Text.decimal?_eq_none_iff_length.2 hlong
        cases h.symm.trans (Atom.text_eq_error_iff.2 ⟨rfl, i, rfl, hnone⟩)
      exact (if_neg hshort).symm
    | error f =>
      obtain ⟨rfl, _, e, hnone⟩ := Atom.text_eq_error_iff.1 h
      cases e
      exact (if_pos (Text.decimal?_eq_none_iff_length.1 hnone)).symm
  | str | bool | null | undefined => rfl

/-- A literal has no snippet exactly if its value has no text. -/
lemma of?_snippet_literal (value : Atom) (line : Int) :
    Fault.of? (literal value line).snippet = (literal value line).blemish? := by
  rw [← of?_text]
  cases value with
  | str | int | bool | null | undefined => rfl

/-- An expression without a text of its own is a literal whose value has none. -/
lemma IsExpression.eq_literal {n : Node} (hn : n.IsExpression) {f} (h : n.blemish? = some f) :
    ∃ value line, n = literal value line ∧ value.text = .error f := by
  cases n with
  | literal value line =>
    exact ⟨value, line, rfl, Fault.of?_eq_some_iff.1 ((of?_text value line).trans h)⟩
  | script => exact absurd rfl hn.1
  | absent => exact absurd rfl hn.2
  | _ => cases h

mutual

/-- A snippet comes to the fault of the first visible node that has one. -/
theorem of?_snippet (n : Node) : Fault.of? n.snippet = n.visible.findSome? blemish? := by
  cases n with
  | literal value line => rw [of?_snippet_literal, visible, List.findSome?_singleton]
  | var | function | script | absent => rfl
  | block body line =>
    cases body with
    | nil => rfl
    | cons first rest =>
      rw [snippet, Fault.of?_bind_return, of?_snippets (first :: rest)]
      rfl
  | call target args line | method target _ args line =>
    rw [snippet, Fault.of?_bind_bind_return, of?_snippet target, of?_snippets args,
      ← List.findSome?_append]
    rfl
  | assign _ part | ret part | cond part | field part =>
    rw [snippet, Fault.of?_bind_return, of?_snippet part]
    rfl
  | setField receiver name value line =>
    rw [snippet, Fault.of?_bind_bind_return, of?_snippet receiver, of?_snippet value,
      ← List.findSome?_append]
    rfl
  | object fields line =>
    rw [snippet, Fault.of?_bind_return, of?_fieldSnippets fields]
    rfl

/-- Snippets of several nodes come to the fault of the first visible node that has one. -/
theorem of?_snippets (ns : List Node) :
    Fault.of? (snippets ns) = (visibleAll ns).findSome? blemish? := by
  cases ns with
  | nil => rfl
  | cons n rest =>
    rw [snippets, Fault.of?_bind_bind_return, of?_snippet n, of?_snippets rest,
      ← List.findSome?_append]
    rfl

/-- Snippets of initializers come to the fault of the first visible node that has one. -/
theorem of?_fieldSnippets (fields : List (String × Node)) :
    Fault.of? (fieldSnippets fields) = (visibleFields fields).findSome? blemish? := by
  cases fields with
  | nil => rfl
  | cons field rest =>
    obtain ⟨name, n⟩ := field
    rw [fieldSnippets, Fault.of?_bind_bind_return, of?_snippet n, of?_fieldSnippets rest,
      ← List.findSome?_append]
    rfl

end

mutual

/-- The snippet of a tree is that of its skeleton. -/
theorem snippet_skeleton (n : Node) : n.skeleton.snippet = n.snippet := by
  cases n with
  | literal value line => cases value <;> rfl
  | var | function | script | absent => rfl
  | block body line =>
    cases body with
    | nil => rfl
    | cons first rest =>
      have hbody := snippets_skeletons (first :: rest)
      rw [skeletons] at hbody
      simp only [skeleton, skeletons, snippet, hbody]
  | call target args line | method target _ args line =>
    simp only [skeleton, snippet, snippet_skeleton target, snippets_skeletons args]
  | assign _ part | ret part | cond part | field part =>
    simp only [skeleton, snippet, snippet_skeleton part]
  | setField receiver name value line =>
    simp only [skeleton, snippet, snippet_skeleton receiver, snippet_skeleton value]
  | object fields line =>
    simp only [skeleton, snippet, fieldSnippets_skeletons fields]

/-- The snippets of several trees are those of their skeletons. -/
theorem snippets_skeletons (ns : List Node) : snippets (skeletons ns) = snippets ns := by
  cases ns with
  | nil => rfl
  | cons n rest =>
    simp only [skeletons, snippets, snippet_skeleton n, snippets_skeletons rest]

/-- The snippets of initializers are those of their skeletons. -/
theorem fieldSnippets_skeletons (fields : List (String × Node)) :
    fieldSnippets (fieldSkeletons fields) = fieldSnippets fields := by
  cases fields with
  | nil => rfl
  | cons field rest =>
    obtain ⟨name, n⟩ := field
    simp only [fieldSkeletons, fieldSnippets, snippet_skeleton n, fieldSnippets_skeletons rest]

end

/-- A snippet fails for the sake of the first visible node without a text. -/
lemma snippet_eq_error_iff {n : Node} {f : Fault} :
    n.snippet = .error f ↔ n.visible.findSome? blemish? = some f := by
  rw [← of?_snippet, Fault.of?_eq_some_iff]

/-- A node has a long line exactly when the number of its line has no text. -/
lemma hasLongLine_iff {n : Node} {line} (hline : n.line? = some line) :
    n.HasLongLine ↔ Text.margin? line = none := by
  rw [Text.margin?_eq_none_iff, Text.decimal?_eq_none_iff_length]
  constructor
  · rintro ⟨_, hline', hlong⟩
    cases hline.symm.trans hline'
    exact hlong
  · exact fun hlong => ⟨line, hline, hlong⟩

/-- An expression cannot be shown in a listing for want of a snippet, or for want of a text of its
line if it has a snippet. -/
lemma IsExpression.illustrate_eq_error_iff {n : Node} (hn : n.IsExpression) (caption : String)
    (f : Fault) :
    n.illustrate caption = .error f ↔
      n.snippet = .error f ∨ (∃ text, n.snippet = .ok text) ∧ n.HasLongLine ∧ f = .longInteger := by
  cases hline : n.line? with
  | none =>
    obtain h | h := line?_eq_none_iff.1 hline
    · exact absurd h hn.1
    · exact absurd h hn.2
  | some line =>
    simp only [illustrate, hline]
    rw [← Fault.of?_eq_some_iff, Fault.of?_bind_bind_return, Option.or_eq_some_iff,
      Fault.of?_eq_some_iff, Fault.of?_eq_none_iff, Fault.of?_eq_some_iff,
      Fault.written_eq_error_iff, hasLongLine_iff hline]

end Node

end Scriptlet
