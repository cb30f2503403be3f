import Mathlib.Data.List.Forall2
import Scriptlet.Operator.Apply
import Scriptlet.Proofs.Heap.Growth

/-!
# Correspondences between heaps

What two runs have in common when one is not quite the other: a correspondence says which objects,
which signals and which nodes stand for each other. Objects correspond one to one, and each is like
its counterpart: of the same kind, with the same names in the same order, and with corresponding
values. Objects that correspond to none may be anything.

Main definitions and statements:
* `Correspondence`: what corresponds, with `Correspondence.Values` for values.
* `Correspondence.Between`: corresponding objects of two heaps are alike.
* `Correspondence.Between.lookup`: corresponding objects answer alike for every name.
* `Correspondence.Values.equal`: corresponding values are equal to the same values.
-/

namespace Scriptlet

/-- Two nodes of one kind with the same data, their lines apart, and with related parts. -/
inductive Node.Matches (N : Node → Node → Prop) : Node → Node → Prop where
  | block {body body' line line'} :
    List.Forall₂ N body body' →
    Matches N (.block body line) (.block body' line')
  | literal {a line line'} :
    Matches N (.literal a line) (.literal a line')
  | call {callee callee' args args' line line'} :
    N callee callee' →
    List.Forall₂ N args args' →
    Matches N (.call callee args line) (.call callee' args' line')
  | var {name line line'} :
    Matches N (.var name line) (.var name line')
  | assign {name value value' declares line line'} :
    N value value' →
    Matches N (.assign name value declares line) (.assign name value' declares line')
  | function {name params body body' line line'} :
    N body body' →
    Matches N (.function name params body line) (.function name params body' line')
  | ret {value value' line line'} :
    N value value' →
    Matches N (.ret value line) (.ret value' line')
  | cond {test test' yes yes' no no' line line'} :
    N test test' →
    N yes yes' →
    N no no' →
    Matches N (.cond test yes no line) (.cond test' yes' no' line')
  | object {fields fields' line line'} :
    List.Forall₂ (fun f f' => f.1 = f'.1 ∧ N f.2 f'.2) fields fields' →
    Matches N (.object fields line) (.object fields' line')
  | field {receiver receiver' name line line'} :
    N receiver receiver' →
    Matches N (.field receiver name line) (.field receiver' name line')
  | setField {receiver receiver' name value value' line line'} :
    N receiver receiver' →
    N value value' →
    Matches N (.setField receiver name value line) (.setField receiver' name value' line')
  | method {receiver receiver' name args args' line line'} :
    N receiver receiver' →
    List.Forall₂ N args args' →
    Matches N (.method receiver name args line) (.method receiver' name args' line')
  | script {body body'} :
    Matches N (.script body) (.script body')
  | absent :
    Matches N .absent .absent

/-- A function literal is told from others as a node. -/
lemma Function.toNode_injective : Function.Injective toNode := by
  rintro ⟨name, params, body, line⟩ ⟨name', params', body', line'⟩ h
  cases h
  rfl

/-- A node matches itself. -/
lemma Node.Matches.of_eq {n n' : Node} (h : n = n') : n.Matches Eq n' := by
  subst h
  have hlist : ∀ ns : List Node, List.Forall₂ Eq ns ns :=
    fun ns => List.forall₂_same.2 fun _ _ => rfl
  cases n with
  | block => exact .block (hlist _)
  | literal => exact .literal
  | call => exact .call rfl (hlist _)
  | var => exact .var
  | assign => exact .assign rfl
  | function => exact .function rfl
  | ret => exact .ret rfl
  | cond => exact .cond rfl rfl rfl
  | object => exact .object (List.forall₂_same.2 fun _ _ => ⟨rfl, rfl⟩)
  | field => exact .field rfl
  | setField => exact .setField rfl rfl
  | method => exact .method rfl (hlist _)
  | script => exact .script
  | absent => exact .absent

/-- What stands for what in two runs: objects one to one, and nodes that match. -/
structure Correspondence where
  refs : Ref → Ref → Prop
  signals : Nat → Nat → Prop
  nodes : Node → Node → Prop
  left_unique {r s s'} : refs r s → refs r s' → s = s'
  right_unique {r r' s} : refs r s → refs r' s → r = r'
  matches_of_nodes {n n'} : nodes n n' → n.Matches nodes n'

namespace Correspondence

variable (C : Correspondence)

/-- Two values that are the same atom, or corresponding objects, or corresponding signals that carry
corresponding values. -/
inductive Values : Value → Value → Prop where
  | atom {a} :
    Values (.atom a) (.atom a)
  | ref {r s} :
    C.refs r s →
    Values (.ref r) (.ref s)
  | returning {k k' v w} :
    C.signals k k' →
    Values v w →
    Values (.returning k v) (.returning k' w)

/-- The same names in the same order, with corresponding values. -/
abbrev Entries : Fields → Fields → Prop :=
  List.Forall₂ fun b b' => b.1 = b'.1 ∧ C.Values b.2 b'.2

/-- What makes two objects alike. An environment is younger than the one around it, in either heap. -/
inductive Kinds (r s : Ref) : Object.Kind → Object.Kind → Prop where
  | plain :
    Kinds r s .plain .plain
  | outermost :
    Kinds r s (.environment none) (.environment none)
  | environment {p q} :
    C.refs p q →
    p.index < r.index →
    q.index < s.index →
    Kinds r s (.environment (some p)) (.environment (some q))
  | closure {code code' captured captured'} :
    C.nodes code.toNode code'.toNode →
    C.Values captured captured' →
    Kinds r s (.closure code captured) (.closure code' captured')
  | primitive {name host arity} :
    Kinds r s (.primitive name host arity) (.primitive name host arity)

/-- Two objects that are alike. -/
structure Objects (r s : Ref) (o o' : Object) : Prop where
  kind : C.Kinds r s o.kind o'.kind
  fields : C.Entries o.fields o'.fields

/-- Corresponding objects are there in both heaps, and alike. -/
def Between (h h' : Heap) : Prop :=
  ∀ r s, C.refs r s → ∃ o o', h.get? r = some o ∧ h'.get? s = some o' ∧ C.Objects r s o o'

/-- A correspondence extends another when whatever corresponds by that one corresponds by it. -/
instance : Preorder Correspondence where
  le C D := (∀ r s, C.refs r s → D.refs r s) ∧ (∀ k k', C.signals k k' → D.signals k k') ∧
    ∀ n n', C.nodes n n' → D.nodes n n'
  le_refl _ := ⟨fun _ _ h => h, fun _ _ h => h, fun _ _ h => h⟩
  le_trans _ _ _ h₁ h₂ := by
    obtain ⟨hr₁, hk₁, hn₁⟩ := h₁
    obtain ⟨hr₂, hk₂, hn₂⟩ := h₂
    exact ⟨fun r s h => hr₂ r s (hr₁ r s h), fun k k' h => hk₂ k k' (hk₁ k k' h),
      fun n n' h => hn₂ n n' (hn₁ n n' h)⟩

variable {C}

section Mono

variable {D : Correspondence} (hle : C ≤ D)
include hle

/-- Values that correspond still do in an extension. -/
lemma Values.mono {v w} (hv : C.Values v w) : D.Values v w := by
  induction hv with
  | atom => exact .atom
  | ref hr => exact .ref (hle.1 _ _ hr)
  | returning hk _ ih => exact .returning (hle.2.1 _ _ hk) ih

/-- Fields that correspond still do in an extension. -/
lemma Entries.mono {fs fs'} (hf : C.Entries fs fs') : D.Entries fs fs' :=
  hf.imp fun _ _ hb => ⟨hb.1, hb.2.mono hle⟩

/-- Kinds of objects that correspond still do in an extension. -/
lemma Kinds.mono {r s k k'} (hk : C.Kinds r s k k') : D.Kinds r s k k' := by
  cases hk with
  | plain => exact .plain
  | outermost => exact .outermost
  | environment hp hr hs => exact .environment (hle.1 _ _ hp) hr hs
  | closure hn hv => exact .closure (hle.2.2 _ _ hn) (hv.mono hle)
  | primitive => exact .primitive

/-- Objects that correspond still do in an extension. -/
lemma Objects.mono {r s o o'} (ho : C.Objects r s o o') : D.Objects r s o o' :=
  ⟨ho.kind.mono hle, ho.fields.mono hle⟩

end Mono

/-- Function literals that correspond have the same title and parameters, and bodies that
correspond. -/
lemma code_of_nodes {f f' : Function} (hf : C.nodes f.toNode f'.toNode) :
    f.title = f'.title ∧ f.params = f'.params ∧ C.nodes f.body f'.body := by
  obtain ⟨name, params, body, line⟩ := f
  obtain ⟨name', params', body', line'⟩ := f'
  have hm : Node.Matches C.nodes (.function name params body line)
      (.function name' params' body' line') := C.matches_of_nodes hf
  cases hm with
  | function hb => exact ⟨rfl, rfl, hb⟩

/-- One of two corresponding objects is a given one exactly when the other is its counterpart. -/
lemma refs_eq_iff {r s r' s'} (h : C.refs r s) (h' : C.refs r' s') : r = r' ↔ s = s' := by
  constructor
  · rintro rfl
    exact C.left_unique h h'
  · rintro rfl
    exact C.right_unique h h'

namespace Values

/-- Values are equal exactly if those that correspond to them are. -/
lemma equal {v v' w w'} (hv : C.Values v v') (hw : C.Values w w') : v.equal w = v'.equal w' := by
  induction hv generalizing w w' with
  | atom => cases hw <;> rfl
  | ref hr =>
    cases hw with
    | ref hs => exact decide_eq_decide.2 (refs_eq_iff hr hs)
    | atom | returning => rfl
  | returning _ _ ih =>
    cases hw with
    | returning _ hw => exact ih hw
    | atom | ref => rfl

/-- Only the undefined value corresponds to the undefined value. -/
lemma eq_undefined_iff {v w} (hv : C.Values v w) : v = .undefined ↔ w = .undefined := by
  cases hv with
  | atom => exact Iff.rfl
  | ref | returning => exact ⟨nofun, nofun⟩

/-- What a call unwraps from values that correspond corresponds. -/
lemma result {v w} (hv : C.Values v w) : C.Values v.result w.result := by
  cases hv with
  | returning _ hv => exact hv
  | atom | ref => exact .atom

end Values

namespace Entries

/-- Fields that correspond have values that correspond, or none, under each name. -/
lemma get? {fs fs' : Fields} (hf : C.Entries fs fs') (name) :
    Option.Rel C.Values (fs.get? name) (fs'.get? name) := by
  induction hf with
  | nil => exact .none
  | @cons b b' _ _ hb _ ih =>
    obtain ⟨key, v⟩ := b
    obtain ⟨key', v'⟩ := b'
    obtain ⟨rfl, hv⟩ := hb
    simp only [Fields.get?]
    split
    · exact .some hv
    · exact ih

/-- Binding a name to values that correspond leaves fields that correspond. -/
lemma insert {fs fs' : Fields} (hf : C.Entries fs fs') (name) {v w} (hv : C.Values v w) :
    C.Entries (fs.insert name v) (fs'.insert name w) := by
  induction hf with
  | nil => exact .cons ⟨rfl, hv⟩ .nil
  | @cons b b' _ _ hb hrest ih =>
    obtain ⟨key, old⟩ := b
    obtain ⟨key', old'⟩ := b'
    obtain ⟨rfl, hold⟩ := hb
    simp only [Fields.insert]
    split
    · exact .cons ⟨rfl, hv⟩ hrest
    · exact .cons ⟨rfl, hold⟩ ih

/-- Fields still correspond after names are bound one by one to corresponding values. -/
lemma insertAll {names : List String} {fields fields' vs ws} (entries : C.Entries fields fields')
    (hvs : List.Forall₂ C.Values vs ws) :
    C.Entries (fields.insertAll (names.zip vs)) (fields'.insertAll (names.zip ws)) := by
  induction hvs generalizing names fields fields' with
  | nil =>
    rw [List.zip_nil_right]
    exact entries
  | cons hv _ ih =>
    cases names with
    | nil => exact entries
    | cons name names => exact ih (entries.insert name hv)

/-- What a call binds in its frame corresponds. -/
lemma bindings {f f' : Function} (hp : f.params = f'.params) {v w vs ws} (hv : C.Values v w)
    (hvs : List.Forall₂ C.Values vs ws) : C.Entries (f.bindings v vs) (f'.bindings w ws) := by
  rw [Function.bindings_eq, Function.bindings_eq, hp]
  exact insertAll (.cons ⟨rfl, hv⟩ .nil) hvs

end Entries

/-- No object and no signal stands for another than itself. -/
structure InPlace (C : Correspondence) : Prop where
  refs : ∀ {r s}, C.refs r s → r = s
  signals : ∀ {k k'}, C.signals k k' → k = k'

namespace InPlace

variable (inPlace : C.InPlace)
include inPlace

/-- Values that correspond in place are the same. -/
lemma value_eq {v w} (hv : C.Values v w) : v = w := by
  induction hv with
  | atom => rfl
  | ref hr => rw [inPlace.refs hr]
  | returning hk _ ih => rw [inPlace.signals hk, ih]

/-- Fields that correspond in place are the same. -/
lemma fields_eq {fs fs' : Fields} (hf : C.Entries fs fs') : fs = fs' := by
  induction hf with
  | nil => rfl
  | cons hb _ ih => rw [ih, Prod.ext hb.1 (inPlace.value_eq hb.2)]

/-- Objects that correspond in place are the same if their nodes are. -/
lemma object_eq (hnodes : ∀ {n n'}, C.nodes n n' → n = n') {r s} {o o' : Object}
    (alike : C.Objects r s o o') : o = o' := by
  obtain ⟨k, fs⟩ := o
  obtain ⟨k', fs'⟩ := o'
  obtain ⟨hk, hf⟩ := alike
  obtain rfl : fs = fs' := inPlace.fields_eq hf
  cases hk with
  | plain | outermost | primitive => rfl
  | environment hp => rw [inPlace.refs hp]
  | closure hn hv =>
    rw [inPlace.value_eq hv, Function.toNode_injective (hnodes hn)]

end InPlace

namespace Between

variable {h h' : Heap} (between : C.Between h h')
include between

/-- References that correspond are to objects that are there. -/
lemma lt_size {r s} (hr : C.refs r s) : r.index < h.size ∧ s.index < h'.size := by
  obtain ⟨o, o', ho, ho', _⟩ := between r s hr
  exact ⟨Heap.lt_size_of_kind? (Heap.kind?_of_get? ho), Heap.lt_size_of_kind? (Heap.kind?_of_get? ho')⟩

/-- References that correspond are to objects of kinds that correspond. -/
lemma kind? {r s} (hr : C.refs r s) :
    ∃ k k', h.kind? r = some k ∧ h'.kind? s = some k' ∧ C.Kinds r s k k' := by
  obtain ⟨o, o', ho, ho', alike⟩ := between r s hr
  exact ⟨_, _, Heap.kind?_of_get? ho, Heap.kind?_of_get? ho', alike.kind⟩

/-- Objects that correspond bind a name to values that correspond, or not at all. -/
lemma own? {r s} (hr : C.refs r s) (name) :
    Option.Rel C.Values (h.own? r name) (h'.own? s name) := by
  obtain ⟨o, o', ho, ho', alike⟩ := between r s hr
  simp only [Heap.own?, ho, ho']
  exact alike.fields.get? name

/-- The scopes from two that correspond on outwards correspond, one by one. -/
lemma scopesWithin {n n' : Nat} {r s : Ref} (hr : C.refs r s) (hn : r.index < n)
    (hn' : s.index < n') : List.Forall₂ C.refs (h.scopesWithin n r) (h'.scopesWithin n' s) := by
  -- either count is more than the index, and the index of a parent is less
  induction n generalizing n' r s with
  | zero => exact absurd hn (Nat.not_lt_zero _)
  | succ n ih =>
    cases n' with
    | zero => exact absurd hn' (Nat.not_lt_zero _)
    | succ n' =>
      obtain ⟨k, k', hk, hk', alike⟩ := between.kind? hr
      simp only [Heap.scopesWithin, Heap.parent?, hk, hk']
      refine .cons hr ?_
      cases alike with
      | environment hp hlt hlt' =>
        exact ih hp (Nat.lt_of_lt_of_le hlt (Nat.le_of_lt_succ hn))
          (Nat.lt_of_lt_of_le hlt' (Nat.le_of_lt_succ hn'))
      | plain | outermost | closure | primitive => exact .nil

/-- Corresponding objects answer alike for every name. -/
lemma lookup {r s} (hr : C.refs r s) (name) : C.Values (h.lookup r name) (h'.lookup s name) := by
  have hscopes : List.Forall₂ C.refs (h.scopes r) (h'.scopes s) :=
    between.scopesWithin hr (Nat.lt_succ_self _) (Nat.lt_succ_self _)
  rw [Heap.lookup, Heap.lookup]
  generalize h.scopes r = scopes at hscopes
  generalize h'.scopes s = scopes' at hscopes
  induction hscopes with
  | nil => exact .atom
  | @cons t u _ _ ht _ ih =>
    rw [List.findSome?_cons, List.findSome?_cons]
    have hown := between.own? ht name
    generalize h.own? t name = v? at hown
    generalize h'.own? u name = w? at hown
    cases hown with
    | none => exact ih
    | some hv => exact hv

/-- Binding corresponding values in corresponding objects leaves them alike. -/
lemma register {r s} (hr : C.refs r s) (name) {v w} (hv : C.Values v w) :
    C.Between (h.register r name v) (h'.register s name w) := by
  intro t u ht
  obtain ⟨o, o', ho, ho', alike⟩ := between t u ht
  by_cases hrt : r = t
  · have hsu : s = u := (refs_eq_iff hr ht).1 hrt
    subst hrt hsu
    rw [Heap.get?_register_self, Heap.get?_register_self, ho, ho']
    exact ⟨_, _, rfl, rfl, alike.kind, alike.fields.insert name hv⟩
  · have hsu : s ≠ u := fun e => hrt ((refs_eq_iff hr ht).2 e)
    rw [Heap.get?_register_of_ne hrt, Heap.get?_register_of_ne hsu]
    exact ⟨o, o', ho, ho', alike⟩

/-- Values that correspond stand for objects that correspond, or for none. -/
lemma object? {v w} (hv : C.Values v w) : Option.Rel C.refs (h.object? v) (h'.object? w) := by
  cases hv with
  | ref hr =>
    obtain ⟨hlt, hlt'⟩ := between.lt_size hr
    simp only [Heap.object?, hlt, hlt', if_true]
    exact .some hr
  | atom | returning => exact .none

/-- Values that correspond stand for functions that correspond, or for none. -/
lemma function? {v w} (hv : C.Values v w) : Option.Rel C.refs (h.function? v) (h'.function? w) := by
  cases hv with
  | ref hr =>
    obtain ⟨k, k', hk, hk', alike⟩ := between.kind? hr
    simp only [Heap.function?, hk, hk']
    cases alike with
    | closure | primitive => exact .some hr
    | plain | outermost | environment => exact .none
  | atom | returning => exact .none

/-- Values that correspond stand for scopes that correspond, or for none. -/
lemma scope? {v w} (hv : C.Values v w) :
    Option.Rel (Option.Rel C.refs) (h.scope? v) (h'.scope? w) := by
  cases hv with
  | @atom a =>
    cases a with
    | null => exact .some .none
    | int | str | bool | undefined => exact .none
  | ref hr =>
    obtain ⟨k, k', hk, hk', alike⟩ := between.kind? hr
    simp only [Heap.scope?, hk, hk']
    cases alike with
    | outermost | environment => exact .some (.some hr)
    | plain | closure | primitive => exact .none
  | returning => exact .none

/-- Values that correspond have the same shape. -/
lemma shape {v w} (hv : C.Values v w) : h.shape v = h'.shape w := by
  cases hv with
  | ref hr =>
    obtain ⟨k, k', hk, hk', alike⟩ := between.kind? hr
    simp only [Heap.shape, hk, hk']
    cases alike <;> rfl
  | atom | returning => rfl

end Between

end Correspondence

end Scriptlet
