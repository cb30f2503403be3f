import Scriptlet.Proofs.Correspondence
import Scriptlet.Proofs.Heap.Text

/-!
# Corresponding values show alike

Corresponding values have the same texts, even though one heap may hold more objects than the other,
and operators answer the same on them.

Main statements:
* `Correspondence.Between.objectText`: the texts of corresponding objects.
* `Correspondence.Between.text`, `Correspondence.Between.quoted`: the texts of corresponding values.
* `Correspondence.Between.apply`: the answers of operators.
-/

namespace Scriptlet.Correspondence

variable {C : Correspondence}

section Given

variable {f f' : Ref → Except Fault String} (hobj : ∀ r s, C.refs r s → f r = f' s)
include hobj

/-- Values that correspond have the same quoted text, if the objects have. -/
lemma Values.quotedBy {v w} (hv : C.Values v w) : v.quotedBy f = w.quotedBy f' := by
  induction hv with
  | atom => rfl
  | ref hr => exact hobj _ _ hr
  | returning _ _ ih => simp only [Value.quotedBy, ih]

/-- Values that correspond have the same plain text, if the objects have. -/
lemma Values.textBy {v w} (hv : C.Values v w) : v.textBy f = w.textBy f' := by
  cases hv with
  | atom => rfl
  | ref hr => exact hobj _ _ hr
  | returning hk hv => exact Values.quotedBy hobj (.returning hk hv)

/-- Fields that correspond have the same texts, if the objects have. -/
lemma Entries.textsBy {fs fs' : Fields} (hf : C.Entries fs fs') :
    fs.textsBy f = fs'.textsBy f' := by
  induction hf with
  | nil => rfl
  | @cons b b' _ _ hb _ ih =>
    obtain ⟨name, v⟩ := b
    obtain ⟨name', v'⟩ := b'
    obtain ⟨rfl, hv⟩ := hb
    simp only [Fields.textsBy, Values.textBy hobj hv, ih]

end Given

/-- Paths that correspond go through references that correspond. -/
lemma mem_iff_of_forall₂ {path path' r s} (hp : List.Forall₂ C.refs path path') (hr : C.refs r s) :
    r ∈ path ↔ s ∈ path' := by
  induction hp with
  | nil => simp
  | cons ht _ ih => simp only [List.mem_cons, refs_eq_iff hr ht, ih]

namespace Between

variable {h h' : Heap} (between : C.Between h h')
include between

/-- Descents of the same length from corresponding objects within corresponding paths. -/
lemma objectTextWithin {n path path' r s} (hp : List.Forall₂ C.refs path path')
    (hr : C.refs r s) : h.objectTextWithin n path r = h'.objectTextWithin n path' s := by
  induction n generalizing path path' r s with
  | zero => rfl
  | succ n ih =>
    obtain ⟨⟨k, fs⟩, ⟨k', fs'⟩, ho, ho', hk, hf⟩ := between r s hr
    rw [Heap.objectTextWithin, Heap.objectTextWithin, ho, ho']
    cases hk with
    | plain =>
      have hmem := mem_iff_of_forall₂ hp hr
      have htexts := Entries.textsBy (fun _ _ ht => ih (.cons hr hp) ht) hf
      simp only [hmem, htexts]
    | outermost | environment | primitive => rfl
    | closure hn _ =>
      have htitle := (code_of_nodes hn).1
      simp only [htitle]

/-- Corresponding objects have the same text. -/
lemma objectText {r s} (hr : C.refs r s) : h.objectText r = h'.objectText s := by
  -- the same number of steps, enough for either heap
  have hlt : h.size < h.size + h'.size + 1 := by omega
  have hlt' : h'.size < h.size + h'.size + 1 := by omega
  rw [← Heap.objectTextWithin_eq_objectText hlt r, ← Heap.objectTextWithin_eq_objectText hlt' s]
  exact between.objectTextWithin .nil hr

/-- Values that correspond have the same plain text. -/
lemma text {v w} (hv : C.Values v w) : h.text v = h'.text w :=
  Values.textBy (fun _ _ hr => between.objectText hr) hv

/-- Values that correspond have the same quoted text. -/
lemma quoted {v w} (hv : C.Values v w) : h.quoted v = h'.quoted w :=
  Values.quotedBy (fun _ _ hr => between.objectText hr) hv

/-- Rows of values that correspond have the same plain texts. -/
lemma textAll {vs ws} (hvs : List.Forall₂ C.Values vs ws) : h.textAll vs = h'.textAll ws := by
  induction hvs with
  | nil => rfl
  | cons hv _ ih => simp only [Heap.textAll, between.text hv, ih]

/-- Rows of values that correspond have the same quoted texts. -/
lemma quotedAll {vs ws} (hvs : List.Forall₂ C.Values vs ws) : h.quotedAll vs = h'.quotedAll ws := by
  induction hvs with
  | nil => rfl
  | cons hv _ ih => simp only [Heap.quotedAll, between.quoted hv, ih]

/-- Values that correspond are the same integer, or are refused alike where one is asked for. -/
lemma integer {v w} (hv : C.Values v w) : h.integer v = h'.integer w := by
  have hq := between.quoted hv
  cases hv with
  | @atom a =>
    cases a with
    | int => rfl
    | str | bool | null | undefined => simp only [Heap.integer, hq]
  | ref | returning => simp only [Heap.integer, hq]

/-- Values that correspond are ordered alike, or are refused alike. -/
lemma ordered {op v v' w w'} (hv : C.Values v v') (hw : C.Values w w') :
    h.ordered op v w = h'.ordered op v' w' := by
  have hshape := between.shape hw
  induction hv generalizing w w' with
  | atom =>
    cases hw with
    | atom => rfl
    | ref | returning =>
      simp only [Heap.ordered, hshape]
      rfl
  | ref hr => simp only [Heap.ordered, hshape, between.shape (.ref hr)]
  | returning hk hv ih =>
    cases hw with
    | returning _ hw => simp only [Heap.ordered, ih hw (between.shape hw), hv.equal hw]
    | atom | ref => simp only [Heap.ordered, hshape, between.shape (.returning hk hv)]

/-- Operators answer the same on corresponding values. -/
lemma apply {op v v' w w'} (hv : C.Values v v') (hw : C.Values w w') :
    h.apply op v w = h'.apply op v' w' := by
  cases op with
  | arithmetic op => simp only [Heap.apply, between.integer hv, between.integer hw]
  | equal => simp only [Heap.apply, hv.equal hw]
  | unequal => simp only [Heap.apply, hv.equal hw]
  | order op => simp only [Heap.apply, between.ordered hv hw]

end Between

end Scriptlet.Correspondence
