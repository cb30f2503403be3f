import Mathlib.Data.List.Nodup
import Mathlib.Data.List.Infix
import Scriptlet.Proofs.Global

/-!
# What heaps keep

An object is what it was made as for good: its kind, with all that belongs to the kind, never changes,
and no field is ever taken away or moved. A name that is bound anew stays in its place, and a new
name goes to the end, so the names of the fields earlier are the first ones later (`Heap.Keeps`).
For the same reason no name occurs twice among the fields of an object (`Heap.Distinct`).
-/

namespace Scriptlet

namespace Fields

/-- Binding a name leaves the names as they are, or puts a new one at the end. -/
lemma names_insert (fields : Fields) (name : String) (value : Value) :
    (fields.insert name value).names =
      if name ∈ fields.names then fields.names else fields.names ++ [name] := by
  induction fields with
  | nil => rfl
  | cons entry rest ih =>
    obtain ⟨key, old⟩ := entry
    simp only [names, List.map_cons, List.mem_cons] at ih ⊢
    by_cases hk : key = name
    · subst hk
      simp [insert]
    · simp only [insert, hk, if_false, List.map_cons, ih, Ne.symm hk, false_or]
      by_cases hname : name ∈ rest.map Prod.fst
      · simp only [hname, if_true]
      · simp only [hname, if_false, List.cons_append]

/-- Binding a name keeps the names that are bound, in their order. -/
lemma names_prefix_insert (fields : Fields) (name : String) (value : Value) :
    fields.names <+: (fields.insert name value).names := by
  rw [names_insert]
  split
  · exact List.prefix_rfl
  · exact List.prefix_append _ _

/-- Binding a name makes no name come twice. -/
lemma nodup_names_insert {fields : Fields} (nodup : fields.names.Nodup) (name : String)
    (value : Value) : (fields.insert name value).names.Nodup := by
  rw [names_insert]
  split
  · exact nodup
  · rename_i hname
    exact List.nodup_append_comm.1 (List.nodup_cons.2 ⟨hname, nodup⟩)

/-- Binding several names makes no name come twice. -/
lemma nodup_names_insertAll {fields : Fields} (nodup : fields.names.Nodup)
    (bindings : List (String × Value)) : (fields.insertAll bindings).names.Nodup := by
  induction bindings generalizing fields with
  | nil => exact nodup
  | cons binding rest ih => exact ih (nodup_names_insert nodup _ _)

end Fields

/-- The names that a call binds in its frame are distinct, those of its parameters or not. -/
lemma Function.nodup_names_bindings (f : Function) (receiver : Value) (args : List Value) :
    (f.bindings receiver args).names.Nodup := by
  have hthis : (Fields.names [("this", receiver)]).Nodup := List.nodup_singleton "this"
  exact Fields.nodup_names_insertAll hthis _

/-- An object later on: of the same kind, with the same fields first. -/
structure Object.Keeps (o o' : Object) : Prop where
  kind : o'.kind = o.kind
  names : o.fields.names <+: o'.fields.names

namespace Heap

/-- Every object of the one heap is in the other one, later on. -/
def Keeps (h h' : Heap) : Prop :=
  ∀ r o, h.get? r = some o → ∃ o', h'.get? r = some o' ∧ o.Keeps o'

/-- No object has two fields of one name. -/
def Distinct (h : Heap) : Prop :=
  ∀ r o, h.get? r = some o → o.fields.names.Nodup

variable {h h' h'' : Heap}

/-- A heap keeps its own objects. -/
lemma Keeps.refl (h : Heap) : h.Keeps h :=
  fun _ o ho => ⟨o, ho, rfl, List.prefix_rfl⟩

/-- What is kept by two changes in a row is kept by both. -/
lemma Keeps.trans (keeps : h.Keeps h') (keeps' : h'.Keeps h'') : h.Keeps h'' := by
  intro r o ho
  obtain ⟨o', ho', hkind, hnames⟩ := keeps r o ho
  obtain ⟨o'', ho'', hkind', hnames'⟩ := keeps' r o' ho'
  exact ⟨o'', ho'', hkind'.trans hkind, hnames.trans hnames'⟩

/-- A heap keeps what is the same in another one. -/
lemma Keeps.of_get?_eq (same : ∀ r, r.index < h.size → h'.get? r = h.get? r) : h.Keeps h' := by
  intro r o ho
  have hr := lt_size_of_kind? (kind?_of_get? ho)
  exact ⟨o, (same r hr).trans ho, rfl, List.prefix_rfl⟩

/-- A new object changes no other. -/
lemma keeps_push (h : Heap) (object : Object) : h.Keeps (h.push object) :=
  .of_get?_eq fun _ hr => get?_push_of_lt hr object

/-- Binding a field keeps the kinds of objects and the names of their fields. -/
lemma keeps_register (h : Heap) (r : Ref) (name : String) (value : Value) :
    h.Keeps (h.register r name value) := by
  intro s o ho
  by_cases hrs : r = s
  · subst hrs
    rw [get?_register_self, ho]
    exact ⟨_, rfl, rfl, Fields.names_prefix_insert o.fields name value⟩
  · rw [get?_register_of_ne hrs, ho]
    exact ⟨o, rfl, rfl, List.prefix_rfl⟩

namespace Distinct

/-- A new object with distinct names leaves the names distinct. -/
lemma push (distinct : h.Distinct) {object : Object} (nodup : object.fields.names.Nodup) :
    (h.push object).Distinct := by
  intro r o ho
  obtain ho | ⟨_, rfl⟩ := get?_push_cases ho
  · exact distinct r o ho
  · exact nodup

/-- Binding a field leaves the names distinct. -/
lemma register (distinct : h.Distinct) (r : Ref) (name : String) (value : Value) :
    (h.register r name value).Distinct := by
  intro s o ho
  by_cases hrs : r = s
  · subst hrs
    rw [get?_register_self] at ho
    obtain ⟨old, hold, rfl⟩ := Option.map_eq_some_iff.1 ho
    exact Fields.nodup_names_insert (distinct r old hold) name value
  · rw [get?_register_of_ne hrs] at ho
    exact distinct s o ho

end Distinct

end Heap

namespace Global

variable (h : Heap)

/-- A new global scope changes no object. -/
lemma keeps_prepare : h.Keeps (prepare h) :=
  .of_get?_eq fun _ hr => get?_prepare_of_lt hr

variable {h} in
/-- A new global scope leaves the names distinct. -/
lemma distinct_prepare (distinct : h.Distinct) : (prepare h).Distinct := by
  intro r o ho
  obtain ho | ⟨_, rfl⟩ | ⟨entry, _, rfl⟩ := get?_prepare_cases ho
  · exact distinct r o ho
  · exact nodup_names_bindings h.next
  · exact List.nodup_nil

end Global

end Scriptlet
