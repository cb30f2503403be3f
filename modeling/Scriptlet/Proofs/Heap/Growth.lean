import Mathlib.Order.Defs.PartialOrder
import Mathlib.Tactic.Lemma
import Scriptlet.Eval.Call

/-!
# Growth of heaps

A heap grows when objects are added and fields are bound; what is there keeps its kind. Growth is an
order on heaps (`h ≤ h'`), and whatever only depends on the kinds of objects survives it.

Main statements:
* `Heap.le_push`, `Heap.le_register`: the two ways in which a heap changes are growth.
* `Heap.lookup_cases`: a value that is looked up is undefined or stands in a field.
-/

namespace Scriptlet

namespace Fields

/-- A field after a binding was there before, or holds the value that was bound. -/
lemma mem_insert {fields : Fields} {name value b} (hb : b ∈ fields.insert name value) :
    b ∈ fields ∨ b.2 = value := by
  induction fields with
  | nil =>
    obtain rfl := List.mem_singleton.1 hb
    exact .inr rfl
  | cons entry rest ih =>
    obtain ⟨key, old⟩ := entry
    rw [insert] at hb
    split at hb
    · obtain rfl | hb := List.mem_cons.1 hb
      · exact .inr rfl
      · exact .inl (List.mem_cons_of_mem _ hb)
    · obtain rfl | hb := List.mem_cons.1 hb
      · exact .inl List.mem_cons_self
      · exact (ih hb).imp_left (List.mem_cons_of_mem _)

/-- Fields after names are bound one by one. -/
def insertAll (fields : Fields) (bindings : List (String × Value)) : Fields :=
  bindings.foldl (fun fields binding => fields.insert binding.1 binding.2) fields

/-- A field after that was there before, or holds one of the values that were bound. -/
lemma mem_insertAll {fields : Fields} {bindings b} (hb : b ∈ fields.insertAll bindings) :
    b ∈ fields ∨ ∃ binding ∈ bindings, b.2 = binding.2 := by
  induction bindings generalizing fields with
  | nil => exact .inl hb
  | cons binding rest ih =>
    obtain hb | ⟨c, hc, e⟩ := ih hb
    · obtain hb | e := mem_insert hb
      · exact .inl hb
      · exact .inr ⟨binding, List.mem_cons_self, e⟩
    · exact .inr ⟨c, List.mem_cons_of_mem _ hc, e⟩

/-- A value that is found under a name stands in a field. -/
lemma mem_of_get? {fields : Fields} {name value} (h : fields.get? name = some value) :
    ∃ b ∈ fields, b.2 = value := by
  induction fields with
  | nil => cases h
  | cons entry rest ih =>
    obtain ⟨key, old⟩ := entry
    rw [get?] at h
    split at h
    · cases h
      exact ⟨_, List.mem_cons_self, rfl⟩
    · obtain ⟨b, hb, e⟩ := ih h
      exact ⟨b, List.mem_cons_of_mem _ hb, e⟩

end Fields

/-- A call binds the receiver and then the parameters one by one. -/
lemma Function.bindings_eq (f : Function) (receiver : Value) (args : List Value) :
    f.bindings receiver args = Fields.insertAll [("this", receiver)] (f.params.zip args) := rfl

/-- What a call binds in its frame is the receiver or an argument. -/
lemma Function.mem_bindings {f : Function} {receiver args b} (hb : b ∈ f.bindings receiver args) :
    b.2 = receiver ∨ b.2 ∈ args := by
  rw [bindings_eq] at hb
  obtain h | ⟨⟨name, value⟩, hc, e⟩ := Fields.mem_insertAll hb
  · obtain rfl := List.mem_singleton.1 h
    exact .inl rfl
  · exact .inr (e ▸ (List.of_mem_zip hc).2)

/-- The reference that a value is, or that a signal carries. -/
def Value.ref? : Value → Option Ref
  | .atom _ => none
  | .ref r => some r
  | .returning _ v => v.ref?

namespace Heap

/-- Whether an object is an environment. -/
def IsEnvironment (h : Heap) (r : Ref) : Prop :=
  ∃ parent, h.kind? r = some (.environment parent)

/-- The object that a value is or carries is there, if there is one. -/
def Live (h : Heap) (v : Value) : Prop :=
  ∀ r, v.ref? = some r → r.index < h.size

/-- A heap is below another when its objects are there with the same kinds. -/
instance : Preorder Heap where
  le h h' := ∀ r k, h.kind? r = some k → h'.kind? r = some k
  le_refl _ _ _ hk := hk
  le_trans _ _ _ h₁ h₂ r k hk := h₂ r k (h₁ r k hk)

/-- An object has a kind exactly when it is there. -/
lemma kind?_isSome_iff {h : Heap} {r} : (h.kind? r).isSome ↔ r.index < h.size := by
  simp [kind?, get?, size]

/-- An object with a kind is there. -/
lemma lt_size_of_kind? {h : Heap} {r k} (hk : h.kind? r = some k) : r.index < h.size :=
  kind?_isSome_iff.1 (by simp [hk])

/-- The kind of an object that is there. -/
lemma kind?_of_get? {h : Heap} {r o} (ho : h.get? r = some o) : h.kind? r = some o.kind := by
  simp [kind?, ho]

/-- A new object has the kind that it is made with. -/
@[simp]
lemma kind?_push_next (h : Heap) (object : Object) : (h.push object).kind? h.next = some object.kind :=
  kind?_of_get? (get?_push_next h object)

/-- What is behind any other reference stays as it is when an object is made. -/
lemma get?_push_of_ne {h : Heap} {r : Ref} (hr : r ≠ h.next) (object : Object) :
    (h.push object).get? r = h.get? r := by
  have hi : r.index ≠ h.objects.size := fun hi => hr (congrArg Ref.mk hi)
  rw [get?, push, Array.getElem?_push, if_neg hi]
  rfl

/-- The objects after a new one is made are the old ones and the new one. -/
lemma get?_push_cases {h : Heap} {object r o} (ho : (h.push object).get? r = some o) :
    h.get? r = some o ∨ r = h.next ∧ o = object := by
  have hr := lt_size_of_kind? (kind?_of_get? ho)
  rw [size_push] at hr
  obtain hr | hr := Nat.lt_succ_iff_lt_or_eq.1 hr
  · exact .inl (get?_push_of_lt hr object ▸ ho)
  · obtain rfl : r = h.next := congrArg Ref.mk hr
    rw [get?_push_next] at ho
    exact .inr ⟨rfl, (Option.some.inj ho).symm⟩

/-- An object of a heap with a new one is as it was, or of the kind of the new one. -/
lemma kind?_push_cases {h : Heap} {object r k} (hk : (h.push object).kind? r = some k) :
    h.kind? r = some k ∨ object.kind = k := by
  obtain ⟨o, ho, rfl⟩ := Option.map_eq_some_iff.1 hk
  obtain ho | ⟨_, rfl⟩ := get?_push_cases ho
  · exact .inl (kind?_of_get? ho)
  · exact .inr rfl

/-- A new object that is no primitive leaves the primitives as they are. -/
lemma kind?_primitive_of_push {h : Heap} {object r name host arity}
    (hshape : object.kind.shape ≠ .primitive)
    (hk : (h.push object).kind? r = some (.primitive name host arity)) :
    h.kind? r = some (.primitive name host arity) := by
  obtain hk | e := kind?_push_cases hk
  · exact hk
  · exact absurd (congrArg Object.Kind.shape e) hshape

/-- Making an object is growth. -/
lemma le_push (h : Heap) (object : Object) : h ≤ h.push object := by
  intro r k hk
  rw [kind?, get?_push_of_lt (lt_size_of_kind? hk)]
  exact hk

/-- Binding a field is growth. -/
lemma le_register (h : Heap) (r name value) : h ≤ h.register r name value := by
  intro s k hk
  rw [kind?_register]
  exact hk

/-- What is there stays there. -/
lemma lt_size_of_le {h h' : Heap} (hle : h ≤ h') {r : Ref} (hr : r.index < h.size) :
    r.index < h'.size := by
  obtain ⟨k, hk⟩ := Option.isSome_iff_exists.1 (kind?_isSome_iff.2 hr)
  exact lt_size_of_kind? (hle r k hk)

/-- A heap that grows does not get smaller. -/
lemma size_le_of_le {h h' : Heap} (hle : h ≤ h') : h.size ≤ h'.size :=
  Nat.le_of_not_lt fun hlt => Nat.lt_irrefl _ (lt_size_of_le hle (r := h'.next) hlt)

/-- What has the kind of an environment is one. -/
lemma IsEnvironment.of_kind? {h : Heap} {r parent} (hk : h.kind? r = some (.environment parent)) :
    h.IsEnvironment r :=
  ⟨parent, hk⟩

/-- A new environment is one. -/
lemma isEnvironment_next (h : Heap) (parent fields) :
    (h.push ⟨.environment parent, fields⟩).IsEnvironment h.next :=
  .of_kind? (kind?_push_next ..)

/-- Environments stay environments. -/
lemma IsEnvironment.mono {h h' : Heap} {r} (hle : h ≤ h') (henv : h.IsEnvironment r) :
    h'.IsEnvironment r := by
  obtain ⟨parent, hk⟩ := henv
  exact ⟨parent, hle r _ hk⟩

/-- An object that is there and becomes an environment was one before. -/
lemma IsEnvironment.of_le {h h' : Heap} {r : Ref} (henv : h'.IsEnvironment r) (hle : h ≤ h')
    (hr : r.index < h.size) : h.IsEnvironment r := by
  obtain ⟨parent, hk'⟩ := henv
  obtain ⟨k, hk⟩ := Option.isSome_iff_exists.1 (kind?_isSome_iff.2 hr)
  obtain rfl : k = .environment parent := Option.some.inj ((hle r k hk).symm.trans hk')
  exact ⟨parent, hk⟩

/-- An environment is there. -/
lemma IsEnvironment.lt_size {h : Heap} {r} (henv : h.IsEnvironment r) : r.index < h.size := by
  obtain ⟨parent, hk⟩ := henv
  exact lt_size_of_kind? hk

namespace Live

variable {h h' : Heap} {v : Value}

/-- An atom refers to nothing. -/
lemma atom {a} : h.Live (.atom a) := nofun

/-- What is live stays live. -/
lemma mono (live : h.Live v) (hle : h ≤ h') : h'.Live v :=
  fun r hr => lt_size_of_le hle (live r hr)

/-- A reference to what is there is live. -/
lemma of_lt {r : Ref} (hr : r.index < h.size) : h.Live (.ref r) := by
  rintro _ ⟨⟩
  exact hr

/-- A reference to an object with a kind is live. -/
lemma of_kind? {r k} (hk : h.kind? r = some k) : h.Live (.ref r) :=
  .of_lt (lt_size_of_kind? hk)

/-- A reference to a new object is live. -/
lemma next {object : Object} : (h.push object).Live (.ref h.next) :=
  .of_kind? (kind?_push_next ..)

/-- What a call unwraps from something live is live. -/
lemma result (live : h.Live v) : h.Live v.result := by
  cases v with
  | returning signal v => exact live
  | atom _ | ref _ => exact nofun

end Live

/-- A value that is looked up is undefined or stands in a field of an object. -/
lemma lookup_cases (h : Heap) (r name) :
    h.lookup r name = .undefined ∨
      ∃ s o, h.get? s = some o ∧ ∃ b ∈ o.fields, b.2 = h.lookup r name := by
  rw [lookup]
  cases hf : (h.scopes r).findSome? fun scope => h.own? scope name with
  | none => exact .inl rfl
  | some value =>
    obtain ⟨s, _, hs⟩ := List.exists_of_findSome?_eq_some hf
    obtain ⟨o, ho, hv⟩ := Option.bind_eq_some_iff.1 hs
    exact .inr ⟨s, o, ho, Fields.mem_of_get? hv⟩

/-- The function behind a value is an object that can be invoked. -/
lemma function?_eq_some {h : Heap} {v f} (hf : h.function? v = some f) :
    v = .ref f ∧ ((∃ code captured, h.kind? f = some (.closure code captured)) ∨
      ∃ name host arity, h.kind? f = some (.primitive name host arity)) := by
  unfold function? at hf
  split at hf
  · split at hf
    · cases hf
      exact ⟨rfl, .inl ⟨_, _, ‹_›⟩⟩
    · cases hf
      exact ⟨rfl, .inr ⟨_, _, _, ‹_›⟩⟩
    · cases hf
  · cases hf

/-- A function stays one. -/
lemma function?_mono {h h' : Heap} (hle : h ≤ h') {v f} (hf : h.function? v = some f) :
    h'.function? v = some f := by
  obtain ⟨rfl, ⟨code, captured, hk⟩ | ⟨name, host, arity, hk⟩⟩ := function?_eq_some hf
  all_goals simp only [function?, hle f _ hk]

/-- A scope that is an object is an environment, and the value stands for itself. -/
lemma scope?_eq_some {h : Heap} {v parent} (hscope : h.scope? v = some (some parent)) :
    v = .ref parent ∧ h.IsEnvironment parent := by
  unfold scope? at hscope
  split at hscope
  · split at hscope
    · cases hscope
      exact ⟨rfl, _, ‹_›⟩
    · cases hscope
  · cases hscope
  · cases hscope

/-- An environment stands for itself as a scope. -/
lemma IsEnvironment.scope? {h : Heap} {r} (henv : h.IsEnvironment r) :
    h.scope? (.ref r) = some (some r) := by
  obtain ⟨parent, hk⟩ := henv
  simp only [Heap.scope?, hk]

/-- The object behind a value is there. -/
lemma object?_eq_some {h : Heap} {v r} (hr : h.object? v = some r) : v = .ref r ∧ r.index < h.size := by
  unfold object? at hr
  split at hr
  · split at hr
    · cases hr
      exact ⟨rfl, ‹_›⟩
    · cases hr
  · cases hr

end Heap

end Scriptlet
