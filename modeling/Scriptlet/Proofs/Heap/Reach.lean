import Scriptlet.Proofs.Correspondence

/-!
# What can be reached in a heap

An object refers to what its fields hold, to the environment around it and to the scope it was made
in. What can be reached from values is what they are or carry, and what that refers to, and so on.
In a regular heap nothing refers to what is not there. Two heaps with the same objects where either
can be reached then correspond, each object to itself, whatever else is in them
(`Heap.Regular.between`).
-/

namespace Scriptlet

/-- The objects that an object refers to. -/
inductive Object.Refers (o : Object) : Ref → Prop where
  | field {b r} :
    b ∈ o.fields →
    b.2.ref? = some r →
    Refers o r
  | parent {r} :
    o.kind = .environment (some r) →
    Refers o r
  | captured {code v r} :
    o.kind = .closure code v →
    v.ref? = some r →
    Refers o r

namespace Heap

/-- The objects that can be reached from values. -/
inductive Reaches (h : Heap) (roots : List Value) : Ref → Prop where
  | root {v r} :
    v ∈ roots →
    v.ref? = some r →
    Reaches h roots r
  | step {r o s} :
    Reaches h roots r →
    h.get? r = some o →
    o.Refers s →
    Reaches h roots s

/-- What is referred to is there, and an environment is younger than the one around it. -/
structure Regular (h : Heap) : Prop where
  live : ∀ r o s, h.get? r = some o → o.Refers s → s.index < h.size
  older : ∀ r o p, h.get? r = some o → o.kind = .environment (some p) → p.index < r.index

/-- There is an object in each place below the size of the heap. -/
lemma get?_of_lt {h : Heap} {r : Ref} (hr : r.index < h.size) : ∃ o, h.get? r = some o :=
  ⟨_, Array.getElem?_eq_getElem hr⟩

/-- What can be reached in a regular heap from what is there is there as well. -/
lemma Regular.lt_size {h : Heap} (regular : h.Regular) {roots : List Value}
    (live : ∀ v ∈ roots, h.Live v) {r} (hr : h.Reaches roots r) : r.index < h.size := by
  cases hr with
  | root hv e => exact live _ hv _ e
  | step _ ho hs => exact regular.live _ _ _ ho hs

end Heap

namespace Correspondence

variable {C : Correspondence}

/-- A value corresponds to itself if what it refers to does. -/
lemma Values.of_ref? (hk : ∀ k, C.signals k k) {v : Value} (hr : ∀ r, v.ref? = some r → C.refs r r) :
    C.Values v v := by
  induction v with
  | atom => exact .atom
  | ref r => exact .ref (hr r rfl)
  | returning signal v ih => exact .returning (hk signal) (ih hr)

/-- An object corresponds to itself if all that it refers to does. -/
lemma Objects.of_refers (hk : ∀ k, C.signals k k) (hn : ∀ n, C.nodes n n) {r : Ref} {o : Object}
    (hrefs : ∀ s, o.Refers s → C.refs s s)
    (older : ∀ p, o.kind = .environment (some p) → p.index < r.index) : C.Objects r r o o := by
  obtain ⟨kind, fields⟩ := o
  constructor
  · cases kind with
    | plain => exact .plain
    | environment parent =>
      cases parent with
      | none => exact .outermost
      | some p => exact .environment (hrefs p (.parent rfl)) (older p rfl) (older p rfl)
    | closure code captured =>
      exact .closure (hn _) (.of_ref? hk fun s hs => hrefs s (.captured rfl hs))
    | primitive => exact .primitive
  · refine List.forall₂_same.2 fun b hb => ⟨rfl, ?_⟩
    exact .of_ref? hk fun s hs => hrefs s (.field hb hs)

/-- What corresponds to something is live. -/
lemma Between.live {h h' : Heap} (between : C.Between h h') {v w} (hv : C.Values v w) :
    h.Live v := by
  induction hv with
  | atom => exact nofun
  | ref hr => exact .of_lt (between.lt_size hr).1
  | returning _ _ ih => exact ih

/-- A heap in which every object stands for itself is regular. -/
lemma Between.regular {h : Heap} (between : C.Between h h)
    (hall : ∀ r, r.index < h.size → C.refs r r) : h.Regular := by
  have alike : ∀ r o, h.get? r = some o → C.Objects r r o o := by
    intro r o ho
    have hr := hall r (Heap.lt_size_of_kind? (Heap.kind?_of_get? ho))
    obtain ⟨p, p', hp, hp', alike⟩ := between r r hr
    obtain rfl := Option.some.inj (ho.symm.trans hp)
    obtain rfl := Option.some.inj (ho.symm.trans hp')
    exact alike
  constructor
  · intro r o s ho hs
    obtain ⟨hkind, hfields⟩ := alike r o ho
    cases hs with
    | field hb e => exact between.live (List.forall₂_same.1 hfields _ hb).2 s e
    | parent e =>
      rw [e] at hkind
      cases hkind with
      | environment hp => exact (between.lt_size hp).1
    | captured e hs =>
      rw [e] at hkind
      cases hkind with
      | closure _ hv => exact between.live hv s hs
  · intro r o p ho e
    have hkind := (alike r o ho).kind
    rw [e] at hkind
    cases hkind with
    | environment _ hlt => exact hlt

/-- What can be reached from values in a heap stands for itself. -/
def reachable (h : Heap) (roots : List Value) : Correspondence where
  refs r r' := r = r' ∧ h.Reaches roots r
  signals := Eq
  nodes := Eq
  left_unique hr hr' := hr.1.symm.trans hr'.1
  right_unique hr hr' := hr.1.trans hr'.1.symm
  matches_of_nodes := .of_eq

/-- What is reachable stays in its place. -/
lemma reachable_inPlace {h : Heap} {roots : List Value} : (reachable h roots).InPlace :=
  ⟨fun hr => hr.1, id⟩

end Correspondence

/-- A regular heap corresponds to any that has the same objects where they can be reached. -/
theorem Heap.Regular.between {h h' : Heap} (regular : h.Regular) {roots : List Value}
    (live : ∀ v ∈ roots, h.Live v) (same : ∀ r, h.Reaches roots r → h'.get? r = h.get? r) :
    (Correspondence.reachable h roots).Between h h' := by
  rintro r _ ⟨rfl, hr⟩
  obtain ⟨o, ho⟩ := Heap.get?_of_lt (regular.lt_size live hr)
  refine ⟨o, o, ho, (same r hr).trans ho, ?_⟩
  refine .of_refers (fun _ => rfl) (fun _ => rfl) (fun s hs => ⟨rfl, hr.step ho hs⟩) ?_
  exact fun p => regular.older r o p ho

end Scriptlet
