import Mathlib.Logic.Relation
import Scriptlet.Proofs.Heap.Reach

/-!
# Lookups

A lookup goes outwards from an object until the name is bound (`Heap.Finds`). In a heap where every
environment is younger than the one around it this comes to an end, and `Heap.lookup` is what it comes
to (`Heap.Layered.finds_iff`): the count of steps in its definition is never used up. When a name is
bound in an object, just the lookups of that name change that get to the object before anything else
that binds the name (`Heap.Meets`).

Main statements:
* `Heap.Layered.not_transGen`, `Heap.Layered.finds_iff`: no environment is around itself, and every
  lookup ends.
* `Heap.Layered.lookup_eq_iff`: a lookup yields the nearest binding, or undefined if there is none.
* `Heap.Layered.lookup_register_of_meets`, `Heap.Layered.lookup_register_of_not_meets`: which lookups
  a binding changes.
* `Heap.Layered.lookup_push_of_lt`: a new object changes none from objects that are there.
-/

namespace Scriptlet.Heap

/-- One object is the environment right around another. -/
def Encloses (h : Heap) (p r : Ref) : Prop :=
  h.parent? r = some p

/-- An environment is younger than the one around it. -/
def Layered (h : Heap) : Prop :=
  ∀ p r, h.Encloses p r → p.index < r.index

/-- What a lookup comes to from where it has got to; it may have left the outermost object. -/
inductive Finds (h : Heap) (name : String) : Option Ref → Value → Prop where
  | nowhere :
    Finds h name none .undefined
  | bound {r v} :
    h.own? r name = some v →
    Finds h name (some r) v
  | around {r v} :
    h.own? r name = none →
    Finds h name (h.parent? r) v →
    Finds h name (some r) v

/-- A lookup of a name from an object gets to another one, as nothing on its way binds the name. -/
inductive Meets (h : Heap) (name : String) : Ref → Ref → Prop where
  | here {r} :
    Meets h name r r
  | around {r p t} :
    h.own? r name = none →
    h.Encloses p r →
    Meets h name p t →
    Meets h name r t

variable {h : Heap} {name other : String} {p r s t : Ref} {v : Value}

/-- What is around an object is part of its kind. -/
lemma encloses_iff : h.Encloses p r ↔ h.kind? r = some (.environment (some p)) := by
  unfold Encloses parent?
  cases h.kind? r with
  | none => exact ⟨nofun, nofun⟩
  | some kind => cases kind <;> simp

/-- In a regular heap parents are older than what they enclose. -/
lemma Regular.layered (regular : h.Regular) : h.Layered := by
  intro p r hp
  obtain ⟨o, ho, hkind⟩ := Option.map_eq_some_iff.1 (encloses_iff.1 hp)
  exact regular.older r o p ho hkind

namespace Layered

variable (layered : h.Layered)
include layered

/-- Outwards from an object there are only so many others. -/
lemma wellFounded : WellFounded h.Encloses :=
  Subrelation.wf (fun hp => layered _ _ hp) (measure Ref.index).wf

/-- No environment is around itself. -/
theorem not_transGen (r : Ref) : ¬ Relation.TransGen h.Encloses r r := by
  have hlt : ∀ p r, Relation.TransGen h.Encloses p r → p.index < r.index := by
    intro p r hp
    induction hp with
    | single hp => exact layered _ _ hp
    | tail _ hp ih => exact Nat.lt_trans ih (layered _ _ hp)
  exact fun hr => Nat.lt_irrefl _ (hlt r r hr)

/-- It does not matter by how much the count of steps is too great. -/
lemma scopesWithin_eq {n m : Nat} (hn : r.index < n) (hm : r.index < m) :
    h.scopesWithin n r = h.scopesWithin m r := by
  induction n generalizing m r with
  | zero => exact absurd hn (Nat.not_lt_zero _)
  | succ n ih =>
    cases m with
    | zero => exact absurd hm (Nat.not_lt_zero _)
    | succ m =>
      rw [scopesWithin, scopesWithin]
      cases hp : h.parent? r with
      | none => rfl
      | some p =>
        have hlt := layered p r hp
        exact congrArg (r :: ·) (ih (by omega) (by omega))

/-- The objects in which a lookup looks are the first one and those for the environment around it. -/
lemma scopes_eq (r : Ref) : h.scopes r = r :: (h.parent? r).elim [] h.scopes := by
  rw [scopes, scopesWithin]
  cases hp : h.parent? r with
  | none => rfl
  | some p => exact congrArg (r :: ·) (layered.scopesWithin_eq (layered p r hp) (Nat.lt_succ_self _))

/-- A lookup yields what the object binds, or else what the lookup in the environment around it
yields. -/
lemma lookup_eq (r : Ref) (name : String) :
    h.lookup r name =
      (h.own? r name).getD ((h.parent? r).elim .undefined fun p => h.lookup p name) := by
  rw [lookup, layered.scopes_eq r, List.findSome?_cons]
  cases h.own? r name with
  | some v => rfl
  | none =>
    cases h.parent? r with
    | none => rfl
    | some p => rfl

/-- What is found from a scope on outwards is what looking up there gives. -/
lemma lookup_of_finds {start : Option Ref} (finds : h.Finds name start v) :
    start.elim .undefined (fun r => h.lookup r name) = v := by
  induction finds with
  | nowhere => rfl
  | @bound r v hown => exact (layered.lookup_eq r name).trans (by rw [hown]; rfl)
  | @around r v hown _ ih => exact (layered.lookup_eq r name).trans (by rw [hown]; exact ih)

/-- Every lookup in a layered heap finds something. -/
lemma finds_lookup (r : Ref) (name : String) : h.Finds name (some r) (h.lookup r name) := by
  induction r using layered.wellFounded.induction with
  | _ r ih =>
    rw [layered.lookup_eq]
    cases hown : h.own? r name with
    | some v => exact .bound hown
    | none =>
      refine .around hown ?_
      cases hp : h.parent? r with
      | none => exact .nowhere
      | some p => exact ih p hp

/-- Every lookup comes to an end, and to one value only. -/
theorem finds_iff : h.Finds name (some r) v ↔ h.lookup r name = v :=
  ⟨layered.lookup_of_finds, fun e => e ▸ layered.finds_lookup r name⟩

/-- Where a lookup gets to, it could as well have started. -/
lemma lookup_eq_of_meets (meets : h.Meets name r t) : h.lookup r name = h.lookup t name := by
  induction meets with
  | here => rfl
  | @around r p _ hown hp _ ih =>
    rw [layered.lookup_eq r name, hown, show h.parent? r = some p from hp]
    exact ih

/-- A scope's own binding comes before all others. -/
lemma lookup_of_own? (hown : h.own? r name = some v) : h.lookup r name = v := by
  rw [layered.lookup_eq, hown]
  rfl

/-- The binding of the first scope outwards that has one is what is found. -/
lemma lookup_of_meets (meets : h.Meets name r t) (hown : h.own? t name = some v) :
    h.lookup r name = v :=
  (layered.lookup_eq_of_meets meets).trans (layered.lookup_of_own? hown)

/-- A name that no scope from here on outwards binds is undefined. -/
lemma lookup_of_unbound
    (hnone : ∀ t, Relation.ReflTransGen h.Encloses t r → h.own? t name = none) :
    h.lookup r name = .undefined := by
  induction r using layered.wellFounded.induction with
  | _ r ih =>
    rw [layered.lookup_eq, hnone r .refl]
    cases hp : h.parent? r with
    | none => rfl
    | some p => exact ih p hp fun t ht => hnone t (ht.tail hp)

/-- A lookup gets to a binding, or there is none from the object outwards. -/
lemma meets_or_unbound (r : Ref) (name : String) :
    (∃ t v, h.Meets name r t ∧ h.own? t name = some v) ∨
      ∀ t, Relation.ReflTransGen h.Encloses t r → h.own? t name = none := by
  induction r using layered.wellFounded.induction with
  | _ r ih =>
    cases hown : h.own? r name with
    | some v => exact .inl ⟨r, v, .here, hown⟩
    | none =>
      -- what is around the object is around its parent, or is the parent
      by_cases hp : ∃ p, h.Encloses p r
      · obtain ⟨p, hp⟩ := hp
        obtain ⟨t, v, meets, ht⟩ | hnone := ih p hp
        · exact .inl ⟨t, v, .around hown hp meets, ht⟩
        · refine .inr fun t ht => ?_
          obtain rfl | ⟨q, hq, hqr⟩ := ht.cases_tail
          · exact hown
          · obtain rfl : p = q := Option.some.inj (hp.symm.trans hqr)
            exact hnone t hq
      · refine .inr fun t ht => ?_
        obtain rfl | ⟨q, _, hqr⟩ := ht.cases_tail
        · exact hown
        · exact absurd ⟨q, hqr⟩ hp

/-- A lookup yields the value of the nearest binding, whatever that is, and undefined if there is no
binding at all. -/
theorem lookup_eq_iff :
    h.lookup r name = v ↔
      (∃ t, h.Meets name r t ∧ h.own? t name = some v) ∨
        v = .undefined ∧ ∀ t, Relation.ReflTransGen h.Encloses t r → h.own? t name = none := by
  constructor
  · rintro rfl
    obtain ⟨t, v, meets, hown⟩ | hnone := layered.meets_or_unbound r name
    · exact .inl ⟨t, meets, (layered.lookup_of_meets meets hown).symm ▸ hown⟩
    · exact .inr ⟨layered.lookup_of_unbound hnone, hnone⟩
  · rintro (⟨t, meets, hown⟩ | ⟨rfl, hnone⟩)
    · exact layered.lookup_of_meets meets hown
    · exact layered.lookup_of_unbound hnone

end Layered

/-- Binding a field leaves parents as they are. -/
lemma parent?_register : (h.register s name v).parent? r = h.parent? r := by
  simp only [parent?, kind?_register]

/-- What is bound in an object is its own. -/
lemma own?_register_self (hr : r.index < h.size) : (h.register r name v).own? r name = some v := by
  obtain ⟨o, ho⟩ := get?_of_lt hr
  rw [own?, get?_register_self, ho]
  exact Fields.get?_insert_self o.fields name v

/-- Binding a name in an object changes no other name, and no other object. -/
lemma own?_register_of_ne (hne : ¬(r = s ∧ name = other)) :
    (h.register r name v).own? s other = h.own? s other := by
  by_cases hrs : r = s
  · subst hrs
    have hname : name ≠ other := fun e => hne ⟨rfl, e⟩
    rw [own?, own?, get?_register_self]
    cases h.get? r with
    | none => rfl
    | some o => exact Fields.get?_insert_of_ne hname o.fields v
  · rw [own?, own?, get?_register_of_ne hrs]

namespace Layered

variable (layered : h.Layered)
include layered

/-- Binding a field leaves a heap layered. -/
lemma register : (h.register r name v).Layered := by
  intro p s hp
  rw [Encloses, parent?_register] at hp
  exact layered p s hp

/-- A lookup that gets to an object finds what is bound there anew. -/
theorem lookup_register_of_meets (hr : r.index < h.size) (meets : h.Meets name s r) :
    (h.register r name v).lookup s name = v := by
  induction meets with
  | here => exact layered.register.lookup_of_own? (own?_register_self hr)
  | @around s p r hown hp _ ih =>
    by_cases hrs : r = s
    · subst hrs
      exact layered.register.lookup_of_own? (own?_register_self hr)
    · rw [layered.register.lookup_eq, own?_register_of_ne fun e => hrs e.1, hown, parent?_register,
        show h.parent? s = some p from hp]
      exact ih hr

/-- A lookup of another name, or one that does not get to the object, finds what it found before. -/
theorem lookup_register_of_not_meets (hne : ¬(other = name ∧ h.Meets name s r)) :
    (h.register r name v).lookup s other = h.lookup s other := by
  induction s using layered.wellFounded.induction with
  | _ s ih =>
    have hown : (h.register r name v).own? s other = h.own? s other := by
      refine own?_register_of_ne ?_
      rintro ⟨rfl, rfl⟩
      exact hne ⟨rfl, .here⟩
    rw [layered.register.lookup_eq, layered.lookup_eq, hown, parent?_register]
    cases hbound : h.own? s other with
    | some v => rfl
    | none =>
      cases hp : h.parent? s with
      | none => rfl
      | some p =>
        refine ih p hp ?_
        rintro ⟨rfl, meets⟩
        exact hne ⟨rfl, .around hbound hp meets⟩

end Layered

section Push

variable {object : Object}

/-- A new object leaves the parents of the others as they are. -/
lemma parent?_push_of_lt (hr : r.index < h.size) : (h.push object).parent? r = h.parent? r := by
  simp only [parent?, kind?, get?_push_of_lt hr]

/-- A new object leaves the bindings of the others as they are. -/
lemma own?_push_of_lt (hr : r.index < h.size) :
    (h.push object).own? r name = h.own? r name := by
  rw [own?, own?, get?_push_of_lt hr]

/-- A new object binds what its fields say. -/
@[simp]
lemma own?_push_next : (h.push object).own? h.next name = object.fields.get? name := by
  rw [own?, get?_push_next]
  rfl

namespace Layered

variable (layered : h.Layered)
include layered

/-- An object that is made in one that is there is younger than that one. -/
lemma push (hparent : ∀ p, object.kind = .environment (some p) → p.index < h.size) :
    (h.push object).Layered := by
  intro p r hp
  obtain ⟨o, ho, hkind⟩ := Option.map_eq_some_iff.1 (encloses_iff.1 hp)
  obtain hold | ⟨rfl, rfl⟩ := get?_push_cases ho
  · exact layered p r (encloses_iff.2 (hkind ▸ kind?_of_get? hold))
  · exact hparent p hkind

/-- A new object is not in the way of lookups from objects that were there before. -/
theorem lookup_push_of_lt (hpush : (h.push object).Layered) (hr : r.index < h.size) :
    (h.push object).lookup r name = h.lookup r name := by
  induction r using layered.wellFounded.induction with
  | _ r ih =>
    rw [hpush.lookup_eq, layered.lookup_eq, own?_push_of_lt hr, parent?_push_of_lt hr]
    cases h.own? r name with
    | some v => rfl
    | none =>
      cases hp : h.parent? r with
      | none => rfl
      | some p => exact ih p hp (Nat.lt_trans (layered p r hp) hr)

end Layered

end Push

end Scriptlet.Heap
