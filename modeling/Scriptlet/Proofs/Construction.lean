import Scriptlet.Proofs.Identity
import Scriptlet.Proofs.Reached

/-!
# Making objects

A plain object is made before its fields are evaluated, and each field is bound as soon as it has
its value. Nothing that happens in between can tell: no reference to the object is handed out before
it is complete, so whatever is evaluated meanwhile does not change it, refers to it nowhere and does
not depend on what stands in it (`Watched.Spares`). Hence the object holds just what its
initializers evaluated to, in their order, and if one of them fails, what there is of the object is
lost for good (`State.Reached.construction_exact`).

What evaluation depends on is told by two runs side by side, from states that differ in nothing but
hidden objects.
-/

namespace Scriptlet

namespace Correspondence

variable {h h' : Heap} {hidden : Ref → Prop}

/-- Every object of a heap stands for itself, hidden ones apart. -/
def unhidden (h : Heap) (hidden : Ref → Prop) : Correspondence where
  refs r r' := r = r' ∧ r.index < h.size ∧ ¬ hidden r
  signals := Eq
  nodes := Eq
  left_unique hr hr' := hr.1.symm.trans hr'.1
  right_unique hr hr' := hr.1.trans hr'.1.symm
  matches_of_nodes := .of_eq

/-- A correspondence that only leaves out hidden objects keeps the rest in place. -/
lemma unhidden_inPlace : (unhidden h hidden).InPlace :=
  ⟨fun hr => hr.1, id⟩

/-- A heap corresponds to any that differs in hidden objects only. -/
lemma between_unhidden (hides : h.Hides hidden) (same : ∀ r, ¬ hidden r → h'.get? r = h.get? r) :
    (unhidden h hidden).Between h h' := by
  rintro r _ ⟨rfl, hlt, hr⟩
  obtain ⟨o, ho⟩ := Heap.get?_of_lt hlt
  refine ⟨o, o, ho, (same r hr).trans ho, ?_⟩
  refine .of_refers (fun _ => rfl) (fun _ => rfl) (fun t ht => ⟨rfl, ?_⟩) ?_
  · exact hides.clear_of_refers ho ht t rfl
  · exact fun p => hides.regular.older r o p ho

end Correspondence

namespace Coupling

variable {s s' t t' : State} {hidden : Ref → Prop} {chatty : Bool}
  {between : (Correspondence.unhidden s.heap hidden).Between s.heap s'.heap}

/-- Two runs that started with heaps that differ in hidden objects only have come to such heaps. -/
lemma States.get?_eq (states : (lockstep between chatty).States t t')
    (hsize : s'.heap.size = s.heap.size) (hsignals : s'.signals = s.signals)
    (hle : s.heap.size ≤ t.heap.size) {r} (hr : ¬ hidden r) : t'.heap.get? r = t.heap.get? r := by
  have inPlace : ((lockstep between chatty).upTo t).InPlace := by
    constructor
    · rintro r r' ⟨h | ⟨i, hi, hi'⟩, _⟩
      · exact h.1
      · have hindex : r.index = r'.index := by rw [hi, hi', hsize]
        exact congrArg Ref.mk hindex
    · rintro k k' (h | ⟨i, hi, hi'⟩)
      · exact h
      · rw [hi, hi', hsignals]
  by_cases hlt : r.index < t.heap.size
  · have hrefs : ((lockstep between chatty).upTo t).refs r r := by
      refine ⟨?_, hlt⟩
      by_cases hlt₀ : r.index < s.heap.size
      · exact .inl ⟨rfl, hlt₀, hr⟩
      · exact .inr ⟨r.index - s.heap.size, by omega, by omega⟩
    obtain ⟨o, o', ho, ho', alike⟩ := states.between r r hrefs
    rw [ho, ho', inPlace.object_eq id alike]
  · -- the runs have made as many objects
    have hsize' : t'.heap.size = t.heap.size := by
      obtain ⟨_, hlt₀, _⟩ | ⟨i, hi, hi'⟩ := states.fresh 0
      · exact absurd hlt₀ (Nat.not_lt.2 hle)
      · have hi : t.heap.size + 0 = s.heap.size + i := hi
        have hi' : t'.heap.size + 0 = s'.heap.size + i := hi'
        omega
    have hnone : ∀ h : Heap, h.size = t.heap.size → h.get? r = none := by
      intro h e
      rw [← e] at hlt
      exact Array.getElem?_eq_none (Nat.le_of_not_lt hlt)
    rw [hnone _ hsize', hnone _ rfl]

/-- So have two runs that end alike. -/
lemma Ends.get?_eq {α α' : Type} {post : Correspondence → α → α' → Prop} {q : Result α}
    {q' : Result α'} (hends : (lockstep between chatty).Ends s.heap.size post q q')
    (hsize : s'.heap.size = s.heap.size) (hsignals : s'.signals = s.signals) {r}
    (hr : ¬ hidden r) : (Eval.final q').heap.get? r = (Eval.final q).heap.get? r := by
  cases hends with
  | ok hle states => exact states.get?_eq hsize hsignals hle hr
  | error hle states => exact states.get?_eq hsize hsignals hle hr

end Coupling

namespace Heap.Hides

variable {s : State} {hidden : Ref → Prop} {env : Ref}

/-- An evaluation in a scope that is not hidden does not depend on what is. -/
theorem evaluate_eq (hides : s.heap.Hides hidden) (henv : s.heap.Clear hidden (.ref env))
    {h : Heap} (hsize : h.size = s.heap.size) (same : ∀ r, ¬ hidden r → h.get? r = s.heap.get? r)
    (chatty depth n) :
    Eval.visible (evaluate chatty depth n env { s with heap := h }) =
        Eval.visible (evaluate chatty depth n env s) ∧
      ∀ r, ¬ hidden r →
        (Eval.final (evaluate chatty depth n env { s with heap := h })).heap.get? r =
          (Eval.final (evaluate chatty depth n env s)).heap.get? r := by
  have between : (Correspondence.unhidden s.heap hidden).Between s.heap
      ({ s with heap := h } : State).heap := Correspondence.between_unhidden hides same
  have hrefs : (Correspondence.unhidden s.heap hidden).refs env env :=
    ⟨rfl, henv env rfl⟩
  constructor
  · have agree := Correspondence.agree_evaluate chatty depth (fun _ _ => Iff.rfl) between n hrefs
    exact agree.visible_eq Correspondence.unhidden_inPlace hsize
  · intro r hr
    have states : (Coupling.lockstep between chatty).States s { s with heap := h } :=
      Coupling.states_lockstep
    have hends : (Coupling.lockstep between chatty).Runs (evaluate chatty depth n env)
        (evaluate chatty depth n env) s { s with heap := h } Correspondence.Values :=
      Coupling.evaluate depth states rfl (Coupling.le_lockstep.1 _ _ hrefs)
    exact hends.get?_eq hsize rfl hr

end Heap.Hides

/-- A computation that an object is no part of: it never changes the object, no event of it carries
a reference to it, nothing comes to refer to it, and whatever stands in the object, the computation
ends alike, puts out the same and leaves all other objects the same. -/
structure Watched.Spares (x : Watched Value) (object : Ref) (s : State) : Prop where
  unchanged : ∀ m ∈ (x s).1, m.state.heap.get? object = s.heap.get? object
  unnoticed : ∀ m ∈ (x s).1, ∀ v ∈ m.event.values, v.ref? ≠ some object
  isolated : ∀ m ∈ (x s).1, m.state.heap.Isolates object
  unread : ∀ h : Heap, h.size = s.heap.size → (∀ r, r ≠ object → h.get? r = s.heap.get? r) →
    Eval.visible (x.erase { s with heap := h }) = Eval.visible (x.erase s) ∧
      ∀ r, r ≠ object →
        (Eval.final (x.erase { s with heap := h })).heap.get? r =
          (Eval.final (x.erase s)).heap.get? r

/-- The initializers of an object are evaluated in an environment, in order, up to the first that
ends in an error if one does. Each finds the object with exactly what the earlier ones evaluated to,
and the object is no part of its evaluation. -/
inductive Construction (chatty : Bool) (depth : Nat) (env object : Ref) :
    List (String × Node) → Fields → State → Option Error → Fields → State → Prop where
  | done {bound s} :
    s.heap.get? object = some ⟨.plain, bound⟩ →
    Construction chatty depth env object [] bound s none bound s
  | next {name init rest bound s v s₁ e bound' s'} :
    s.heap.get? object = some ⟨.plain, bound⟩ →
    (Watched.evaluate chatty depth .operand init env).Spares object s →
    evaluate chatty depth init env s = .ok v s₁ →
    Construction chatty depth env object rest (bound ++ [(name, v)])
      { s₁ with heap := s₁.heap.register object name v } e bound' s' →
    Construction chatty depth env object ((name, init) :: rest) bound s e bound' s'
  | fail {name init rest bound s e s'} :
    s.heap.get? object = some ⟨.plain, bound⟩ →
    (Watched.evaluate chatty depth .operand init env).Spares object s →
    evaluate chatty depth init env s = .error e s' →
    Construction chatty depth env object ((name, init) :: rest) bound s (some e) bound s'

/-- A new name goes to the end. -/
lemma Fields.insert_of_not_mem {fields : Fields} {name} (hname : name ∉ fields.names) (v : Value) :
    fields.insert name v = fields ++ [(name, v)] := by
  induction fields with
  | nil => rfl
  | cons entry rest ih =>
    obtain ⟨key, old⟩ := entry
    obtain ⟨hkey, hrest⟩ := not_or.1 (mt List.mem_cons.2 hname)
    rw [insert, if_neg (Ne.symm hkey), ih hrest]
    rfl

namespace Heap

variable {s : State} {env object : Ref}

/-- A plain object is hidden as long as no reference to it is handed out. -/
lemma Regular.hides_next {h : Heap} (regular : h.Regular) :
    (h.push ⟨.plain, []⟩).Hides (· = h.next) := by
  have hides : (h.push ⟨.plain, []⟩).Hides fun _ => False :=
    regular.hides.push fun t ht => absurd ht Object.not_refers_plain
  refine ⟨hides.regular, ?_, ?_⟩
  · rintro _ rfl
    exact lt_size_of_kind? (kind?_push_next ..)
  · rintro r o _ ho ht rfl
    obtain ho | ⟨_, rfl⟩ := get?_push_cases ho
    · exact Nat.lt_irrefl _ (regular.live r o _ ho ht)
    · exact Object.not_refers_plain ht

/-- A hidden object is no part of an evaluation in a scope that is not hidden. -/
lemma Hides.spares (hides : s.heap.Hides (· = object)) (henv : s.heap.Clear (· = object) (.ref env))
    (chatty depth p n) : (Watched.evaluate chatty depth p n env).Spares object s := by
  have path := (hides.runs_evaluate henv chatty depth p n).path
  have clear := Contract.permits_unaware path (hides.ready henv)
  refine ⟨(path.get?_hidden (hides.ready henv) rfl).1, ?_, fun m hm => (clear m hm).1.isolates, ?_⟩
  · exact fun m hm v hv e => ((clear m hm).2 v hv object e).2 rfl
  · intro h hsize same
    rw [Watched.erase_evaluate]
    exact hides.evaluate_eq henv hsize same chatty depth n

/-- What an evaluation in a scope that is not hidden leaves of what is. -/
lemma Hides.after_evaluate {hidden : Ref → Prop} (hides : s.heap.Hides hidden)
    (henv : s.heap.Clear hidden (.ref env)) {chatty depth n} {s' : State}
    (hs' : Eval.final (evaluate chatty depth n env s) = s') :
    s.heap ≤ s'.heap ∧ s'.heap.Hides hidden ∧
      (∀ r, hidden r → s'.heap.get? r = s.heap.get? r) ∧
      ∀ v, Eval.outcome (evaluate chatty depth n env s) = .ok v → s'.heap.Clear hidden v := by
  obtain ⟨path, post⟩ := hides.runs_evaluate henv chatty depth .operand n
  have hresult : (Watched.evaluate chatty depth .operand n env s).2 =
      evaluate chatty depth n env s :=
    congrFun (Watched.erase_evaluate chatty depth .operand n env) s
  rw [hresult, hs'] at path post
  exact ⟨path.le, (path.typed hides.typed).fit,
    fun r hr => (path.get?_hidden (hides.ready henv) hr).2, post⟩

/-- The initializers of a hidden object make it what it comes to be, and leave it hidden. -/
lemma Hides.constructs (chatty depth) {fields : List (String × Node)} {bound : Fields}
    (hides : s.heap.Hides (· = object)) (henv : s.heap.Clear (· = object) (.ref env))
    (hobject : s.heap.get? object = some ⟨.plain, bound⟩)
    (nodup : (bound.names ++ fields.map Prod.fst).Nodup) :
    ∃ e bound' s', Construction chatty depth env object fields bound s e bound' s' ∧
      s'.heap.get? object = some ⟨.plain, bound'⟩ ∧ s'.heap.Hides (· = object) ∧
      (e = none → bound'.names = bound.names ++ fields.map Prod.fst ∧
        Eval.initializers (evaluate chatty depth) env object fields s = .ok () s') ∧
      ∀ err, e = some err →
        Eval.initializers (evaluate chatty depth) env object fields s = .error err s' := by
  induction fields generalizing bound s with
  | nil =>
    exact ⟨none, bound, s, .done hobject, hobject, hides,
      fun _ => ⟨(List.append_nil _).symm, rfl⟩, nofun⟩
  | cons field rest ih =>
    obtain ⟨name, init⟩ := field
    have spares := hides.spares henv chatty depth .operand init
    cases hr : evaluate chatty depth init env s with
    | error err s₁ =>
      have hfinal : Eval.final (evaluate chatty depth init env s) = s₁ := congrArg Eval.final hr
      obtain ⟨_, hides₁, hsame, _⟩ := hides.after_evaluate henv hfinal
      refine ⟨some err, bound, s₁, .fail hobject spares hr, (hsame object rfl).trans hobject,
        hides₁, nofun, ?_⟩
      rintro _ ⟨⟩
      exact Eval.bind_run_of_error hr _
    | ok v s₁ =>
      have hfinal : Eval.final (evaluate chatty depth init env s) = s₁ := congrArg Eval.final hr
      obtain ⟨hle, hides₁, hsame, hclear⟩ := hides.after_evaluate henv hfinal
      have hv := hclear v (congrArg Eval.outcome hr)
      have hname : name ∉ bound.names :=
        fun h => (List.nodup_append.1 nodup).2.2 name h name List.mem_cons_self rfl
      have hnames : Fields.names (bound ++ [(name, v)]) = bound.names ++ [name] := by
        simp only [Fields.names, List.map_append, List.map_cons, List.map_nil]
      have hobject₁ : (s₁.heap.register object name v).get? object =
          some ⟨.plain, bound ++ [(name, v)]⟩ := by
        rw [get?_register_self, hsame object rfl, hobject, ← Fields.insert_of_not_mem hname]
        rfl
      have nodup₁ : (Fields.names (bound ++ [(name, v)]) ++ rest.map Prod.fst).Nodup := by
        rw [hnames, List.append_assoc]
        exact nodup
      obtain ⟨e, bound', s', made, hobject', hides', hok, herror⟩ :=
        ih (s := { s₁ with heap := s₁.heap.register object name v }) (hides₁.register hv)
          (henv.mono (le_trans hle (le_register s₁.heap object name v))) hobject₁ nodup₁
      have hrun : Eval.initializers (evaluate chatty depth) env object ((name, init) :: rest) s =
          Eval.initializers (evaluate chatty depth) env object rest
            { s₁ with heap := s₁.heap.register object name v } :=
        Eval.bind_run_of_ok hr _
      rw [hrun]
      refine ⟨e, bound', s', .next hobject spares hr made, hobject', hides', fun he => ?_, herror⟩
      obtain ⟨hbound, hrest⟩ := hok he
      rw [hnames, List.append_assoc] at hbound
      exact ⟨hbound, hrest⟩

end Heap

/-- In a state that is reached, in the scope of an object that is there: a new plain object gets a
reference that was not given out before, and holds exactly the values of its initializers, under
their names and in their order, which are evaluated one after another in that scope. It is complete
before any reference to it is handed out, whatever they do. If one of them ends in an error, that is
how it all ends, and no reference to what there is of the object is ever handed out. -/
theorem State.Reached.construction_exact {s : State} (reached : s.Reached) {env : Ref}
    (henv : env.index < s.heap.size) {fields : List (String × Node)}
    (nodup : (fields.map Prod.fst).Nodup) (chatty : Bool) (depth : Nat) (line : Int) :
    s.heap.get? s.heap.next = none ∧
      ∃ e bound s', Construction chatty depth env s.heap.next fields []
          { s with heap := s.heap.push ⟨.plain, []⟩ } e bound s' ∧
        s'.heap.get? s.heap.next = some ⟨.plain, bound⟩ ∧
        (∀ b ∈ bound, b.2.ref? ≠ some s.heap.next) ∧
        s'.heap.Isolates s.heap.next ∧
        (e = none → bound.names = fields.map Prod.fst ∧
          evaluate chatty (depth + 1) (.object fields line) env s = .ok (.ref s.heap.next) s') ∧
        ∀ err, e = some err →
          evaluate chatty (depth + 1) (.object fields line) env s = .error err s' := by
  have hides := reached.regular.hides_next
  have henv' : (s.heap.push ⟨.plain, []⟩).Clear (· = s.heap.next) (.ref env) := by
    refine .of_ref (Heap.lt_size_of_le (Heap.le_push s.heap _) henv) ?_
    rintro rfl
    exact Nat.lt_irrefl _ henv
  obtain ⟨e, bound, s', made, hobject, hides', hok, herror⟩ :=
    Heap.Hides.constructs (s := { s with heap := s.heap.push ⟨.plain, []⟩ }) chatty depth hides
      henv' (Heap.get?_push_next ..) nodup
  refine ⟨Array.getElem?_eq_none (Nat.le_refl _), e, bound, s', made, hobject, ?_,
    hides'.isolates, ?_, ?_⟩
  · intro b hb hr
    exact hides'.unreferred _ _ _ hobject (.field hb hr) rfl
  · intro he
    obtain ⟨hbound, hrun⟩ := hok he
    exact ⟨hbound, Eval.bind_run_of_ok hrun _⟩
  · intro err he
    exact Eval.bind_run_of_error (herror err he) _

/-- The initializers of an object with a string, with another object, and with what a call makes. -/
def nestedFields : List (String × Node) :=
  [("a", .literal (.str "x") 1), ("b", .object [("c", .var "print" 1)] 1),
    ("d", .call (.function none [] (.ret (.object [] 1) 1) 1) [] 1)]

/-- The state that a script without instructions starts in. -/
def bareStart : State := Script.start ⟨.block [] 1⟩ .quiet

/-- The object comes before the others that are made meanwhile, and holds two of them. -/
theorem State.Reached.construction_exact_nestedFields :
    bareStart.Reached ∧ Script.scope.index < bareStart.heap.size ∧
      (nestedFields.map Prod.fst).Nodup ∧
      (∃ e bound s', Construction false 8 Script.scope bareStart.heap.next nestedFields []
          { bareStart with heap := bareStart.heap.push ⟨.plain, []⟩ } e bound s' ∧
        s'.heap.get? bareStart.heap.next = some ⟨.plain, bound⟩ ∧
        (∀ b ∈ bound, b.2.ref? ≠ some bareStart.heap.next) ∧
        s'.heap.Isolates bareStart.heap.next ∧
        (e = none → bound.names = nestedFields.map Prod.fst ∧
          evaluate false 9 (.object nestedFields 1) Script.scope bareStart =
            .ok (.ref bareStart.heap.next) s') ∧
        ∀ err, e = some err →
          evaluate false 9 (.object nestedFields 1) Script.scope bareStart = .error err s') ∧
      bareStart.heap.next = ⟨13⟩ ∧
      Eval.outcome (evaluate false 9 (.object nestedFields 1) Script.scope bareStart) =
        .ok (.ref ⟨13⟩) ∧
      (Eval.final (evaluate false 9 (.object nestedFields 1) Script.scope bareStart)).heap.get?
          ⟨13⟩ =
        some ⟨.plain, [("a", .str "x"), ("b", .ref ⟨14⟩), ("d", .ref ⟨17⟩)]⟩ := by
  have reached : bareStart.Reached := .start
  have henv : Script.scope.index < bareStart.heap.size := by decide
  have nodup : (nestedFields.map Prod.fst).Nodup := by decide
  obtain ⟨_, made⟩ := State.Reached.construction_exact reached henv nodup false 8 1
  exact ⟨reached, henv, nodup, made, rfl, rfl, rfl⟩

end Scriptlet
