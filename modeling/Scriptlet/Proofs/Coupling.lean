import Scriptlet.Proofs.Correspondence.Text
import Scriptlet.Proofs.Eval.Operations

/-!
# Two runs side by side

Two runs that are at the same place of the script do the same: what one makes, the other makes as
well, as its next object or its next signal. So all that will ever correspond is known in advance. It
is what corresponds at the start, and then the objects and signals that are made at the same time. A
coupling says that, and what is to hold between the texts that the two runs put out.

Main definitions and statements:
* `Coupling`, `Coupling.States`: two runs, and the states they can be in at the same time.
* `Coupling.Runs`: two computations that end alike, with `Coupling.Runs.bind`.
-/

namespace Scriptlet

/-- The errors that correspond: the same ones, up to the site of a failure. -/
inductive Correspondence.Errors (C : Correspondence) : Error → Error → Prop where
  | failure {cause site site'} :
    Option.Rel C.nodes site site' →
    Errors C (.failure ⟨cause, site⟩) (.failure ⟨cause, site'⟩)
  | fault {f} :
    Errors C (.fault f) (.fault f)
  | tooDeep :
    Errors C .tooDeep .tooDeep

/-- What will correspond in the course of two runs, whether either traces its prints, and what holds
between the texts that they put out. -/
structure Coupling extends Correspondence where
  chatty : Bool
  chatty' : Bool
  writes : List String → List String → Prop
  chatter : String → String → Prop
  writes_append {ws ws' text} : writes ws ws' → writes (ws ++ [text]) (ws' ++ [text])
  chatter_append {out out' text} : chatter out out' →
    chatter (out ++ if chatty then text else "") (out' ++ if chatty' then text else "")

namespace Coupling

variable {c : Coupling} {s s' : State} {α α' β β' : Type}

/-- What corresponds so far, when the first run is in this state. -/
def upTo (c : Coupling) (s : State) : Correspondence where
  refs r r' := c.refs r r' ∧ r.index < s.heap.size
  signals := c.signals
  nodes := c.nodes
  left_unique hr hr' := c.left_unique hr.1 hr'.1
  right_unique hr hr' := c.right_unique hr.1 hr'.1
  matches_of_nodes := c.matches_of_nodes

/-- The states that two runs are in at the same time. -/
structure States (c : Coupling) (s s' : State) : Prop where
  between : (c.upTo s).Between s.heap s'.heap
  fresh : ∀ i, c.refs ⟨s.heap.size + i⟩ ⟨s'.heap.size + i⟩
  signals : ∀ i, c.signals (s.signals + i) (s'.signals + i)
  writes : c.writes s.writes s'.writes
  chatter : c.chatter s.chatter s'.chatter

/-- Two ends that are alike: values as stated, or errors that correspond. So many objects are there
at least. -/
inductive Ends (c : Coupling) (size : Nat) (post : Correspondence → α → α' → Prop) :
    Result α → Result α' → Prop where
  | ok {a a' s s'} :
    size ≤ s.heap.size →
    c.States s s' →
    post (c.upTo s) a a' →
    Ends c size post (.ok a s) (.ok a' s')
  | error {e e' s s'} :
    size ≤ s.heap.size →
    c.States s s' →
    (c.upTo s).Errors e e' →
    Ends c size post (.error e s) (.error e' s')

/-- Two computations that end alike from these states. -/
abbrev Runs (c : Coupling) (x : Eval α) (x' : Eval α') (s s' : State)
    (post : Correspondence → α → α' → Prop) : Prop :=
  c.Ends s.heap.size post (x s) (x' s')

/-- The references that correspond in a small heap do so in a larger one. -/
lemma upTo_mono {t : State} (hle : s.heap.size ≤ t.heap.size) : c.upTo s ≤ c.upTo t :=
  ⟨fun _ _ hr => ⟨hr.1, Nat.lt_of_lt_of_le hr.2 hle⟩, fun _ _ hk => hk, fun _ _ hn => hn⟩

namespace States

/-- New objects that are alike leave states that correspond. -/
lemma push (states : c.States s s') {o o' : Object}
    (alike : (c.upTo s).Objects s.heap.next s'.heap.next o o') :
    c.States { s with heap := s.heap.push o } { s' with heap := s'.heap.push o' } := by
  have hsize : (s.heap.push o).size = s.heap.size + 1 := Heap.size_push ..
  have hsize' : (s'.heap.push o').size = s'.heap.size + 1 := Heap.size_push ..
  have hle : s.heap.size ≤ (s.heap.push o).size := hsize ▸ Nat.le_succ _
  refine ⟨?_, fun i => ?_, states.signals, states.writes, states.chatter⟩
  · rintro r r' ⟨hr, hlt⟩
    obtain hlt | heq := Nat.lt_or_eq_of_le (Nat.le_of_lt_succ (hsize ▸ hlt))
    · obtain ⟨p, p', hp, hp', hpp⟩ := states.between r r' ⟨hr, hlt⟩
      have hlt' := (states.between.lt_size ⟨hr, hlt⟩).2
      refine ⟨p, p', ?_, ?_, hpp.mono (upTo_mono hle)⟩
      · rw [Heap.get?_push_of_lt hlt, hp]
      · rw [Heap.get?_push_of_lt hlt', hp']
    · -- the new objects, which correspond to each other and to nothing else
      have hr₀ : r = s.heap.next := congrArg Ref.mk heq
      subst hr₀
      have hr₁ : r' = s'.heap.next := c.left_unique hr (states.fresh 0)
      subst hr₁
      exact ⟨o, o', Heap.get?_push_next .., Heap.get?_push_next .., alike.mono (upTo_mono hle)⟩
  · have hnext := states.fresh (i + 1)
    rw [Nat.add_comm i, ← Nat.add_assoc, ← Nat.add_assoc, ← hsize, ← hsize'] at hnext
    exact hnext

/-- Binding values that correspond leaves states that correspond. -/
lemma register (states : c.States s s') {r r' name v v'} (hr : (c.upTo s).refs r r')
    (hv : (c.upTo s).Values v v') :
    c.States { s with heap := s.heap.register r name v }
      { s' with heap := s'.heap.register r' name v' } := by
  have hsize : (s.heap.register r name v).size = s.heap.size := Heap.size_register ..
  have hsize' : (s'.heap.register r' name v').size = s'.heap.size := Heap.size_register ..
  refine ⟨?_, fun i => ?_, states.signals, states.writes, states.chatter⟩
  · intro t t' ht
    have ht₀ : (c.upTo s).refs t t' := ⟨ht.1, hsize ▸ ht.2⟩
    obtain ⟨o, o', ho, ho', alike⟩ := states.between.register hr name hv t t' ht₀
    exact ⟨o, o', ho, ho', alike.mono (upTo_mono (Nat.le_of_eq hsize.symm))⟩
  · exact hsize.symm ▸ hsize'.symm ▸ states.fresh i

/-- Making a signal each leaves states that correspond. -/
lemma signal (states : c.States s s') :
    c.States { s with signals := s.signals + 1 } { s' with signals := s'.signals + 1 } := by
  refine ⟨states.between, states.fresh, fun i => ?_, states.writes, states.chatter⟩
  have hnext := states.signals (i + 1)
  rwa [Nat.add_comm i, ← Nat.add_assoc, ← Nat.add_assoc] at hnext

/-- Writing the same to the sink leaves states that correspond. -/
lemma write (states : c.States s s') (text : String) :
    c.States { s with writes := s.writes ++ [text] } { s' with writes := s'.writes ++ [text] } :=
  ⟨states.between, states.fresh, states.signals, c.writes_append states.writes, states.chatter⟩

/-- Putting the same on the console, on each side only if it is chatty, leaves states that
correspond. -/
lemma chat (states : c.States s s') (text : String) :
    c.States { s with chatter := s.chatter ++ if c.chatty then text else "" }
      { s' with chatter := s'.chatter ++ if c.chatty' then text else "" } :=
  ⟨states.between, states.fresh, states.signals, states.writes, c.chatter_append states.chatter⟩

end States

namespace Runs

variable {post : Correspondence → α → α' → Prop} {post' : Correspondence → β → β' → Prop}

/-- Values that correspond are ends that are alike. -/
lemma pure {a a'} (states : c.States s s') (ha : post (c.upTo s) a a') :
    c.Runs (pure a) (pure a') s s' post :=
  .ok (Nat.le_refl _) states ha

/-- One computation after another. What corresponds before does so afterwards. -/
lemma bind {x : Eval α} {x' : Eval α'} {f : α → Eval β} {f' : α' → Eval β'}
    (hx : c.Runs x x' s s' post)
    (hf : ∀ a a' t t', c.upTo s ≤ c.upTo t → c.States t t' → post (c.upTo t) a a' →
      c.Runs (f a) (f' a') t t' post') :
    c.Runs (x >>= f) (x' >>= f') s s' post' := by
  rw [Runs] at hx ⊢
  generalize hr : x s = r at hx
  generalize hr' : x' s' = r' at hx
  cases hx with
  | ok hle states ha =>
    rw [Eval.bind_run_of_ok hr, Eval.bind_run_of_ok hr']
    have hrest := hf _ _ _ _ (upTo_mono hle) states ha
    rw [Runs] at hrest
    generalize f _ _ = q at hrest
    generalize f' _ _ = q' at hrest
    cases hrest with
    | ok hle' states' hb => exact .ok (Nat.le_trans hle hle') states' hb
    | error hle' states' he => exact .error (Nat.le_trans hle hle') states' he
  | error hle states he =>
    rw [Eval.bind_run_of_error hr, Eval.bind_run_of_error hr']
    exact .error hle states he

/-- After what only looks at the heaps, the next computations start where that did. -/
lemma read_bind {g : Heap → Except Fault α} {g' : Heap → Except Fault α'} {f : α → Eval β}
    {f' : α' → Eval β'} {a a'} (hg : g s.heap = .ok a) (hg' : g' s'.heap = .ok a')
    (hf : c.Runs (f a) (f' a') s s' post') :
    c.Runs (Eval.read g >>= f) (Eval.read g' >>= f') s s' post' := by
  have hread : Eval.read g s = .ok a s := by simp only [Eval.read, hg]
  have hread' : Eval.read g' s' = .ok a' s' := by simp only [Eval.read, hg']
  rw [Runs, Eval.bind_run_of_ok hread, Eval.bind_run_of_ok hread']
  exact hf

/-- What is read alike from the heaps goes on alike. -/
lemma read {g : Heap → Except Fault α} {g' : Heap → Except Fault α} (states : c.States s s')
    (hg : g s.heap = g' s'.heap) : c.Runs (Eval.read g) (Eval.read g') s s' fun _ a a' => a = a' := by
  rw [Runs, Eval.read, Eval.read, hg]
  cases g' s'.heap with
  | ok a => exact .ok (Nat.le_refl _) states rfl
  | error f => exact .error (Nat.le_refl _) states .fault

/-- Atoms that are read alike from the heaps are answered alike. -/
lemma answer {g g' : Heap → Except Fault Value} (states : c.States s s') (hg : g s.heap = g' s'.heap)
    (hatom : ∀ v, g s.heap = .ok v → ∃ a, v = .atom a) :
    c.Runs (Eval.read g) (Eval.read g') s s' Correspondence.Values := by
  rw [Runs, Eval.read, Eval.read, ← hg]
  cases hv : g s.heap with
  | ok v =>
    obtain ⟨a, rfl⟩ := hatom v hv
    exact .ok (Nat.le_refl _) states .atom
  | error f => exact .error (Nat.le_refl _) states .fault

/-- Failures of one cause at nodes that correspond are alike. -/
lemma fail {cause site site'} (states : c.States s s') (hn : Option.Rel c.nodes site site') :
    c.Runs (Eval.fail cause site) (Eval.fail cause site') s s' post :=
  .error (Nat.le_refl _) states (.failure hn)

/-- A fault is like itself. -/
lemma fault {f} (states : c.States s s') : c.Runs (Eval.fault f) (Eval.fault f) s s' post :=
  .error (Nat.le_refl _) states .fault

/-- Primitives that ask for as many arguments refuse calls alike. -/
lemma refuse {name expected got} (states : c.States s s') :
    c.Runs (Eval.refuse name expected got) (Eval.refuse name expected got) s s'
      Correspondence.Values :=
  (read states rfl).bind fun _ _ _ _ _ states' _ => fail states' .none

/-- Values that correspond are shown alike in a failure. -/
lemma show_fail {v v' site site'} (cause : String → Failure.Cause) (states : c.States s s')
    (hv : (c.upTo s).Values v v') (hn : c.nodes site site') :
    c.Runs
      (do
        let shown ← Eval.read fun h => h.text v
        Eval.fail (cause shown) (some site))
      (do
        let shown ← Eval.read fun h => h.text v'
        Eval.fail (cause shown) (some site')) s s' post := by
  refine (read states (states.between.text hv)).bind fun shown shown' t t' _ states' heq => ?_
  subst heq
  exact fail states' (.some hn)

/-- Making objects that are alike answers references that correspond. -/
lemma new {o o' : Object} (states : c.States s s')
    (alike : (c.upTo s).Objects s.heap.next s'.heap.next o o') :
    c.Runs (Eval.new o) (Eval.new o') s s' Correspondence.refs := by
  have hlt : s.heap.size < (s.heap.push o).size := Heap.size_push .. ▸ Nat.lt_succ_self _
  exact .ok (Nat.le_of_lt hlt) (states.push alike) ⟨states.fresh 0, hlt⟩

/-- Binding values that correspond goes on alike. -/
lemma register {r r' name v v'} (states : c.States s s') (hr : (c.upTo s).refs r r')
    (hv : (c.upTo s).Values v v') :
    c.Runs (Eval.register r name v) (Eval.register r' name v') s s' fun _ _ _ => True :=
  .ok (Heap.size_register .. ▸ Nat.le_refl _) (states.register hr hv) trivial

/-- Looking up a name in scopes that correspond answers values that correspond. -/
lemma lookup {r r'} (states : c.States s s') (hr : (c.upTo s).refs r r') (name) :
    c.Runs (Eval.lookup r name) (Eval.lookup r' name) s s' Correspondence.Values :=
  .ok (Nat.le_refl _) states (states.between.lookup hr name)

/-- Wrapping values that correspond in a signal answers values that correspond. -/
lemma signal {v v'} (states : c.States s s') (hv : (c.upTo s).Values v v') :
    c.Runs (Eval.signal v) (Eval.signal v') s s' Correspondence.Values :=
  .ok (Nat.le_refl _) states.signal (.returning (states.signals 0) hv)

/-- Corresponding nodes fill in for the sites of corresponding failures. -/
lemma located {act : Eval α} {act' : Eval α'} {site site'} (h : c.Runs act act' s s' post)
    (hn : c.nodes site site') : c.Runs (Eval.located act site) (Eval.located act' site') s s' post := by
  rw [Runs] at h
  rw [Runs, Eval.located, Eval.located]
  generalize act s = r at h
  generalize act' s' = r' at h
  cases h with
  | ok hle states ha => exact .ok hle states ha
  | error hle states he =>
    cases he with
    | failure hsite =>
      cases hsite with
      | none => exact .error hle states (.failure (.some hn))
      | some hm => exact .error hle states (.failure (.some hm))
    | fault => exact .error hle states .fault
    | tooDeep => exact .error hle states .tooDeep

end Runs

end Coupling

end Scriptlet
