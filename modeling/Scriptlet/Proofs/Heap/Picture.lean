import Mathlib.Data.List.Forall2
import Scriptlet.Proofs.Heap.Text

/-!
# What the texts of values show

A text is made from a picture: what a value looks like when every plain object in it is spread out,
field by field, but for the objects that are being spread out already. The rules for pictures
(`Heap.Unfolds`) have no limit on the depth. Every value has exactly one picture, for a path that
repeats no object comes to an end; so pictures, and with them texts, are finite however the objects
refer to each other, and no picture nests more objects than there are (`Heap.text_unfolds`).
-/

namespace Scriptlet

/-- What the text of a value shows. -/
inductive Picture where
  | atom (a : Atom)
  /-- A function or an environment, by what it is called. -/
  | label (text : String)
  /-- The mark for an object inside itself. -/
  | cut
  | object (fields : List (String × Picture))
  | returning (inner : Picture)

namespace Picture

mutual

/-- The text of a picture, quoted or plain. A signal quotes what it carries, a field does not. -/
def textAs : Picture → Bool → Except Fault String
  | atom a, quote => if quote then a.quoted else a.text
  | label text, _ => .ok text
  | cut, _ => .ok Heap.cut
  | object fields, _ => do
    let texts ← fieldTexts fields
    return "\x7b" ++ String.intercalate ", " texts ++ "\x7d"
  | returning inner, _ => do
    let text ← inner.textAs true
    return "Returning(value=" ++ text ++ ")"

/-- The texts of fields with their names. -/
def fieldTexts : List (String × Picture) → Except Fault (List String)
  | [] => .ok []
  | (name, p) :: rest => do
    let text ← p.textAs false
    let texts ← fieldTexts rest
    return (name ++ ": " ++ text) :: texts

end

mutual

/-- How many objects stand inside one another. -/
def depth : Picture → Nat
  | object fields => fieldsDepth fields + 1
  | returning inner => inner.depth
  | atom _ | label _ | cut => 0

/-- How many objects stand inside one another in any of the fields. -/
def fieldsDepth : List (String × Picture) → Nat
  | [] => 0
  | (_, p) :: rest => max p.depth (fieldsDepth rest)

end

/-- The atoms that come up in a picture. -/
inductive Shows : Picture → Atom → Prop where
  | atom {a} :
    Shows (.atom a) a
  | field {fields name p a} :
    (name, p) ∈ fields →
    Shows p a →
    Shows (.object fields) a
  | carried {p a} :
    Shows p a →
    Shows (.returning p) a

/-- An integer with more digits than a text may have comes up in a picture. -/
def Overflows (p : Picture) : Prop :=
  ∃ i, p.Shows (.int i) ∧ Text.digitLimit < (Text.digits i.natAbs).length

/-- Fields do not stand deeper than any bound on each of them. -/
lemma fieldsDepth_le {fields : List (String × Picture)} {n}
    (h : ∀ field ∈ fields, field.2.depth ≤ n) : fieldsDepth fields ≤ n := by
  induction fields with
  | nil => exact Nat.zero_le n
  | cons field rest ih =>
    obtain ⟨hfield, hrest⟩ := List.forall_mem_cons.1 h
    exact Nat.max_le.2 ⟨hfield, ih hrest⟩

/-- The picture of an object overflows if that of a field does. -/
lemma overflows_object_iff {fields : List (String × Picture)} :
    (object fields).Overflows ↔ ∃ field ∈ fields, field.2.Overflows := by
  constructor
  · rintro ⟨i, hs, hi⟩
    cases hs with
    | field hmem hs => exact ⟨_, hmem, i, hs, hi⟩
  · rintro ⟨⟨name, p⟩, hmem, i, hs, hi⟩
    exact ⟨i, .field hmem hs, hi⟩

/-- The picture of a signal overflows if what it carries does. -/
lemma overflows_returning_iff {p : Picture} : (returning p).Overflows ↔ p.Overflows := by
  constructor
  · rintro ⟨i, hs, hi⟩
    cases hs with
    | carried hs => exact ⟨i, hs, hi⟩
  · rintro ⟨i, hs, hi⟩
    exact ⟨i, .carried hs, hi⟩

/-- The picture of an atom has no text exactly if it overflows. -/
lemma atom_textAs_eq_error_iff {a : Atom} {quote f} :
    (atom a).textAs quote = .error f ↔ f = .longInteger ∧ (atom a).Overflows := by
  have htext : (atom a).textAs quote = .error f ↔ a.text = .error f := by
    rw [textAs]
    split
    · exact Atom.quoted_eq_error_iff
    · exact Iff.rfl
  rw [htext, Atom.text_eq_error_iff]
  refine and_congr_right fun _ => ⟨?_, ?_⟩
  · rintro ⟨i, rfl, hi⟩
    exact ⟨i, .atom, Text.decimal?_eq_none_iff_length.1 hi⟩
  · rintro ⟨i, hs, hi⟩
    cases hs
    exact ⟨i, rfl, Text.decimal?_eq_none_iff_length.2 hi⟩

mutual

/-- A picture has no text exactly when an integer with too many digits comes up in it. -/
lemma textAs_eq_error_iff (p : Picture) (quote : Bool) (f : Fault) :
    p.textAs quote = .error f ↔ f = .longInteger ∧ p.Overflows := by
  cases p with
  | atom a => exact atom_textAs_eq_error_iff
  | label | cut =>
    refine ⟨nofun, ?_⟩
    rintro ⟨_, i, hs, _⟩
    cases hs
  | object fields =>
    rw [overflows_object_iff, ← fieldTexts_eq_error_iff fields f, textAs]
    cases fieldTexts fields <;> simp [bind, Except.bind, pure, Except.pure]
  | returning inner =>
    rw [overflows_returning_iff, ← textAs_eq_error_iff inner true f, textAs]
    cases inner.textAs true <;> simp [bind, Except.bind, pure, Except.pure]

/-- Pictures of fields have no texts exactly if one of them overflows. -/
lemma fieldTexts_eq_error_iff (fields : List (String × Picture)) (f : Fault) :
    fieldTexts fields = .error f ↔ f = .longInteger ∧ ∃ field ∈ fields, field.2.Overflows := by
  cases fields with
  | nil => simp [fieldTexts]
  | cons field rest =>
    obtain ⟨name, p⟩ := field
    have hp := textAs_eq_error_iff p false
    have hrest := fieldTexts_eq_error_iff rest
    rw [fieldTexts, Heap.pair_eq_error_iff, List.exists_mem_cons_iff]
    constructor
    · rintro (h | ⟨_, h⟩)
      · exact ((hp f).1 h).imp_right .inl
      · exact ((hrest f).1 h).imp_right .inr
    · rintro ⟨rfl, h⟩
      cases he : p.textAs false with
      | error g => exact .inl (((hp g).1 he).1 ▸ rfl)
      | ok text =>
        refine .inr ⟨nofun, (hrest _).2 ⟨rfl, h.resolve_left fun ho => ?_⟩⟩
        exact nomatch he.symm.trans ((hp _).2 ⟨rfl, ho⟩)

end

end Picture

/-- What objects of a kind are called in texts; plain objects are not called anything. -/
def Object.Kind.label? : Object.Kind → Option String
  | plain => none
  | environment _ => some "environment"
  | closure code _ => some ("function " ++ code.title)
  | primitive name _ _ => some ("function " ++ name)

namespace Heap

variable (h : Heap)

/-- What a value looks like inside the objects of a path. An object that is not there is not spread
out either; no heap of a run refers to one. -/
inductive Unfolds : List Ref → Value → Picture → Prop where
  | atom {path a} :
    Unfolds path (.atom a) (.atom a)
  | label {path r k text} :
    h.kind? r = some k →
    k.label? = some text →
    Unfolds path (.ref r) (.label text)
  | cut {path r} :
    h.kind? r = some .plain →
    r ∈ path →
    Unfolds path (.ref r) .cut
  | object {path r fields pictures} :
    h.get? r = some ⟨.plain, fields⟩ →
    r ∉ path →
    pictures.map Prod.fst = fields.names →
    (∀ b p, (b, p) ∈ fields.zip pictures → Unfolds (r :: path) b.2 p.2) →
    Unfolds path (.ref r) (.object pictures)
  | returning {path signal v p} :
    Unfolds path v p →
    Unfolds path (.returning signal v) (.returning p)
  | absent {path r} :
    h.kind? r = none →
    Unfolds path (.ref r) .cut

/-- The plain objects of a heap. -/
def plainObjects : List Ref :=
  ((List.range h.size).map Ref.mk).filter fun r =>
    (h.kind? r).map Object.Kind.shape = some .plain

variable {h} {path : List Ref}

/-- The plain objects of a heap are those of that kind. -/
lemma mem_plainObjects {r : Ref} : r ∈ h.plainObjects ↔ h.kind? r = some .plain := by
  have hshape : ∀ k : Object.Kind, k.shape = .plain ↔ k = .plain := by
    intro k
    cases k <;> simp [Object.Kind.shape]
  simp only [plainObjects, List.mem_filter, List.mem_map, List.mem_range, decide_eq_true_eq,
    Option.map_eq_some_iff, hshape, exists_eq_right, and_iff_right_iff_imp]
  intro hk
  exact ⟨r.index, lt_size_of_kind? hk, rfl⟩

/-- A path that repeats no object is not longer than there are plain objects. -/
lemma length_le_plainObjects (nodup : path.Nodup) (hplain : ∀ r ∈ path, h.kind? r = some .plain) :
    path.length ≤ h.plainObjects.length :=
  (nodup.subperm fun r hr => mem_plainObjects.2 (hplain r hr)).length_le

/-- Pictures of fields with the same names, one after another. -/
lemma forall₂_of_zip {P : String × Value → String × Picture → Prop} {fields : Fields}
    {pictures : List (String × Picture)} (hnames : pictures.map Prod.fst = fields.names)
    (hzip : ∀ b p, (b, p) ∈ fields.zip pictures → P b p) :
    List.Forall₂ (fun b p => p.1 = b.1 ∧ P b p) fields pictures := by
  induction fields generalizing pictures with
  | nil =>
    obtain rfl := List.map_eq_nil_iff.1 hnames
    exact .nil
  | cons b fields ih =>
    cases pictures with
    | nil => cases hnames
    | cons p pictures =>
      obtain ⟨hname, hrest⟩ := List.cons.inj hnames
      exact .cons ⟨hname, hzip b p List.mem_cons_self⟩
        (ih hrest fun b p hmem => hzip b p (List.mem_cons_of_mem _ hmem))

/-- Two lists are the same if they go with one list by relations that leave no choice. -/
lemma eq_of_forall₂ {α β : Type} {R S : α → β → Prop} (huniq : ∀ a b b', R a b → S a b' → b = b')
    {l : List α} {m m' : List β} (hR : List.Forall₂ R l m) (hS : List.Forall₂ S l m') : m = m' := by
  induction hR generalizing m' with
  | nil =>
    cases hS
    rfl
  | cons hr _ ih =>
    cases hS with
    | cons hs hS => rw [huniq _ _ _ hr hs, ih hS]

namespace Unfolds

variable {v : Value} {p q : Picture}

/-- An object that is not on the path unfolds to the pictures of its fields. -/
lemma object_of_forall₂ {r} {fields : Fields} {pictures : List (String × Picture)}
    (hr : h.get? r = some ⟨.plain, fields⟩) (hnot : r ∉ path)
    (hfields : List.Forall₂ (fun b p => p.1 = b.1 ∧ h.Unfolds (r :: path) b.2 p.2)
      fields pictures) :
    h.Unfolds path (.ref r) (.object pictures) := by
  refine .object hr hnot ?_ fun b p hmem => ((List.forall₂_iff_zip.1 hfields).2 hmem).2
  clear hr
  induction hfields with
  | nil => rfl
  | cons hp _ ih => simp only [List.map_cons, Fields.names, hp.1, ih]

/-- A value has one picture at most. -/
lemma unique (hp : h.Unfolds path v p) (hq : h.Unfolds path v q) : p = q := by
  induction hp generalizing q with
  | atom =>
    cases hq
    rfl
  | label hk ht =>
    cases hq with
    | label hk' ht' =>
      obtain rfl := Option.some.inj (hk.symm.trans hk')
      rw [Option.some.inj (ht.symm.trans ht')]
    | cut hk' =>
      obtain rfl := Option.some.inj (hk.symm.trans hk')
      cases ht
    | object hr =>
      obtain rfl := Option.some.inj (hk.symm.trans (kind?_of_get? hr))
      cases ht
    | absent hk' => cases hk.symm.trans hk'
  | cut hk hmem =>
    cases hq with
    | label hk' ht =>
      obtain rfl := Option.some.inj (hk.symm.trans hk')
      cases ht
    | object _ hnot => exact absurd hmem hnot
    | cut | absent => rfl
  | object hr hnot hnames _ ih =>
    have hk := kind?_of_get? hr
    cases hq with
    | label hk' ht =>
      obtain rfl := Option.some.inj (hk.symm.trans hk')
      cases ht
    | cut _ hmem => exact absurd hmem hnot
    | absent hk' => cases hk.symm.trans hk'
    | object hr' _ hnames' hzip' =>
      cases hr.symm.trans hr'
      have hp := forall₂_of_zip (P := fun b p => ∀ q, h.Unfolds _ b.2 q → p.2 = q) hnames
        fun b p hmem q hq => ih b p hmem hq
      have hq := forall₂_of_zip hnames' hzip'
      congr 1
      refine eq_of_forall₂ ?_ hp hq
      rintro b p p' ⟨hname, hp⟩ ⟨hname', hp'⟩
      exact Prod.ext (hname.trans hname'.symm) (hp _ hp')
  | returning _ ih =>
    cases hq with
    | returning hq => rw [ih hq]
  | absent hk =>
    cases hq with
    | label hk' => cases hk.symm.trans hk'
    | object hr => cases hk.symm.trans (kind?_of_get? hr)
    | cut | absent => rfl

/-- Inside a path that repeats no object, a picture nests no more plain objects than are left. -/
lemma depth_le (hp : h.Unfolds path v p) (nodup : path.Nodup)
    (hplain : ∀ r ∈ path, h.kind? r = some .plain) :
    p.depth + path.length ≤ h.plainObjects.length := by
  induction hp with
  | atom | label | cut | absent =>
    rw [Picture.depth, Nat.zero_add]
    exact length_le_plainObjects nodup hplain
  | @object path r fields pictures hr hnot hnames _ ih =>
    have nodup' : (r :: path).Nodup := List.nodup_cons.2 ⟨hnot, nodup⟩
    have hplain' : ∀ s ∈ r :: path, h.kind? s = some .plain :=
      List.forall_mem_cons.2 ⟨kind?_of_get? hr, hplain⟩
    have hlength := length_le_plainObjects nodup' hplain'
    rw [List.length_cons] at hlength
    have hsnd : (fields.zip pictures).map Prod.snd = pictures := by
      refine List.map_snd_zip (Nat.le_of_eq ?_)
      simpa only [Fields.names, List.length_map] using congrArg List.length hnames
    have hfields : Picture.fieldsDepth pictures + (path.length + 1) ≤ h.plainObjects.length := by
      have hle : ∀ field ∈ pictures,
          field.2.depth ≤ h.plainObjects.length - (path.length + 1) := by
        intro field hfield
        rw [← hsnd] at hfield
        obtain ⟨⟨b, field⟩, hmem, rfl⟩ := List.mem_map.1 hfield
        have hdepth := ih b field hmem nodup' hplain'
        rw [List.length_cons] at hdepth
        exact Nat.le_sub_of_add_le hdepth
      have hbound := Picture.fieldsDepth_le hle
      omega
    rw [Picture.depth]
    omega
  | returning _ ih => exact ih nodup hplain

end Unfolds

/-- A descent with a step for each object outside its path has one step to take. -/
lemma exists_eq_succ {n} (nodup : path.Nodup) (hlt : ∀ r ∈ path, r.index < h.size)
    (hn : h.size < n + path.length) : ∃ m, n = m + 1 := by
  have hle := length_le_size nodup hlt
  exact Nat.exists_eq_succ_of_ne_zero (by omega)

/-- A path goes on with an object that is not on it yet. -/
lemma path_cons {n r fields} (nodup : path.Nodup) (hlt : ∀ r ∈ path, r.index < h.size)
    (hn : h.size < n + 1 + path.length) (hr : h.get? r = some ⟨.plain, fields⟩) (hnot : r ∉ path) :
    (r :: path).Nodup ∧ (∀ s ∈ r :: path, s.index < h.size) ∧
      h.size < n + (r :: path).length := by
  refine ⟨List.nodup_cons.2 ⟨hnot, nodup⟩, ?_, ?_⟩
  · exact List.forall_mem_cons.2 ⟨lt_size_of_kind? (kind?_of_get? hr), hlt⟩
  · rw [List.length_cons]
    omega

section Within

variable {n : Nat} {r : Ref}

/-- An object with a label is shown by it. -/
lemma objectTextWithin_of_label? {k text} (hk : h.kind? r = some k) (ht : k.label? = some text) :
    h.objectTextWithin (n + 1) path r = .ok text := by
  obtain ⟨⟨k, fields⟩, hr, rfl⟩ := Option.map_eq_some_iff.1 hk
  rw [objectTextWithin, hr]
  cases k with
  | plain => cases ht
  | environment | closure | primitive =>
    cases ht
    rfl

/-- A plain object on the path is cut. -/
lemma objectTextWithin_of_mem (hk : h.kind? r = some .plain) (hmem : r ∈ path) :
    h.objectTextWithin (n + 1) path r = .ok cut := by
  obtain ⟨⟨k, fields⟩, hr, rfl⟩ := Option.map_eq_some_iff.1 hk
  simp only [objectTextWithin, hr, if_pos hmem]

/-- What is not there is cut. -/
lemma objectTextWithin_of_none (hk : h.kind? r = none) :
    h.objectTextWithin (n + 1) path r = .ok cut := by
  rw [objectTextWithin, Option.map_eq_none_iff.1 hk]

/-- A plain object that is not on the path is shown by its fields. -/
lemma objectTextWithin_of_not_mem {fields} (hr : h.get? r = some ⟨.plain, fields⟩)
    (hnot : r ∉ path) {pictures : List (String × Picture)}
    (hfields : List.Forall₂ (fun b p => p.1 = b.1 ∧
      b.2.textBy (h.objectTextWithin n (r :: path)) = p.2.textAs false) fields pictures) :
    h.objectTextWithin (n + 1) path r = (Picture.object pictures).textAs true := by
  have htexts :
      fields.textsBy (h.objectTextWithin n (r :: path)) = Picture.fieldTexts pictures := by
    clear hr
    induction hfields with
    | nil => rfl
    | @cons b p _ _ hp _ ih =>
      obtain ⟨name, v⟩ := b
      obtain ⟨name', p⟩ := p
      obtain ⟨rfl, hp⟩ := hp
      simp only [Fields.textsBy, Picture.fieldTexts, hp, ih]
  simp only [objectTextWithin, hr, if_neg hnot, htexts, Picture.textAs]

end Within

/-- A descent with enough steps comes to the texts of the picture. -/
lemma Unfolds.textAs_eq {v p} (hp : h.Unfolds path v p) {n} (nodup : path.Nodup)
    (hlt : ∀ r ∈ path, r.index < h.size) (hn : h.size < n + path.length) :
    v.quotedBy (h.objectTextWithin n path) = p.textAs true ∧
      v.textBy (h.objectTextWithin n path) = p.textAs false := by
  obtain ⟨n, rfl⟩ := exists_eq_succ nodup hlt hn
  induction hp generalizing n with
  | atom => exact ⟨rfl, rfl⟩
  | label hk ht => exact ⟨objectTextWithin_of_label? hk ht, objectTextWithin_of_label? hk ht⟩
  | cut hk hmem => exact ⟨objectTextWithin_of_mem hk hmem, objectTextWithin_of_mem hk hmem⟩
  | absent hk => exact ⟨objectTextWithin_of_none hk, objectTextWithin_of_none hk⟩
  | object hr hnot hnames _ ih =>
    obtain ⟨nodup', hlt', hn'⟩ := path_cons nodup hlt hn hr hnot
    obtain ⟨m, rfl⟩ := exists_eq_succ nodup' hlt' hn'
    have h₁ := objectTextWithin_of_not_mem hr hnot
      (forall₂_of_zip hnames fun b p hmem => (ih b p hmem nodup' hlt' m hn').2)
    exact ⟨h₁, h₁⟩
  | returning _ ih =>
    have h₁ := (ih nodup hlt n hn).1
    simp only [Value.textBy, Value.quotedBy, Picture.textAs, h₁, and_self]

/-- If each value goes with a picture, then fields go with pictures of the same names. -/
lemma exists_forall₂ {P : Value → Picture → Prop} (hex : ∀ v, ∃ p, P v p) (fields : Fields) :
    ∃ pictures : List (String × Picture),
      List.Forall₂ (fun b p => p.1 = b.1 ∧ P b.2 p.2) fields pictures := by
  induction fields with
  | nil => exact ⟨[], .nil⟩
  | cons b _ ih =>
    obtain ⟨p, hp⟩ := hex b.2
    obtain ⟨pictures, hpictures⟩ := ih
    exact ⟨(b.1, p) :: pictures, .cons ⟨rfl, hp⟩ hpictures⟩

/-- Values have pictures inside a path if references do. -/
lemma exists_unfolds_of_refs (href : ∀ r, ∃ p, h.Unfolds path (.ref r) p) (v : Value) :
    ∃ p, h.Unfolds path v p := by
  induction v with
  | atom => exact ⟨_, .atom⟩
  | ref r => exact href r
  | returning _ _ ih =>
    obtain ⟨p, hp⟩ := ih
    exact ⟨_, .returning hp⟩

/-- Every value has a picture. -/
lemma exists_unfolds {n} (nodup : path.Nodup) (hlt : ∀ r ∈ path, r.index < h.size)
    (hn : h.size < n + path.length) (v : Value) : ∃ p, h.Unfolds path v p := by
  induction n generalizing path v with
  | zero =>
    have hle := length_le_size nodup hlt
    omega
  | succ n ih =>
    refine exists_unfolds_of_refs (fun r => ?_) v
    cases hk : h.kind? r with
    | none => exact ⟨_, .absent hk⟩
    | some k =>
      cases ht : k.label? with
      | some text => exact ⟨_, .label hk ht⟩
      | none =>
        obtain rfl : k = .plain := by
          cases k with
          | plain => rfl
          | environment | closure | primitive => cases ht
        by_cases hmem : r ∈ path
        · exact ⟨_, .cut hk hmem⟩
        · obtain ⟨⟨_, fields⟩, hr, rfl⟩ := Option.map_eq_some_iff.1 hk
          obtain ⟨nodup', hlt', hn'⟩ := path_cons nodup hlt hn hr hmem
          obtain ⟨pictures, hpictures⟩ := exists_forall₂ (ih nodup' hlt' hn') fields
          exact ⟨_, .object_of_forall₂ hr hmem hpictures⟩

/-- The text of a value is that of its picture. -/
lemma text_eq_of_unfolds {v p} (hp : h.Unfolds [] v p) : h.text v = p.textAs false :=
  (hp.textAs_eq List.nodup_nil (List.forall_mem_nil _) (Nat.lt_succ_self _)).2

/-- Every value has exactly one picture, however the objects refer to each other; it nests no more
objects than there are plain ones; and to take the text of a value is to take that of its picture,
which leaves the state alone and fails only for an integer in the picture that is too long. -/
theorem text_unfolds (s : State) (v : Value) :
    ∃ p, (∀ q, s.heap.Unfolds [] v q ↔ q = p) ∧
      p.depth ≤ s.heap.plainObjects.length ∧
      ((¬ p.Overflows ∧ ∃ text, p.textAs false = .ok text ∧
          Eval.read (fun h => h.text v) s = .ok text s) ∨
        (p.Overflows ∧ Eval.read (fun h => h.text v) s = .error (.fault .longInteger) s)) := by
  obtain ⟨p, hp⟩ := exists_unfolds (h := s.heap) List.nodup_nil (List.forall_mem_nil _)
    (Nat.lt_succ_self _) v
  refine ⟨p, fun q => ⟨fun hq => hq.unique hp, fun e => e ▸ hp⟩, ?_, ?_⟩
  · exact hp.depth_le List.nodup_nil (List.forall_mem_nil _)
  · have htext := text_eq_of_unfolds hp
    have herror := p.textAs_eq_error_iff false
    cases ht : p.textAs false with
    | ok text =>
      refine .inl ⟨fun ho => ?_, text, rfl, ?_⟩
      · exact nomatch ht.symm.trans ((herror _).2 ⟨rfl, ho⟩)
      · simp only [Eval.read, htext, ht]
    | error f =>
      obtain ⟨rfl, ho⟩ := (herror f).1 ht
      refine .inr ⟨ho, ?_⟩
      simp only [Eval.read, htext, ht]

end Heap

end Scriptlet
