import Mathlib.Data.List.Forall2
import Mathlib.Tactic.Lemma
import Scriptlet.Report.Session

/-!
# What listings show

A listing goes through the failures in order and puts out some lines for each (`Report.Shows`): a
rule, the kind and the message, and a picture of the site if there is one. It shows all of them if
every site has a picture (`Report.listing_of_shows`). A picture is made before anything is put out
after the rule, so a site without one cuts the listing right there (`Report.listing_of_cut`),
whatever comes later. The report is left alone (`Report.Session.listing_covers_issues`).
-/

namespace Scriptlet

namespace Printout

/-- Lines that are put out in full. -/
def ofLines (lines : List String) : Printout :=
  ⟨String.join (lines.map (· ++ "\n")), none⟩

/-- Lines that are put out in full before a fault surfaces. -/
def cutAfter (lines : List String) (fault : Fault) : Printout :=
  { ofLines lines with fault := some fault }

/-- A line that has a text is put out in full. -/
lemma line_ok (text : String) : line [.ok text] = ofLines [text] := by
  simp [line, ofLines]

/-- A line without a text is cut at once. -/
lemma line_error (fault : Fault) : line [.error fault] = cutAfter [] fault := rfl

/-- A line of several lines is as good as those lines. -/
lemma line_ok_ok (first second : String) :
    line [.ok (first ++ "\n" ++ second)] = ofLines [first, second] := by
  simp [line, ofLines, String.append_assoc]

/-- To follow one printout by two others does not depend on how they are grouped. -/
lemma followedBy_assoc (x y z : Printout) :
    (x.followedBy y).followedBy z = x.followedBy (y.followedBy z) := by
  obtain ⟨text, fault⟩ := x
  cases fault with
  | some fault => rfl
  | none =>
    obtain ⟨text', fault'⟩ := y
    cases fault' with
    | some fault' => rfl
    | none => simp only [followedBy, String.append_assoc]

/-- What is cut short has nothing after it. -/
@[simp]
lemma cutAfter_followedBy (lines : List String) (fault : Fault) (out : Printout) :
    (cutAfter lines fault).followedBy out = cutAfter lines fault := rfl

/-- Lines in full that are followed by lines in full are all of them in full. -/
@[simp]
lemma ofLines_followedBy_ofLines (lines rest : List String) :
    (ofLines lines).followedBy (ofLines rest) = ofLines (lines ++ rest) := by
  simp [followedBy, ofLines]

/-- Lines in full that are followed by lines cut short are cut where these are. -/
@[simp]
lemma ofLines_followedBy_cutAfter (lines rest : List String) (fault : Fault) :
    (ofLines lines).followedBy (cutAfter rest fault) = cutAfter (lines ++ rest) fault := by
  simp [followedBy, cutAfter, ofLines]

/-- What follows no lines is put out as it is. -/
@[simp]
lemma ofLines_nil_followedBy (out : Printout) : (ofLines []).followedBy out = out := by
  simp [followedBy, ofLines]

end Printout

namespace Report

/-- The lines of a listing that show a failure: a rule, its kind and message, and a picture of its
site if it has one. -/
inductive Shows (f : Failure) : List String → Prop where
  | unsited :
    f.site = none →
    Shows f [rule, f.kind.name ++ ": " ++ f.message]
  | sited {site picture} :
    f.site = some site →
    site.illustrate "" = .ok picture →
    Shows f [rule, f.kind.name ++ ": " ++ f.message, picture]

/-- The site of a failure has a picture, if there is a site. -/
def Presentable (f : Failure) : Prop :=
  ∀ site, f.site = some site → ∃ picture, site.illustrate "" = .ok picture

/-- The lines at the head of a listing, for which there has to be something to list. -/
def heading (o : Outburst) : List Failure → List String
  | [] => []
  | _ :: _ => [banner, o.text]

variable {f : Failure} {fs : List Failure} {blocks : List (List String)}

/-- What can be presented is shown in lines. -/
lemma Presentable.exists_shows (h : Presentable f) : ∃ lines, Shows f lines := by
  cases hsite : f.site with
  | none => exact ⟨_, .unsited hsite⟩
  | some site =>
    obtain ⟨picture, hpicture⟩ := h site hsite
    exact ⟨_, .sited hsite hpicture⟩

/-- A failure is shown by the same lines each time. -/
lemma rightUnique_shows : Relator.RightUnique Shows := by
  intro f lines lines' hlines hlines'
  cases hlines with
  | unsited hsite =>
    cases hlines' with
    | unsited => rfl
    | sited hsite' => cases hsite.symm.trans hsite'
  | sited hsite hpicture =>
    cases hlines' with
    | unsited hsite' => cases hsite.symm.trans hsite'
    | sited hsite' hpicture' =>
      cases hsite.symm.trans hsite'
      cases hpicture.symm.trans hpicture'
      rfl

/-- Failures that can be presented are shown, each in lines of its own. -/
lemma exists_forall₂_shows (h : ∀ f ∈ fs, Presentable f) :
    ∃ blocks, List.Forall₂ Shows fs blocks := by
  induction fs with
  | nil => exact ⟨[], .nil⟩
  | cons f rest ih =>
    obtain ⟨lines, hlines⟩ := (h f List.mem_cons_self).exists_shows
    obtain ⟨blocks, hblocks⟩ := ih fun g hg => h g (List.mem_cons_of_mem _ hg)
    exact ⟨lines :: blocks, .cons hlines hblocks⟩

/-- What a failure adds to a listing that can be shown. -/
lemma Shows.piece_eq {lines : List String} (hlines : Shows f lines) :
    (Printout.line [.ok rule]).followedBy (.line [entry f]) = .ofLines lines := by
  rw [Printout.line_ok]
  cases hlines with
  | unsited hsite =>
    have hentry : entry f = .ok (f.kind.name ++ ": " ++ f.message) := by
      rw [entry, hsite]
    rw [hentry, Printout.line_ok, Printout.ofLines_followedBy_ofLines]
    rfl
  | @sited site picture hsite hpicture =>
    have hentry : entry f = .ok (f.kind.name ++ ": " ++ f.message ++ "\n" ++ picture) := by
      rw [entry, hsite]
      simp only [hpicture]
      rfl
    rw [hentry, Printout.line_ok_ok, Printout.ofLines_followedBy_ofLines]
    rfl

/-- A failure whose site has no picture adds the rule, and the fault surfaces. -/
lemma piece_of_error {site fault} (hsite : f.site = some site)
    (herror : site.illustrate "" = .error fault) :
    (Printout.line [.ok rule]).followedBy (.line [entry f]) = .cutAfter [rule] fault := by
  have hentry : entry f = .error fault := by
    rw [entry, hsite]
    simp only [herror]
    rfl
  rw [hentry, Printout.line_ok, Printout.line_error, Printout.ofLines_followedBy_cutAfter,
    List.append_nil]

/-- A listing of two rows of failures is the listing of one and then of the other. -/
lemma listing_append (fs gs : List Failure) :
    listing (fs ++ gs) = (listing fs).followedBy (listing gs) := by
  induction fs with
  | nil => exact (Printout.ofLines_nil_followedBy (listing gs)).symm
  | cons f rest ih => simp only [List.cons_append, listing, ih, Printout.followedBy_assoc]

/-- Failures that can be shown are all listed, in order. -/
theorem listing_of_shows (hblocks : List.Forall₂ Shows fs blocks) :
    listing fs = .ofLines blocks.flatten := by
  induction hblocks with
  | nil => rfl
  | cons hlines _ ih =>
    rw [listing, hlines.piece_eq, ih, Printout.ofLines_followedBy_ofLines, List.flatten_cons]

/-- A site without a picture ends a listing right after the rule of its failure, and what comes
later does not matter. -/
theorem listing_of_cut (hblocks : List.Forall₂ Shows fs blocks) {site fault}
    (hsite : f.site = some site) (herror : site.illustrate "" = .error fault)
    (after : List Failure) :
    listing (fs ++ f :: after) = .cutAfter (blocks.flatten ++ [rule]) fault := by
  rw [listing_append, listing_of_shows hblocks, listing, piece_of_error hsite herror,
    Printout.cutAfter_followedBy, Printout.ofLines_followedBy_cutAfter]

/-- The listing of a report comes after its head. -/
lemma console_eq (r : Report) (o : Outburst) :
    r.console o = (Printout.ofLines (heading o r.issues)).followedBy (listing r.issues) := by
  rw [console]
  cases r.issues with
  | nil => rfl
  | cons f rest =>
    simp only [Printout.line_ok, Printout.ofLines_followedBy_ofLines]
    rfl

namespace Session

/-- A listing changes nothing about the session. If every site of the issues has a picture, it
consists of its head and of the lines that show each of the issues, in order; else it ends, with the
fault of showing it, at the first site that has none: after the head, the lines of the issues before
that one, and the rule. -/
theorem listing_covers_issues (depth : Nat) (s : Session) (o : Outburst) :
    ((∀ f ∈ s.report.issues, Presentable f) →
      ∃ blocks, List.Forall₂ Shows s.report.issues blocks ∧
        s.answer depth (.console o) =
          ⟨s, .nothing,
            (Printout.ofLines (heading o s.report.issues ++ blocks.flatten)).text⟩) ∧
    ∀ before f after site fault,
      s.report.issues = before ++ f :: after →
      (∀ g ∈ before, Presentable g) →
      f.site = some site →
      site.illustrate "" = .error fault →
      ∃ blocks, List.Forall₂ Shows before blocks ∧
        s.answer depth (.console o) =
          ⟨s, .fault fault,
            (Printout.ofLines ([banner, o.text] ++ blocks.flatten ++ [rule])).text⟩ := by
  constructor
  · intro hall
    obtain ⟨blocks, hblocks⟩ := exists_forall₂_shows hall
    refine ⟨blocks, hblocks, ?_⟩
    rw [answer, console_eq, listing_of_shows hblocks, Printout.ofLines_followedBy_ofLines]
    rfl
  · intro before f after site fault hissues hall hsite herror
    obtain ⟨blocks, hblocks⟩ := exists_forall₂_shows hall
    refine ⟨blocks, hblocks, ?_⟩
    have hheading : heading o s.report.issues = [banner, o.text] := by
      rw [hissues]
      cases before <;> rfl
    rw [answer, console_eq, hheading, hissues, listing_of_cut hblocks hsite herror,
      Printout.ofLines_followedBy_cutAfter, ← List.append_assoc]
    rfl

/-- A failure without a site. -/
def bareFailure : Failure := ⟨.reported .arityMismatch "bare", none⟩

/-- A failure at a name. -/
def namedFailure : Failure := ⟨.reported .typeFailure "named", some (.var "x" 2)⟩

/-- A failure at a call of a whole script, which cannot be shown. -/
def oddFailure : Failure :=
  ⟨.reported .notCallable "odd", some (.call (.script (.block [] 3)) [] 3)⟩

/-- A session whose report has these failures in its ledger, and notes of some of them. -/
def withNotes (noted : List Nat) : Session :=
  ⟨⟨false, none, #[bareFailure, namedFailure, oddFailure], noted⟩, #[0, 1, 2], none⟩

/-- A failure without a site is shown in two lines. -/
lemma bareFailure_shows : Shows bareFailure [rule, "ArityMismatch: bare"] :=
  .unsited rfl

/-- A failure with a site is shown with its site in a third line. -/
lemma namedFailure_shows : Shows namedFailure [rule, "TypeFailure: named", "     2 | x"] :=
  .sited rfl rfl

/-- A failure that is noted twice is listed twice. The one that cannot be shown cuts the listing. -/
theorem listing_covers_issues_oddSite :
    let o : Outburst := ⟨0, 1, 2⟩
    ((withNotes [1, 0, 1]).answer 5 (.console o) =
      ⟨withNotes [1, 0, 1], .nothing, (Printout.ofLines [banner, "Oh, Rats! Something needs fixing.",
        rule, "TypeFailure: named", "     2 | x", rule, "ArityMismatch: bare",
        rule, "TypeFailure: named", "     2 | x"]).text⟩) ∧
    (withNotes [0, 2, 1]).answer 5 (.console o) =
      ⟨withNotes [0, 2, 1], .fault (.noSnippet .script),
        (Printout.ofLines [banner, "Oh, Rats! Something needs fixing.",
          rule, "ArityMismatch: bare", rule]).text⟩ := by
  intro o
  have hbare : Presentable bareFailure := by
    intro site hsite
    cases hsite
  have hnamed : Presentable namedFailure := by
    intro site hsite
    cases hsite
    exact ⟨_, rfl⟩
  constructor
  · obtain ⟨blocks, hblocks, h⟩ := (listing_covers_issues 5 (withNotes [1, 0, 1]) o).1 (by
      change ∀ f ∈ [namedFailure, bareFailure, namedFailure], Presentable f
      simp [hbare, hnamed])
    obtain rfl := List.right_unique_forall₂' rightUnique_shows hblocks
      (.cons namedFailure_shows (.cons bareFailure_shows (.cons namedFailure_shows .nil)))
    exact h
  · obtain ⟨blocks, hblocks, h⟩ := (listing_covers_issues 5 (withNotes [0, 2, 1]) o).2
      [bareFailure] oddFailure [namedFailure] _ _ rfl (by simp [hbare]) rfl rfl
    obtain rfl := List.right_unique_forall₂' rightUnique_shows hblocks
      (.cons bareFailure_shows .nil)
    exact h

end Session

end Report

end Scriptlet
