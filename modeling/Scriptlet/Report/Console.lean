import Scriptlet.Report.Basic

/-!
# The console listing of a report

All noted failures as a listing: a banner and an outburst, then for each failure a rule, its kind
and message, and the illustrated site if it is known. What shows one failure is put out in one piece
after its rule, so a site that cannot be illustrated ends the listing right there.
-/

namespace Scriptlet

/-- The choices that make an outburst. -/
structure Outburst where
  particle : Fin 5
  oath : Fin 8
  resignation : Fin 3

namespace Outburst

/-- How an outburst may begin. -/
def particles : Vector String 5 :=
  #v["Oh, ", "Well, ", "Aw, ", "", ""]

/-- What it may call out. -/
def oaths : Vector String 8 :=
  #v["Drat", "Rats", "Nuts", "Fiddlesticks", "Good Grief", "Curses", "Crikey", "Jeepers"]

/-- How it may end. -/
def resignations : Vector String 3 :=
  #v["The script cannot go on.", "Evaluation stops here.", "Something needs fixing."]

/-- An outburst in words. -/
def text (o : Outburst) : String :=
  particles[o.particle] ++ oaths[o.oath] ++ "! " ++ resignations[o.resignation]

end Outburst

namespace Report

/-- The line at the head of a listing. -/
def banner : String := String.ofList (List.replicate 60 '*')

/-- The line before each failure of a listing. -/
def rule : String := String.join (List.replicate 20 "  -")

/-- A failure as a listing shows it. -/
def entry (f : Failure) : Except Fault String :=
  let headline := f.kind.name ++ ": " ++ f.message
  match f.site with
  | none => .ok headline
  | some site => do
    let picture ← site.illustrate ""
    return headline ++ "\n" ++ picture

/-- Failures as a listing. -/
def listing : List Failure → Printout
  | [] => ⟨"", none⟩
  | f :: rest =>
    ((Printout.line [.ok rule]).followedBy (.line [entry f])).followedBy (listing rest)

/-- The whole listing of a report, with nothing at all when nothing is noted. -/
def console (r : Report) (o : Outburst) : Printout :=
  match r.issues with
  | [] => ⟨"", none⟩
  | f :: rest =>
    ((Printout.line [.ok banner]).followedBy (.line [.ok o.text])).followedBy (listing (f :: rest))

end Report

end Scriptlet
