import Scriptlet.Bench
import Scriptlet.Report.Session
import Scriptlet.Proofs.Path.Linked
import Scriptlet.Proofs.Returns
import Scriptlet.Proofs.Frames
import Scriptlet.Proofs.Safety
import Scriptlet.Proofs.Sites
import Scriptlet.Proofs.Report.Limit
import Scriptlet.Proofs.Verbosity
import Scriptlet.Proofs.Lines
import Scriptlet.Proofs.Identity
import Scriptlet.Proofs.Semantics.Evaluate
import Scriptlet.Proofs.Depth
import Scriptlet.Proofs.Bench
import Scriptlet.Proofs.Report.Log
import Scriptlet.Proofs.Heap.Picture
import Scriptlet.Proofs.Comparison
import Scriptlet.Proofs.Construction
import Scriptlet.Proofs.Transcript
import Scriptlet.Proofs.Division
import Scriptlet.Proofs.Node.Visible
import Scriptlet.Proofs.Sequencing
import Scriptlet.Proofs.Scopes
import Scriptlet.Proofs.Calls
import Scriptlet.Proofs.Report.Console
