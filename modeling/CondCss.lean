import CondCss.Bus
import CondCss.Cli.FileTree
import CondCss.Main
import CondCss.Proofs.Conditional.Errors
import CondCss.Proofs.Expand.Comments
import CondCss.Proofs.Expand.Parentheses
import CondCss.Proofs.Expand.PassThrough
import CondCss.Proofs.Expand.ReadBack
import CondCss.Proofs.Expand.SelectorComments
import CondCss.Proofs.Expand.StrayCalls
import CondCss.Proofs.Media.Conjunction
import CondCss.Proofs.Minify.Strings
import CondCss.Proofs.Platform.Notices
import CondCss.Proofs.Render.Agreement
import CondCss.Proofs.Render.Reprocessing
import CondCss.Proofs.Scan.Positions
import CondCss.Proofs.Session.BadLinks
import CondCss.Proofs.Session.Failures
import CondCss.Proofs.Session.LifeCycle
import CondCss.Proofs.Session.Origins
import CondCss.Proofs.Session.Retracking
import CondCss.Proofs.Session.Staleness
import CondCss.Proofs.Tracking.Sharing
import CondCss.Session
