import Filing.Job.Registry
import Filing.Proofs.Trace
import Filing.Scenario.Step
import Filing.Settings.Load
import Filing.Proofs.Collision
import Filing.Proofs.Removal
import Filing.Proofs.Moving
import Filing.Proofs.Copying
import Filing.Proofs.Renaming
import Filing.Proofs.Requests
import Filing.Proofs.Integrity
import Filing.Proofs.Cleanly
import Filing.Proofs.Clearing
import Filing.Proofs.Deleting
import Filing.Proofs.Counting
import Filing.Proofs.Tidiness
import Filing.Proofs.View
import Filing.Proofs.Absorbing
import Filing.Proofs.Merging
import Filing.Proofs.Uniting
import Filing.Proofs.Unhindered
import Filing.Proofs.Joining
import Filing.Proofs.Outline
import Filing.Proofs.Growing
import Filing.Proofs.Filling
import Filing.Proofs.Duplicating
import Filing.Proofs.Reproducing
import Filing.Proofs.Naming
import Filing.Proofs.Loops
import Filing.Proofs.Course
import Filing.Proofs.Sparing
import Filing.Proofs.Following
import Filing.Proofs.Single
import Filing.Proofs.Denials
import Filing.Proofs.Depth
import Filing.Proofs.Levels
import Filing.Proofs.Finishing
import Filing.Proofs.Composing
import Filing.Proofs.Adding
import Filing.Proofs.Nesting
import Filing.Proofs.Asking
import Filing.Proofs.Repeating
import Filing.Proofs.Pacing
import Filing.Proofs.Reckoning
import Filing.Proofs.Reconciling
import Filing.Proofs.Noticing
import Filing.Proofs.Alongside
import Filing.Proofs.Lasting
import Filing.Proofs.Working
import Filing.Proofs.Dividing
import Filing.Proofs.Circling
import Filing.Proofs.Climbing
import Filing.Proofs.Numbering
import Filing.Proofs.Suffixing
import Filing.Proofs.Storing
import Filing.Proofs.Replacing
import Filing.Proofs.Relisting
import Filing.Proofs.Exchanging
import Filing.Proofs.Questioning
