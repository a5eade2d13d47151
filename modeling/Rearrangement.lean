import Rearrangement.Annotator
import Rearrangement.Cells.Run
import Rearrangement.CommandLine.Inputs
import Rearrangement.Main
import Rearrangement.Proofs.Wire
import Rearrangement.Proofs.Problem.Reading
import Rearrangement.Proofs.Problem.Section
import Rearrangement.Proofs.Annotator.Flag
import Rearrangement.Proofs.Canvas.Balance
import Rearrangement.Proofs.Canvas.Highlight
import Rearrangement.Proofs.Cells.Bounds
import Rearrangement.Proofs.Cells.Clicks
import Rearrangement.Proofs.Cells.Coherence
import Rearrangement.Proofs.Cells.Contents
import Rearrangement.Proofs.Cells.Frame
import Rearrangement.Proofs.Cells.Grasp
import Rearrangement.Proofs.Cells.Tracking
import Rearrangement.Proofs.Cells.Redelivery
import Rearrangement.Proofs.Relations.Reopening
import Rearrangement.Proofs.Scene.Touch
import Rearrangement.Proofs.Session.Drift
import Rearrangement.Proofs.Session.Projection
import Rearrangement.Proofs.Session.Rollback
import Rearrangement.Proofs.Session.Sharing
import Rearrangement.Proofs.Service.LastSave
import Rearrangement.Proofs.Store.Listing
import Rearrangement.Proofs.Table.Measured
