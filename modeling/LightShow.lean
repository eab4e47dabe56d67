import LightShow.Main
import LightShow.Proofs.Appending
import LightShow.Proofs.AuthoredLinks
import LightShow.Proofs.Capture
import LightShow.Proofs.Deduplication
import LightShow.Proofs.Limits
import LightShow.Proofs.Overruling
import LightShow.Proofs.Presentation
import LightShow.Proofs.Redeployment
import LightShow.Proofs.Typing
import LightShow.Proofs.Readable
import LightShow.Proofs.Wire
import LightShow.Proofs.Cycles
import LightShow.Proofs.EditedScenes
import LightShow.Proofs.Offers
import LightShow.Proofs.Worklist
import LightShow.Proofs.DelayChains
import LightShow.Proofs.Exchange
import LightShow.Proofs.Faults
import LightShow.Proofs.PortLists
import LightShow.Proofs.InnerConstants
import LightShow.Proofs.References
import LightShow.Proofs.UnknownElements
