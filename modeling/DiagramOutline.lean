import DiagramOutline.CommandLine
import DiagramOutline.Main
import DiagramOutline.Proofs.Diagram.Counts
import DiagramOutline.Proofs.Ranges
import DiagramOutline.Proofs.WellFormed
import DiagramOutline.Proofs.Interiors
import DiagramOutline.Proofs.LineByLine
import DiagramOutline.Proofs.Comments
import DiagramOutline.Proofs.Literals
import DiagramOutline.Proofs.QuotedConnections
import DiagramOutline.Proofs.TopLevel
import DiagramOutline.Proofs.Depths
import DiagramOutline.Proofs.Parts
import DiagramOutline.Proofs.Coherence
import DiagramOutline.Proofs.Heights
import DiagramOutline.Proofs.Offsets
import DiagramOutline.Proofs.Tiling
import DiagramOutline.Proofs.Records
import DiagramOutline.Proofs.Spans
import DiagramOutline.Proofs.Enclosure
import DiagramOutline.Proofs.OwnLabels
import DiagramOutline.Proofs.Diagram.LabelAgreement
import DiagramOutline.Proofs.Fragments
import DiagramOutline.Proofs.Reports
import DiagramOutline.Proofs.ConnectionNames
import DiagramOutline.Proofs.TrailingBlanks
import DiagramOutline.Proofs.Failures
import DiagramOutline.Proofs.Stretches
import DiagramOutline.Proofs.LineNames
import DiagramOutline.Proofs.Termination
import DiagramOutline.Proofs.QuotedLabels
import DiagramOutline.Proofs.MatchingBraces
