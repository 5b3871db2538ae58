import TokenForest.Main
import TokenForest.Proofs.Forest.Flattening
import TokenForest.Proofs.Forest.Nesting
import TokenForest.Proofs.Forest.Grammar
import TokenForest.Proofs.Forest.Growth
import TokenForest.Proofs.Forest.Regrouping
import TokenForest.Proofs.Forest.Pruning
import TokenForest.Proofs.Taxonomy.Segments
import TokenForest.Proofs.Taxonomy.Tries
import TokenForest.Proofs.Taxonomy.Walk
import TokenForest.Proofs.Taxonomy.Consistency
import TokenForest.Proofs.Taxonomy.Lookup
import TokenForest.Proofs.Dump.Reading
import TokenForest.Proofs.Dump.RoundTrip
import TokenForest.Proofs.Classification.Stream
import TokenForest.Proofs.Classification.Positions
import TokenForest.Proofs.Classification.Steps
import TokenForest.Proofs.Text.Quoting
import TokenForest.Proofs.Classification.Lines
import TokenForest.Proofs.Output.Streaming
import TokenForest.Proofs.Output.Lossless
import TokenForest.Proofs.Forest.Closing
import TokenForest.Proofs.Forest.Depth
import TokenForest.Proofs.Forest.Groups
import TokenForest.Proofs.Forest.Tracking
import TokenForest.Proofs.Forest.Recovery
import TokenForest.Proofs.Forest.Misfits
import TokenForest.Proofs.CommandLine.Flags
import TokenForest.Proofs.CommandLine.Reports
import TokenForest.Proofs.CommandLine.Files
import TokenForest.Proofs.CommandLine.Outcome
import TokenForest.Proofs.Forest.Detaching
import TokenForest.Proofs.Taxonomy.Coverage
import TokenForest.Proofs.Taxonomy.Listing
import TokenForest.Proofs.Taxonomy.Refinement
import TokenForest.Proofs.Taxonomy.Standard
import TokenForest.Proofs.Diagnostic.Naming
import TokenForest.Proofs.Dump.Locality
import TokenForest.Proofs.Diagnostic.Colours
import TokenForest.Proofs.Output.Rendering
import TokenForest.Proofs.Classification.Saturation
