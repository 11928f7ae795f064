import TurtleLogo.Main
import TurtleLogo.Shell.World
import TurtleLogo.Proofs.Transcript
import TurtleLogo.Proofs.Sharing
import TurtleLogo.Proofs.Integrity
import TurtleLogo.Proofs.Catalog
import TurtleLogo.Proofs.Caching
import TurtleLogo.Proofs.Layout
import TurtleLogo.Proofs.Spelling
import TurtleLogo.Proofs.Histories
import TurtleLogo.Proofs.Samples
import TurtleLogo.Proofs.Literals
import TurtleLogo.Proofs.Brackets
import TurtleLogo.Proofs.CutBlocks
import TurtleLogo.Proofs.Unrolling
import TurtleLogo.Proofs.Failures
import TurtleLogo.Proofs.DepthLimit
import TurtleLogo.Proofs.Atomicity
import TurtleLogo.Proofs.Attribution
import TurtleLogo.Proofs.Readings
import TurtleLogo.Proofs.Nesting
import TurtleLogo.Proofs.Completion
import TurtleLogo.Proofs.Enclosures
import TurtleLogo.Proofs.Lifetimes
import TurtleLogo.Proofs.Strokes
import TurtleLogo.Proofs.Markup
import TurtleLogo.Proofs.Drawings
import TurtleLogo.Proofs.Recency
import TurtleLogo.Proofs.Chunks
import TurtleLogo.Proofs.Frames
import TurtleLogo.Proofs.Json
import TurtleLogo.Proofs.Validation
import TurtleLogo.Proofs.Variables
import TurtleLogo.Proofs.Listings
