import Grapher.Formula.Counter
import Grapher.Formula.Grammar
import Grapher.Formula.Meaning
import Grapher.Host.Interface
import Grapher.Session.Rules
import Grapher.Proofs.Formula.Compilation
import Grapher.Proofs.Formula.Chain
import Grapher.Proofs.Formula.Soundness
import Grapher.Proofs.Formula.Completeness
import Grapher.Proofs.Sampling.Cut
import Grapher.Proofs.Sampling.Segmentation
import Grapher.Proofs.Number.Nearest
import Grapher.Proofs.Number.Rounding
import Grapher.Proofs.Number.Double
import Grapher.Proofs.Sampling.Count
import Grapher.Proofs.Session.Runs
import Grapher.Proofs.Number.Sameness
import Grapher.Proofs.Sampling.Level
import Grapher.Proofs.Number.Operations
import Grapher.Proofs.Number.Error
import Grapher.Proofs.Number.Overflow
import Grapher.Proofs.Sampling.Positions
import Grapher.Proofs.Formula.Levels
import Grapher.Proofs.Formula.Scanning
import Grapher.Proofs.Formula.Composition
import Grapher.Proofs.Formula.Blame
import Grapher.Proofs.Sampling.Cause
import Grapher.Proofs.Session.Plots
import Grapher.Proofs.Formula.Step
import Grapher.Proofs.Sampling.Coordinates
import Grapher.Proofs.Host.Steps
import Grapher.Proofs.Number.Infinity
import Grapher.Proofs.Sampling.Events
import Grapher.Proofs.Formula.Depth
import Grapher.Proofs.Formula.Counter
import Grapher.Proofs.Formula.Parallel
import Grapher.Proofs.Formula.Abbreviation
import Grapher.Proofs.Formula.Lexing
import Grapher.Proofs.Formula.Spelling
import Grapher.Proofs.Formula.Height
import Grapher.Proofs.Formula.Domains
import Grapher.Proofs.Formula.Poles
import Grapher.Proofs.Formula.Resolution
import Grapher.Proofs.Number.Closest
import Grapher.Proofs.Sampling.Refusal
import Grapher.Proofs.Sampling.Bounds
import Grapher.Proofs.Sampling.Comparison
import Grapher.Proofs.Sampling.Threshold
import Grapher.Proofs.Sampling.Extension
import Grapher.Proofs.Formula.Size
import Grapher.Proofs.Sampling.Relevance
import Grapher.Proofs.Host.Settings
