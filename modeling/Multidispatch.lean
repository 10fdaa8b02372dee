import Multidispatch.Interpreter
import Multidispatch.Native.Host
import Multidispatch.Program.Equality
import Multidispatch.Proofs.Action
import Multidispatch.Proofs.Task
import Multidispatch.Proofs.CallEntry
import Multidispatch.Proofs.Simulation
import Multidispatch.Proofs.Invariant
import Multidispatch.Proofs.Nesting
import Multidispatch.Proofs.ScopeDiscipline
import Multidispatch.Proofs.Bisimilarity
import Multidispatch.Proofs.LexicalIsolation
import Multidispatch.Proofs.CallEffects
import Multidispatch.Proofs.Agreement
import Multidispatch.Proofs.Coupling
import Multidispatch.Proofs.Tolerance
import Multidispatch.Proofs.DepthLimit
import Multidispatch.Proofs.PreludeNatives
import Multidispatch.Proofs.Backtraces
import Multidispatch.Proofs.OverloadMap
import Multidispatch.Proofs.Desugaring
import Multidispatch.Proofs.Tables
import Multidispatch.Proofs.ScopingAgreement
import Multidispatch.Proofs.Stored
import Multidispatch.Proofs.Termination
import Multidispatch.Proofs.Ascent
import Multidispatch.Proofs.Resolution
import Multidispatch.Proofs.NameIndependence
import Multidispatch.Proofs.Allocation
import Multidispatch.Proofs.BufferFrame
import Multidispatch.Proofs.EqualityLaws
import Multidispatch.Proofs.NameTable
import Multidispatch.Proofs.Assignment
import Multidispatch.Proofs.Quotation
import Multidispatch.Proofs.Selection
import Multidispatch.Proofs.Unambiguity
import Multidispatch.Proofs.NativeContract
import Multidispatch.Proofs.PreludeCalls
import Multidispatch.Proofs.PreludeInSight
import Multidispatch.Proofs.FloatOrder
import Multidispatch.Proofs.TextOrder
import Multidispatch.Proofs.Comparisons
import Multidispatch.Proofs.VectorCalls
import Multidispatch.Proofs.Ranges
import Multidispatch.Proofs.IntegerArithmetic
import Multidispatch.Proofs.Occurrence
import Multidispatch.Proofs.StringCalls
