import ParallelFortran.Main
import ParallelFortran.Proofs.BuildOrder
import ParallelFortran.Proofs.RoutineOrder
import ParallelFortran.Proofs.LineJoining
import ParallelFortran.Proofs.CalleeNames
import ParallelFortran.Proofs.Packing
import ParallelFortran.Proofs.Transparency
import ParallelFortran.Proofs.SharedTemplates
import ParallelFortran.Proofs.DomainNames
import ParallelFortran.Proofs.HostCopies
import ParallelFortran.Proofs.StoredSymbols
import ParallelFortran.Proofs.Records
import ParallelFortran.Proofs.Construction
import ParallelFortran.Proofs.Conformity
import ParallelFortran.Proofs.QuoteSearch
import ParallelFortran.Proofs.DomainOrder
import ParallelFortran.Proofs.TreeComparison
import ParallelFortran.Proofs.Declarations
import ParallelFortran.View
