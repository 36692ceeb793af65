import PivotedQuery.Main
import PivotedQuery.Proofs.Query.Affinity
import PivotedQuery.Proofs.Query.Text
import PivotedQuery.Proofs.Query.Rendering
import PivotedQuery.Proofs.Pivot.Fetching
import PivotedQuery.Proofs.Value.Literal
import PivotedQuery.Proofs.Containment.Agreement
import PivotedQuery.Proofs.Reference.Iteration
import PivotedQuery.Proofs.Session.Iteration
import PivotedQuery.Proofs.Session.Worker
import PivotedQuery.Proofs.Session.Accounting
import PivotedQuery.Proofs.Session.Lawful
import PivotedQuery.Proofs.Session.Lifecycle
import PivotedQuery.Proofs.Session.Closing
import PivotedQuery.Proofs.Session.Findings
import PivotedQuery.Proofs.Session.Interleaving
import PivotedQuery.Proofs.Session.Independence
import PivotedQuery.Proofs.Session.Unbroken
import PivotedQuery.Proofs.Session.Protocol
import PivotedQuery.Proofs.CommandLine.ExitCode
import PivotedQuery.Proofs.Store.Registry
import PivotedQuery.Proofs.Value.Order
import PivotedQuery.Proofs.Predicate.Substitution
import PivotedQuery.Proofs.Query.WellFormed
import PivotedQuery.Proofs.Containment.Verdict
import PivotedQuery.Proofs.Population.Accounting
import PivotedQuery.Proofs.Statement.Names
import PivotedQuery.Proofs.Schema.Affinity
import PivotedQuery.Proofs.Value.Forms
import PivotedQuery.Proofs.Statement.Indexing
import PivotedQuery.Proofs.Statement.Insertion
import PivotedQuery.Proofs.Pivot.Association
import PivotedQuery.Proofs.Random.Identity
import PivotedQuery.Proofs.Schema.Renewal
import PivotedQuery.Proofs.Containment.Case
