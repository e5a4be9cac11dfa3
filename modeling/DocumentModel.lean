import DocumentModel.Dump
import DocumentModel.Proofs.Conformity
import DocumentModel.Store
import DocumentModel.Validation.Checks
import DocumentModel.Validation.Visits
import DocumentModel.Proofs.Change
import DocumentModel.Proofs.Assignment
import DocumentModel.Proofs.Construction
import DocumentModel.Proofs.Hydration
import DocumentModel.Proofs.Store
import DocumentModel.Proofs.Reachable
import DocumentModel.Proofs.ListOwnership
import DocumentModel.Proofs.StoredValues
import DocumentModel.Proofs.Calendar
import DocumentModel.Proofs.DateText
import DocumentModel.Proofs.Settled
import DocumentModel.Proofs.Containment
import DocumentModel.Proofs.Description
import DocumentModel.Proofs.Flattening
import DocumentModel.Proofs.Mirror
import DocumentModel.Proofs.Restoring
import DocumentModel.Proofs.RoundTrip
import DocumentModel.Proofs.ReadBack
import DocumentModel.Proofs.Validity
import DocumentModel.Proofs.Rules
import DocumentModel.Proofs.SaveTimes
import DocumentModel.Proofs.FailedSave
import DocumentModel.Proofs.SaveBack
import DocumentModel.Proofs.CollectionRuns
import DocumentModel.Proofs.ExtendedJson
import DocumentModel.Proofs.Cloning
import DocumentModel.Proofs.LoadedValidity
import DocumentModel.Proofs.NormalForm
import DocumentModel.Proofs.Visits
import DocumentModel.Proofs.Revalidation
import DocumentModel.Proofs.StoreRuns
import DocumentModel.Proofs.Identifiers
import DocumentModel.Proofs.Cycles
import DocumentModel.Proofs.Hierarchy
import DocumentModel.Proofs.ListAssignment
import DocumentModel.Proofs.Grounding
import DocumentModel.Proofs.Filling
import DocumentModel.Proofs.Lookups
import DocumentModel.Proofs.Retaining
import DocumentModel.Proofs.Timestamps
import DocumentModel.Proofs.JsonEquality
import DocumentModel.Proofs.Filters
import DocumentModel.Proofs.Defaults
import DocumentModel.Proofs.GivenValues
import DocumentModel.Proofs.Relevance
import DocumentModel.Proofs.Unfolding
import DocumentModel.Proofs.Isolation
import DocumentModel.Proofs.ItemChecks
import DocumentModel.Proofs.OperationLog
import DocumentModel.Proofs.Closure
import DocumentModel.Proofs.Effect
import DocumentModel.Proofs.Writing
import DocumentModel.Proofs.Stuck
import DocumentModel.Proofs.Stability
import DocumentModel.Proofs.Renaming
import DocumentModel.Proofs.Commuting
import DocumentModel.Proofs.ByteOrder
import DocumentModel.Proofs.LogLines
import DocumentModel.Proofs.TypedLists
