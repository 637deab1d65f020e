import ClassBatch.Main
import ClassBatch.Batch.Token
import ClassBatch.Proofs.Batch.Ledger
import ClassBatch.Proofs.Batch.Records
import ClassBatch.Proofs.Batch.Rules
import ClassBatch.Proofs.Batch.Runs
import ClassBatch.Proofs.Batch.Attempts
import ClassBatch.Proofs.Batch.Delivery
import ClassBatch.Proofs.Batch.Settling
import ClassBatch.Proofs.Batch.Winners
import ClassBatch.Proofs.Batch.Verdict
import ClassBatch.Proofs.Batch.Refinement
import ClassBatch.Proofs.Batch.Liveness
import ClassBatch.Proofs.Batch.Masking
import ClassBatch.Proofs.Batch.Reporting
import ClassBatch.Proofs.Batch.Waking
import ClassBatch.Proofs.Batch.Finality
import ClassBatch.Proofs.Batch.Calls
import ClassBatch.Proofs.Batch.Cancelling
import ClassBatch.Proofs.Batch.Deadlines
import ClassBatch.Proofs.Tool.Extraction
import ClassBatch.Proofs.Tool.Listing
import ClassBatch.Proofs.Source.Stubs
import ClassBatch.Proofs.Catalog.Segments
import ClassBatch.Proofs.Files.Writes
import ClassBatch.Proofs.Batch.Courses
import ClassBatch.Proofs.Bundle
import ClassBatch.Proofs.Program
import ClassBatch.Proofs.Regex.Matching
import ClassBatch.Proofs.Regex.Escapes
import ClassBatch.Proofs.Regex.Brackets
import ClassBatch.Proofs.Regex.Tokens
import ClassBatch.Proofs.Regex.Framing
import ClassBatch.Proofs.Pattern
import ClassBatch.Proofs.Batch.Accounts
import ClassBatch.Proofs.Files.Keeping
import ClassBatch.Proofs.Selection
import ClassBatch.Proofs.Tool.Cfr
import ClassBatch.Proofs.Tool.Sparing
import ClassBatch.Proofs.Conclusion
import ClassBatch.Proofs.Batch.Orders
import ClassBatch.Proofs.Source.Escapes
import ClassBatch.Proofs.Source.Translation
import ClassBatch.Proofs.Source.Escaping
import ClassBatch.Proofs.Spelling
import ClassBatch.Proofs.Package
import ClassBatch.Proofs.Normalizing
import ClassBatch.Proofs.Catalog.Families
import ClassBatch.Proofs.Batch.Timekeeping
import ClassBatch.Proofs.Batch.Answering
import ClassBatch.Proofs.Batch.Instances
import ClassBatch.Batch.Timed
import ClassBatch.Proofs.Batch.Timeouts
import ClassBatch.Proofs.Files.Subtrees
import ClassBatch.Proofs.Tool.Emptying
import ClassBatch.Proofs.Tool.Reuse
import ClassBatch.Proofs.Source.Separators
import ClassBatch.Proofs.Progress.Estimates
import ClassBatch.Proofs.Progress.Lines
import ClassBatch.Proofs.Tool.Outcomes
import ClassBatch.Proofs.Files.Searches
import ClassBatch.Proofs.Source.Placeholders
import ClassBatch.Proofs.Tool.Installing
import ClassBatch.Proofs.Source.Scanning
import ClassBatch.Proofs.Batch.Tokens
import ClassBatch.Proofs.Batch.Rehearsals
