import BoundSql.Json.Printer
import BoundSql.Row.Json
import BoundSql.Session
import BoundSql.Value.Literal
import BoundSql.Proofs.Clauses
import BoundSql.Proofs.Acceptance
import BoundSql.Proofs.Binding
import BoundSql.Proofs.Erasure
import BoundSql.Proofs.FilterReading
import BoundSql.Proofs.FilterJoining
import BoundSql.Proofs.Results
import BoundSql.Proofs.Configuration
import BoundSql.Proofs.Shortening
import BoundSql.Proofs.Occurrences
import BoundSql.Proofs.Accounting
import BoundSql.Proofs.FilterPlace
import BoundSql.Proofs.SelectText
import BoundSql.Proofs.OneRow
import BoundSql.Proofs.ChangeReading
import BoundSql.Proofs.Equalities
import BoundSql.Proofs.LeadingWord
import BoundSql.Proofs.Numerals
import BoundSql.Proofs.LiteralReading
import BoundSql.Proofs.JsonReading
import BoundSql.Proofs.Terminator
