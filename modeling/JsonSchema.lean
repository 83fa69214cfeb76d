import JsonSchema.Message
import JsonSchema.Settings.File
import JsonSchema.Validator.Schema
import JsonSchema.Proofs.Compiled.Acyclic
import JsonSchema.Proofs.Compiled.Entries
import JsonSchema.Proofs.Compiled.Translation
import JsonSchema.Proofs.Merge.Approximation
import JsonSchema.Proofs.Merge.Copies
import JsonSchema.Proofs.Merge.Exchange
import JsonSchema.Proofs.Merge.Increments
import JsonSchema.Proofs.Merge.Keys
import JsonSchema.Proofs.Merge.Restoring
import JsonSchema.Proofs.Merge.Tightest
import JsonSchema.Proofs.Pattern.Matching
import JsonSchema.Proofs.Pointer.Generic
import JsonSchema.Proofs.Pointer.Grammar
import JsonSchema.Proofs.Validator.Agreement
import JsonSchema.Proofs.Validator.Divisibility
import JsonSchema.Proofs.Validator.Enumeration
import JsonSchema.Proofs.Validator.Inversion
import JsonSchema.Proofs.Validator.Standalone
import JsonSchema.Proofs.Reference.Completeness
import JsonSchema.Proofs.Reference.Precedence
import JsonSchema.Proofs.Format.JsonPointer
import JsonSchema.Proofs.Json.Writing
import JsonSchema.Proofs.Expansion.Relocation
import JsonSchema.Proofs.Expansion.Siblings
import JsonSchema.Proofs.Json.Traversal
import JsonSchema.Proofs.Position.RoundTrip
import JsonSchema.Proofs.Format.Time
import JsonSchema.Proofs.Json.Visits
import JsonSchema.Proofs.Json.Classes
