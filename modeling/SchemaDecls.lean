import SchemaDecls.Session
import SchemaDecls.Numeral.Reading
import SchemaDecls.Proofs.Trail
import SchemaDecls.Proofs.Visits
import SchemaDecls.Proofs.Exploration
import SchemaDecls.Proofs.PassRules
import SchemaDecls.Proofs.Runs
import SchemaDecls.Proofs.Coverage
import SchemaDecls.Proofs.Declaring
import SchemaDecls.Proofs.Joining
import SchemaDecls.Proofs.SectionText
import SchemaDecls.Proofs.Batch
import SchemaDecls.Proofs.Marks
import SchemaDecls.Proofs.Clashes
import SchemaDecls.Proofs.Depth
import SchemaDecls.Proofs.History
import SchemaDecls.Proofs.Success
import SchemaDecls.Proofs.Omissions
import SchemaDecls.Proofs.Order
import SchemaDecls.Proofs.Alike
import SchemaDecls.Proofs.Rendering
import SchemaDecls.Proofs.ByName
import SchemaDecls.Proofs.Sharing
import SchemaDecls.Proofs.Expansion
import SchemaDecls.Proofs.SelfContained
import SchemaDecls.Proofs.WellFormed
import SchemaDecls.Proofs.Failing
import SchemaDecls.Proofs.Overlooked
import SchemaDecls.Proofs.OptionEffects
import SchemaDecls.Proofs.Descent
import SchemaDecls.Proofs.Termination
import SchemaDecls.Proofs.Bookkeeping
import SchemaDecls.Proofs.Closure
import SchemaDecls.Proofs.SharedIdentifiers
import SchemaDecls.Proofs.Containment
import SchemaDecls.Proofs.Retries
import SchemaDecls.Proofs.PlainDigits
import SchemaDecls.Proofs.Raising
import SchemaDecls.Proofs.IdentifierOpening
import SchemaDecls.Proofs.IdentifierNormalForm
import SchemaDecls.Proofs.TypeTrees
import SchemaDecls.Proofs.Depiction
import SchemaDecls.Proofs.Unfolding
import SchemaDecls.Proofs.PropertyKeys
import SchemaDecls.Proofs.Enclosure
import SchemaDecls.Proofs.ArraySuffix
import SchemaDecls.Proofs.MemberLists
import SchemaDecls.Proofs.LiteralReading
import SchemaDecls.Proofs.EnumReading
import SchemaDecls.Proofs.CommentEnds
import SchemaDecls.Proofs.FileLayout
import SchemaDecls.Proofs.LastMention
