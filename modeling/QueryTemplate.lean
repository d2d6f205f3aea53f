import QueryTemplate.Argument.Conversion
import QueryTemplate.Argument.Equality
import QueryTemplate.Argument.Json
import QueryTemplate.Compilation.Compiler
import QueryTemplate.Json.Reader
import QueryTemplate.Proofs.Argument.Entries
import QueryTemplate.Proofs.Argument.Equality
import QueryTemplate.Proofs.Argument.Json
import QueryTemplate.Proofs.Argument.Positional
import QueryTemplate.Proofs.Argument.Restoring
import QueryTemplate.Proofs.Binary64.Spelling
import QueryTemplate.Proofs.Compilation.Collections
import QueryTemplate.Proofs.Compilation.Composition
import QueryTemplate.Proofs.Compilation.Deletion
import QueryTemplate.Proofs.Compilation.Eliding
import QueryTemplate.Proofs.Compilation.Escaping
import QueryTemplate.Proofs.Compilation.Failure
import QueryTemplate.Proofs.Compilation.LeadingNumbers
import QueryTemplate.Proofs.Compilation.NumericTags
import QueryTemplate.Proofs.Compilation.Recompiling
import QueryTemplate.Proofs.Compilation.Rekeying
import QueryTemplate.Proofs.Compilation.Reporting
import QueryTemplate.Proofs.Compilation.Skipping
import QueryTemplate.Proofs.Compilation.Unskipped
import QueryTemplate.Proofs.Quoting.Containment
import QueryTemplate.Proofs.Quoting.Delimiting
import QueryTemplate.Proofs.Rendering.Accumulation
import QueryTemplate.Proofs.Template.Merging
import QueryTemplate.Proofs.Template.Positions
import QueryTemplate.Proofs.Template.Printing
import QueryTemplate.Proofs.Template.Tokenizing
import QueryTemplate.Proofs.Text.Shortening
