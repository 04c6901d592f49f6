import Schemata.Console.Reading
import Schemata.Console.Run
import Schemata.Main
import Schemata.Proofs.Migration.Agenda
import Schemata.Proofs.Table.Decoding
import Schemata.Proofs.Table.History
import Schemata.Proofs.Table.Invariant
import Schemata.Proofs.Table.Stage
import Schemata.Proofs.Table.Blockage
import Schemata.Proofs.Table.Strictness
import Schemata.Proofs.Migration.Strictness
import Schemata.Proofs.Table.Soundness
import Schemata.Proofs.Table.Constraint
import Schemata.Proofs.Migration.Registration
import Schemata.Proofs.Migration.Isolation
import Schemata.Proofs.Table.Dialects
import Schemata.Proofs.FileTree.Growth
import Schemata.Proofs.Migration.Dialects
import Schemata.Proofs.Skeleton.Alphabet
import Schemata.Proofs.Skeleton.Path
import Schemata.Proofs.Skeleton.Preservation
import Schemata.Proofs.Migration.Events
import Schemata.Proofs.Table.Literals
import Schemata.Proofs.Console.Phases
import Schemata.Proofs.Console.Spelling
import Schemata.Proofs.Console.RoundTrip
import Schemata.Proofs.Identifier.Rules
import Schemata.Proofs.Skeleton.NormalForm
import Schemata.Proofs.Skeleton.Marks
import Schemata.Proofs.Skeleton.TableNames
import Schemata.Proofs.Skeleton.Camel
import Schemata.Proofs.Skeleton.Containment
import Schemata.Proofs.Skeleton.Filling
import Schemata.Proofs.Skeleton.TypeNames
import Schemata.Proofs.Migration.Chronology
import Schemata.Proofs.Console.Drivers
import Schemata.Proofs.Skeleton.Collapse
import Schemata.Proofs.Migration.Elapsed
