import SqlBuilder.Dialect.Custom
import SqlBuilder.Execution.Scripted
import SqlBuilder.Proofs.Batches
import SqlBuilder.Proofs.BoundValues
import SqlBuilder.Proofs.Checkouts
import SqlBuilder.Proofs.Deletes
import SqlBuilder.Proofs.InPlace
import SqlBuilder.Proofs.Injection
import SqlBuilder.Proofs.Inserts
import SqlBuilder.Proofs.NativePlaceholders
import SqlBuilder.Proofs.Placeholders
import SqlBuilder.Proofs.Refusals
import SqlBuilder.Proofs.SchemaPlaceholders
import SqlBuilder.Proofs.StoredDefinitions
import SqlBuilder.Proofs.UndefinedValues
import SqlBuilder.Proofs.WritePlaceholders
import SqlBuilder.Render.OperandCalls
import SqlBuilder.Memory.Containers
import SqlBuilder.Memory.Mutations
import SqlBuilder.Session
import SqlBuilder.Uuid
import SqlBuilder.Proofs.InsertedRows
import SqlBuilder.Proofs.StoredRows
import SqlBuilder.Proofs.TableRebuilds
import SqlBuilder.Proofs.Confined
import SqlBuilder.Proofs.ConfinedOperands
import SqlBuilder.Proofs.ConfinedClauses
import SqlBuilder.Proofs.ConfinedStatements
import SqlBuilder.Proofs.ConfinedChanges
import SqlBuilder.Proofs.ConfinedCalls
import SqlBuilder.Proofs.ConfinedScripts
import SqlBuilder.Proofs.ConfinedLevels
import SqlBuilder.Proofs.Memories
import SqlBuilder.Proofs.Mutations
import SqlBuilder.Proofs.StoredCalls
import SqlBuilder.Proofs.Sessions
import SqlBuilder.Proofs.Clones
import SqlBuilder.Proofs.Locks
import SqlBuilder.Proofs.Rollbacks
import SqlBuilder.Proofs.IndependentCalls
import SqlBuilder.Proofs.NameRecursion
import SqlBuilder.Proofs.RowCounts
import SqlBuilder.Proofs.NullsOrders
import SqlBuilder.Proofs.Enclosed
import SqlBuilder.Proofs.IdentifierPlaces
import SqlBuilder.Proofs.NestedIdentifiers
import SqlBuilder.Proofs.Aliases
import SqlBuilder.Proofs.SplitDefinitions
import SqlBuilder.Proofs.ConstraintRebuilds
import SqlBuilder.Proofs.NullabilityRebuilds
import SqlBuilder.Proofs.PositionalTemplates
import SqlBuilder.Proofs.NamedTemplates
import SqlBuilder.Proofs.ConstraintNames
import SqlBuilder.Proofs.DroppedConstraints
import SqlBuilder.Proofs.PartialIndexes
import SqlBuilder.Proofs.DriverForms
import SqlBuilder.Proofs.InlinedValues
import SqlBuilder.Proofs.CastTemplates
import SqlBuilder.Proofs.TextLiterals
import SqlBuilder.Proofs.ArrayLiterals
import SqlBuilder.Proofs.Calendar
import SqlBuilder.Proofs.Timestamps
import SqlBuilder.Proofs.JoinConditions
import SqlBuilder.Proofs.ListedColumns
import SqlBuilder.Proofs.DelimitedNames
import SqlBuilder.Proofs.JsonPaths
import SqlBuilder.Proofs.SchemaPositions
import SqlBuilder.Proofs.AlteredTables
import SqlBuilder.Proofs.PackedUuids
