import Multimethod.Main
import Multimethod.Shared.Action
import Multimethod.Value.Inspect
import Multimethod.Value.Instance
import Multimethod.Proofs.Selection
import Multimethod.Proofs.Questions
import Multimethod.Proofs.Registration
import Multimethod.Proofs.Reached
import Multimethod.Proofs.Growth
import Multimethod.Proofs.Interleaving
import Multimethod.Proofs.TrailingNulls
import Multimethod.Proofs.Locking
import Multimethod.Proofs.Nesting
import Multimethod.Proofs.Events
import Multimethod.Proofs.PaddedReports
import Multimethod.Proofs.Spelling
import Multimethod.Proofs.Building
import Multimethod.Proofs.OneLine
import Multimethod.Proofs.Verdicts
import Multimethod.Proofs.Answering
import Multimethod.Proofs.Paths
import Multimethod.Proofs.Respelling
import Multimethod.Proofs.Texts
import Multimethod.Proofs.Constructions
import Multimethod.Proofs.Arity
import Multimethod.Proofs.PartialEquivalence
import Multimethod.Proofs.Configurations
import Multimethod.Proofs.Ancestry
import Multimethod.Proofs.RuleTexts
import Multimethod.Proofs.PrintedSchemas
import Multimethod.Proofs.Classification
import Multimethod.Proofs.Unions
import Multimethod.Proofs.DeadBindings
import Multimethod.Proofs.Brackets
import Multimethod.Proofs.Channels
import Multimethod.Proofs.InstanceFields
