import Vacancy.Host.Machine
import Vacancy.Main
import Vacancy.Proofs.Choices
import Vacancy.Proofs.Containment
import Vacancy.Proofs.Dependence
import Vacancy.Proofs.Edits
import Vacancy.Proofs.Foreign
import Vacancy.Proofs.Identifiers
import Vacancy.Proofs.Isolation
import Vacancy.Proofs.KeptKinds
import Vacancy.Proofs.Lexemes
import Vacancy.Proofs.MaskedPlan
import Vacancy.Proofs.Operands
import Vacancy.Proofs.Opposites
import Vacancy.Proofs.Quarters
import Vacancy.Proofs.RangeBounds
import Vacancy.Proofs.ReadBack
import Vacancy.Proofs.References
import Vacancy.Proofs.RuleAsFilter
import Vacancy.Proofs.Saved
import Vacancy.Proofs.Series
import Vacancy.Proofs.Shelf
import Vacancy.Proofs.Stream
import Vacancy.Proofs.Validation
import Vacancy.TabularStore.Recording
import Vacancy.View.Starter
