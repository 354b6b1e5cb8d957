import ClassGraft.Inheritance
import ClassGraft.Main
import ClassGraft.Merge.Apply
import ClassGraft.Proofs.Merge.Outcome
import ClassGraft.Proofs.Merge.Preservation
import ClassGraft.Proofs.Naming.HandlerNames
import ClassGraft.Proofs.Verification.Merging
import ClassGraft.Proofs.Descriptor.Readers
import ClassGraft.Proofs.Descriptor.RoundTrip
import ClassGraft.Proofs.Verification.Joins
import ClassGraft.Proofs.Merge.Reapplication
import ClassGraft.Proofs.Merge.Visibility
import ClassGraft.Proofs.Hierarchy.Order
import ClassGraft.Proofs.Verification.Symmetry
import ClassGraft.Proofs.Verification.Unification
import ClassGraft.Proofs.Merge.Failure
import ClassGraft.Proofs.Merge.Fields
import ClassGraft.Proofs.Verification.UpperBounds
import ClassGraft.Proofs.Naming.Occurrences
import ClassGraft.Proofs.Hierarchy.Format
import ClassGraft.Proofs.Naming.Overlaps
import ClassGraft.Proofs.Hierarchy.Overrides
import ClassGraft.Proofs.Hierarchy.Worklist
import ClassGraft.Proofs.Hierarchy.Interfaces
import ClassGraft.Proofs.Hierarchy.CommonAncestor
import ClassGraft.Proofs.Verification.Comparisons
import ClassGraft.Proofs.Verification.Transitivity
import ClassGraft.Proofs.Merge.Effect
import ClassGraft.Proofs.Merge.Accounting
import ClassGraft.Proofs.Merge.Frame
import ClassGraft.Proofs.Merge.Idempotence
import ClassGraft.Proofs.Merge.Tidiness
import ClassGraft.Proofs.Merge.Levels
import ClassGraft.Proofs.Naming.UniqueNames
import ClassGraft.Proofs.Verification.Refusals
import ClassGraft.Proofs.Naming.Stripping
import ClassGraft.Proofs.Descriptor.Arrays
import ClassGraft.Proofs.Hierarchy.Growth
import ClassGraft.Proofs.Name.Packages
import ClassGraft.Proofs.Naming.Letters
import ClassGraft.Proofs.Naming.ClassTable
