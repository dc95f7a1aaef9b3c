import VirtualFields.Config.Load
import VirtualFields.Contract
import VirtualFields.Derivation.Create
import VirtualFields.Samples
import VirtualFields.Ty.Order
import VirtualFields.Proofs.Config.Loading
import VirtualFields.Proofs.Expr.Calls
import VirtualFields.Proofs.Expr.Kind
import VirtualFields.Proofs.Expr.Soundness
import VirtualFields.Proofs.Expr.Inline
import VirtualFields.Proofs.Expr.Words
import VirtualFields.Proofs.Expr.Polynomials
import VirtualFields.Proofs.Expr.Widths
import VirtualFields.Proofs.Expr.Division
import VirtualFields.Proofs.Expr.Shifts
import VirtualFields.Proofs.Expr.Comparisons
import VirtualFields.Proofs.Expr.DeclaredTypes
import VirtualFields.Proofs.Ty.Ancestry
import VirtualFields.Proofs.Ty.Reachability
import VirtualFields.Proofs.Ty.Transitivity
import VirtualFields.Proofs.Ty.Order
import VirtualFields.Proofs.Text.QualifiedNames
import VirtualFields.Proofs.Text.Types
import VirtualFields.Proofs.Text.Contracts
import VirtualFields.Proofs.Registry.Overlap
import VirtualFields.Proofs.Registry.Extension
import VirtualFields.Proofs.Registry.Accessors
import VirtualFields.Proofs.Registry.Monotonicity
import VirtualFields.Proofs.Value.Meaning
import VirtualFields.Proofs.Derivation.Interning
import VirtualFields.Proofs.Derivation.Trust
import VirtualFields.Proofs.Derivation.Precision
import VirtualFields.Proofs.Derivation.Tagging
import VirtualFields.Proofs.Derivation.Tightening
import VirtualFields.Proofs.Derivation.Lengths
import VirtualFields.Proofs.Derivation.Concatenation
import VirtualFields.Proofs.Derivation.Orders
import VirtualFields.Proofs.Derivation.Soundness
