import Callsite.Registry.Inspect
import Callsite.Registry.Query
import Callsite.Registry.Registration
import Callsite.Registry.Sharing
import Callsite.Proofs.Memory.Learning
import Callsite.Proofs.Registry.Growth
import Callsite.Proofs.Registry.WellFormed
import Callsite.Proofs.Registry.Drafting
import Callsite.Proofs.Registry.Agreement
import Callsite.Proofs.Memory.Questions
import Callsite.Proofs.Memory.Provenance
import Callsite.Proofs.Binding.CallTyping
import Callsite.Proofs.Memory.Stability
import Callsite.Proofs.Memory.Coherence
import Callsite.Proofs.Overload.Unambiguous
import Callsite.Proofs.Overload.Specificity
import Callsite.Proofs.Binding.Family
import Callsite.Proofs.Access.Direct
import Callsite.Proofs.Access.Registering
import Callsite.Proofs.Binding.Failures
import Callsite.Proofs.Access.Answering
import Callsite.Proofs.Memory.Parallel
import Callsite.Proofs.Registry.Refusal
import Callsite.Proofs.Registry.Frame
import Callsite.Proofs.Memory.Eagerness
import Callsite.Proofs.Memory.Permanence
import Callsite.Proofs.Typing.Growth
import Callsite.Proofs.Typing.Order
import Callsite.Proofs.Typing.Retention
import Callsite.Proofs.Memory.Dispatches
import Callsite.Proofs.Memory.Laziness
import Callsite.Proofs.Typing.Naming
import Callsite.Proofs.Typing.BlankText
import Callsite.Proofs.Binding.Selected
import Callsite.Proofs.Binding.Rebinding
import Callsite.Proofs.Overload.Addition
import Callsite.Proofs.Binding.Narrowing
import Callsite.Proofs.Binding.Contexts
import Callsite.Proofs.Binding.Fallback
import Callsite.Proofs.Memory.Reflexivity
import Callsite.Proofs.Overload.Twins
import Callsite.Proofs.Text.ByteOrder
import Callsite.Proofs.Text.Closest
import Callsite.Proofs.Registry.Suggestion
import Callsite.Proofs.Registry.Membership
import Callsite.Proofs.Binding.Operands
import Callsite.Proofs.Signature.TypeText
import Callsite.Proofs.Text.Qualified
