/-
Canonical operations.

The powers of numbers and the order of lists are always those of the core library, whatever else is
known of numbers and lists. So a definition means the same wherever it is read.
-/
namespace Teller

attribute [default_instance 20000, instance (high)] instPowNat

attribute [instance (high)] List.instLE

end Teller
