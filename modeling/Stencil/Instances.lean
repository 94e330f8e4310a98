/-! # Instances of the core library

Mathlib has instances of its own for powers of numbers, for the hashes of characters and for the
equality of bytes. Those of the core library are taken in either case, so that what runs is what
proofs speak of.
-/

attribute [instance (high)] instPowNat instHashableChar ByteArray.instDecidableEq

attribute [default_instance 20000] instPowNat
