/-!
Powers of natural numbers. Where algebra is imported, `b ^ e` could also be read as a power in a
monoid; here it is always the core library's, so that a definition is the same to a program that
runs it and to a proof about it.
-/

namespace ControlPlane

@[default_instance 20000]
instance (priority := 20000) corePow : Pow Nat Nat := instPowNat

end ControlPlane
