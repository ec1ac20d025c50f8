namespace ControlLoop

/-! # Powers

Natural powers of naturals and of integers are computed by `Nat.pow` and `Int.pow`. The two
instances below say so ahead of any other instance a library in scope may offer for the
same operation, both in instance search and as default instances (which settle a power of
two literals such as `2 ^ 64`, whose exponent has no type yet), so that a power denotes one
and the same term in every module, whatever it imports.
-/

/-- Natural powers of naturals, by `Nat.pow`. -/
@[default_instance 10001]
instance (priority := 10000) natPow : Pow Nat Nat := instPowNat

/-- Natural powers of integers, by `Int.pow`. -/
@[default_instance 10001]
instance (priority := 10000) intPow : Pow Int Nat := instPowNat

end ControlLoop
