/-!
Powers of naturals and integers are core's own, whatever other instances a library adds to them.
-/

attribute [instance (high), default_instance (high + 1)] instPowNat
