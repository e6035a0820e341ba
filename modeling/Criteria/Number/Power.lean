/-!
# Powers

Powers of naturals and of integers are those of the core library in every
module, also where an algebra library offers another instance.  So the powers
in a definition and in the theorems about it are the same terms.
-/

attribute [instance (20000)] instPowNat

attribute [default_instance 20000] instPowNat
