/-!
Powers with a natural number as exponent. They are core's wherever they are
written, whatever other powers a module knows.
-/

attribute [instance (20000), default_instance (20000)] instPowNat
