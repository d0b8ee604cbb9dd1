-- Powers of whole numbers are those of the core library, also where other libraries offer powers.
attribute [instance (20000), default_instance (20000)] instPowNat
