/-!
The settings of a compiler: how deeply composite filters may nest, how many rules may
apply to one reference, and how show files are written.
-/

namespace LightShow

structure Schema where
  namespaceName : String := "http://www.technikradio.org/schemas/showfile"
  location : String := "http://www.technikradio.org/schemas/showfile showfile-v1.xsd"
  deriving DecidableEq, Repr

structure Settings where
  maxExpansionDepth : Nat := 32
  maxSubstitutionSteps : Nat := 64
  schema : Schema := {}
  /-- Spaces by which each level of a file is indented, or `none` for one long line. -/
  indent : Option Nat := some 2
  deriving DecidableEq, Repr

end LightShow
