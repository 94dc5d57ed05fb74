/-!
URL libraries. The program takes no URL apart itself; it asks a library for the parts of one.
-/

namespace ProverInput

structure UrlParts where
  scheme : Option String := none
  host : Option String := none
  port : Option String := none
  deriving DecidableEq, Repr

/-- A library reads a URL, or says in its own words what is wrong with it. -/
structure UrlLibrary where
  read : String → Except String UrlParts

end ProverInput
