/-!
# Notices

The words of a fault: what this library says about it, the general before the particular, and last
the cause as the reader of another format words it.
-/

namespace OpcUa

structure Notice where
  said : List String
  cause : Option String := none
  deriving DecidableEq, Repr

def Notice.text (n : Notice) : String :=
  ": ".intercalate (n.said ++ n.cause.toList)

end OpcUa
