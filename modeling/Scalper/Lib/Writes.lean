/-!
# Writes of which not all is heard

A write is done, is not done, or is done without the one who asked hearing of it.  Whether it took
effect and whether it was heard of are two questions; only the first one is about what is stored.
-/

set_option autoImplicit false

namespace Scalper.Lib

/-- What the caller of a write hears of it. -/
inductive WriteResult where
  | done
  | failed
  /-- The write took effect, and the answer was lost. -/
  | unheard
  deriving DecidableEq, Repr

/-- Whether a write took effect. -/
def WriteResult.takes : WriteResult → Bool
  | .done | .unheard => true
  | .failed => false

def WriteResult.heard : WriteResult → Bool
  | .done => true
  | .failed | .unheard => false

end Scalper.Lib
