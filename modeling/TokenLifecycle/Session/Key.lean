import TokenLifecycle.Numeral.Decimal

/-!
# Session keys

The key under which a store keeps the live refresh token of a principal.
-/

namespace TokenLifecycle.Session

/-- The key of a principal within a namespace: both, with a colon between them. -/
def key (space : String) (uid : Int64) : String :=
  space ++ ":" ++ Numeral.ofInt uid.toInt

end TokenLifecycle.Session
