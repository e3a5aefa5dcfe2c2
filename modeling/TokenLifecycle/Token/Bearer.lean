import TokenLifecycle.Error

/-!
# Bearer headers

The header that carries a token: the word `Bearer`, one space, and a token without spaces.
-/

namespace TokenLifecycle.Bearer

/-- The word before the token. -/
def scheme : String := "Bearer"

/-- The token of a header: what comes behind the first space. -/
def token (header : String) : Outcome String :=
  match header.toList.takeWhile (· ≠ ' '), header.toList.dropWhile (· ≠ ' ') with
  | front, _ :: back =>
    if front = scheme.toList ∧ back ≠ [] ∧ ' ' ∉ back then .ok (String.ofList back)
    else refuse .invalidTokenFormat
  | _, [] => refuse .invalidTokenFormat

end TokenLifecycle.Bearer
