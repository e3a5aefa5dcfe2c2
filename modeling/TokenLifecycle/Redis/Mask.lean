/-!
# Masked addresses

Addresses as the log shows them. What stands between `://` and the last `@` is masked.
-/

namespace TokenLifecycle.Redis

/-- The text up to the end of the first `://` in it. -/
def throughScheme? : List Char → Option (List Char)
  | ':' :: '/' :: '/' :: _ => some [':', '/', '/']
  | c :: rest => (throughScheme? rest).map (c :: ·)
  | [] => none

/-- The text from the last `@` on. -/
def fromLastAt? : List Char → Option (List Char)
  | [] => none
  | c :: rest =>
    match fromLastAt? rest with
    | some found => some found
    | none => if c = '@' then some (c :: rest) else none

/-- The address without credentials. An address without `@` or `://` is shown as it is. -/
def mask (url : String) : String :=
  match throughScheme? url.toList, fromLastAt? url.toList with
  | some front, some back => String.ofList (front ++ ['*', '*', '*', '*'] ++ back)
  | _, _ => url

end TokenLifecycle.Redis
