import TokenLifecycle.Config.Jwt
import TokenLifecycle.Files
import TokenLifecycle.Keys.KeyPair
import TokenLifecycle.Log.Line
import TokenLifecycle.Text.Blank
import TokenLifecycle.Text.Quoted

/-!
# Loading keys

Key pairs from texts and from the files that a configuration names. A failure is logged and ends the
startup.
-/

namespace TokenLifecycle

/-- A key pair and where it came from. -/
structure SigningKeys where
  pair : KeyPair
  privatePath : String
  publicPath : String

namespace SigningKeys

/-- What loading comes to, and what it logged. -/
structure Loaded where
  result : Except Error SigningKeys
  logs : List LogLine

/-- The failure with the given message. -/
def failed (message : String) : Loaded :=
  ⟨.error (.keyLoad message), [⟨.error, message, []⟩]⟩

/-- The keys in two armoured texts. -/
def ofTexts (a : Algorithm) (privateText publicText : String) (entropy : Entropy) : Loaded :=
  match a.family?, Keys.scheme? a with
  | some family, some scheme =>
    match KeyPair.ofTexts a family scheme privateText publicText entropy with
    | .ok pair => ⟨.ok ⟨pair, "memory", "memory"⟩, []⟩
    | .error fault => failed fault.message
  | _, _ => ⟨.error (.unsupportedAlgorithm a.name), []⟩

/-- What is logged when keys have been loaded from files. -/
def loadedLine (k : SigningKeys) : LogLine :=
  ⟨.info, "Signing keys loaded",
    [("algorithm", k.pair.algorithm.name), ("private_key", k.privatePath),
      ("public_key", k.publicPath)]⟩

/-- The keys in two files. -/
def ofFiles (files : Files) (a : Algorithm) (privatePath publicPath : String)
    (entropy : Entropy) : Loaded :=
  match files.read privatePath with
  | .error fault => failed ("Failed to read private key " ++ privatePath ++ ": " ++ fault.message)
  | .ok privateText =>
    match files.read publicPath with
    | .error fault => failed ("Failed to read public key " ++ publicPath ++ ": " ++ fault.message)
    | .ok publicText =>
      match ofTexts a privateText publicText entropy with
      | ⟨.ok k, logs⟩ =>
        let k := { k with privatePath := privatePath, publicPath := publicPath }
        ⟨.ok k, logs ++ [k.loadedLine]⟩
      | loaded => loaded

/-- The asymmetric algorithm with a name, which may have blanks around it. -/
def algorithmOf (name : String) : Except Error Algorithm :=
  match Algorithm.ofName? (Text.trim name) with
  | none => .error (.unsupportedAlgorithm name)
  | some a => if a.family?.isSome then .ok a else .error (.unsupportedAlgorithm a.name)

/-- The keys that a configuration names. -/
def ofConfig (files : Files) (jwt : Config.Jwt) (entropy : Entropy) : Loaded :=
  match algorithmOf jwt.algorithm with
  | .error e => ⟨.error e, []⟩
  | .ok a => ofFiles files a jwt.privateKeyPath jwt.publicKeyPath entropy

/-- The keys in words, without their secrets. -/
def describe (k : SigningKeys) : String :=
  "KeyManager \x7b algorithm: " ++ k.pair.algorithm.name ++ ", private_key_path: " ++
    Text.quotedPath k.privatePath ++ ", public_key_path: " ++ Text.quotedPath k.publicPath ++
    " \x7d"

end SigningKeys

end TokenLifecycle
