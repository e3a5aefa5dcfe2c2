import TokenLifecycle.Config.LoadFault
import TokenLifecycle.Files
import TokenLifecycle.Ini.Document
import TokenLifecycle.Json.Value
import TokenLifecycle.Json5.Document
import TokenLifecycle.Ron.Document
import TokenLifecycle.Toml.Document
import TokenLifecycle.Yaml.Document

/-!
# The file of a configuration

One layer of a configuration comes from a file, whose extension says in which format it is written.
A file that holds no table gives an empty layer.
-/

namespace TokenLifecycle.Config

mutual

/-- A JSON value in a layer. An integer beyond 63 bits becomes a floating-point number. -/
def Node.ofJson : Json.Value → Node
  | .null => .absent
  | .bool b => .bool b
  | .integer n =>
    match Numeral.toInt64? n with
    | some i => .integer i
    | none => .real (.ofNat n.toNat)
  | .real x => .real x
  | .text s => .text s
  | .array items => .array (Node.ofJsonItems items)
  | .object members => .table (Node.ofJsonMembers members)

/-- JSON values in a layer. -/
def Node.ofJsonItems : List Json.Value → List Node
  | [] => []
  | v :: rest => Node.ofJson v :: Node.ofJsonItems rest

/-- The members of a JSON object in a layer. -/
def Node.ofJsonMembers : List (String × Json.Value) → List (String × Node)
  | [] => []
  | (k, v) :: rest => (k, Node.ofJson v) :: Node.ofJsonMembers rest

end

/-- What a JSON text spells. -/
def jsonNode? (text : String) : Option Node := do
  return .ofJson (← (← Json.Doc.ofBytes? (Text.bytes text)).value? 127)

mutual

/-- A YAML value in a layer. A member has a text or an integer as its name, and a number has to be
spelt with digits or as a word. -/
def Node.ofYaml : Yaml.Value → Except LoadFault Node
  | .null => .ok .absent
  | .invalid => .ok .absent
  | .bool b => .ok (.bool b)
  | .integer n => .ok (.integer n)
  | .real s => LoadFault.unreadable.orElse ((Numeral.Binary64.ofText? s).map .real)
  | .text s => .ok (.text s)
  | .sequence items => (Node.ofYamlItems items).map .array
  | .mapping entries => (Node.ofYamlEntries entries []).map .table

/-- YAML values in a layer. -/
def Node.ofYamlItems : List Yaml.Value → Except LoadFault (List Node)
  | [] => .ok []
  | v :: rest =>
    (Node.ofYaml v).bind fun n => (Node.ofYamlItems rest).map fun ns => n :: ns

/-- The entries of a YAML mapping in a layer, after those before. A later one takes the place of an
earlier one. -/
def Node.ofYamlEntries :
    List (Yaml.Value × Yaml.Value) → List (String × Node) → Except LoadFault (List (String × Node))
  | [], done => .ok done
  | (k, v) :: rest, done =>
    let name : Option String := match k with
      | .text s => some s
      | .integer n => some (Numeral.ofInt n.toInt)
      | _ => none
    match name with
    | none => .error .misplaced
    | some name =>
      (Node.ofYaml v).bind fun n => Node.ofYamlEntries rest (Node.setMember name n done)

end

/-- What a YAML text spells: one document, or none at all. -/
def yamlNode (text : String) : Except LoadFault Node :=
  match Yaml.ofText? text with
  | some [] => .ok (.table [])
  | some [v] => Node.ofYaml v
  | _ => .error .unreadable

/-- The formats by the extension of a file. -/
def formats : List (String × (String → Except LoadFault Node)) :=
  let plain (read : String → Option Node) (text : String) : Except LoadFault Node :=
    LoadFault.unreadable.orElse (read text)
  [("", plain Toml.ofText?), (".toml", plain Toml.ofText?), (".json", plain jsonNode?),
    (".yaml", yamlNode), (".yml", yamlNode), (".ini", plain Ini.ofText?),
    (".ron", plain Ron.ofText?), (".json5", plain Json5.ofText?)]

/-- The layer of the optional file with a name. Without a file of exactly that name, one with a
further extension counts. -/
def fileLayer (files : Files) (name : String) : Except LoadFault (List (String × Node)) :=
  let found := formats.findSome? fun (ending, read) =>
    match files.read (name ++ ending) with
    | .ok text => some ((read text).map Node.members)
    | .error _ => none
  found.getD (.ok [])

end TokenLifecycle.Config
