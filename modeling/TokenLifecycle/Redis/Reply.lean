import TokenLifecycle.Text.Quoted
import TokenLifecycle.Text.Utf8
import TokenLifecycle.Numeral.Decimal

/-!
# Replies of Redis

What a server answers to a command, what is read from it, and what can go wrong on the way.
-/

namespace TokenLifecycle.Redis

/-- A reply. -/
inductive Reply
  | nothing
  | integer (value : Int64)
  | data (bytes : Bytes)
  | list (items : List Reply)
  | okay
  | status (text : String)

mutual

/-- A reply as messages show it. -/
def Reply.describe : Reply → String
  | .nothing => "nil"
  | .integer n => "int(" ++ Numeral.ofInt n.toInt ++ ")"
  | .data bs =>
    match Text.ofBytes? bs with
    | some s => "string-data('" ++ Text.quoted s ++ "')"
    | none =>
      "binary-data([" ++ String.intercalate ", " (bs.map fun b => Numeral.ofNat b.toNat) ++ "])"
  | .list items => "bulk(" ++ String.intercalate ", " (Reply.describeAll items) ++ ")"
  | .okay => "ok"
  | .status s => "status(" ++ Text.quoted s ++ ")"

/-- Replies as messages show them. -/
def Reply.describeAll : List Reply → List String
  | [] => []
  | r :: rest => r.describe :: Reply.describeAll rest

end

/-- What comes back for a command. -/
inductive Answer
  | reply (value : Reply)
  /-- The server refuses the command, with a line that begins with a code. -/
  | refusal (line : String)
  /-- The connection is closed. -/
  | closed
  /-- Nothing, in the time that was granted. -/
  | silence

/-- What goes wrong between a client and a server. The last two arise on the client's own side, when
it connects: the handshake and the commands do not end in them, but an attempt to connect can. -/
inductive Cause
  /-- The network fails. -/
  | network (message : String)
  /-- The server refuses a command. -/
  | refusal (code : String) (detail : Option String)
  /-- A reply has another type than the command calls for. -/
  | wrongType (expected : String) (shown : String)
  /-- A reply is no text. -/
  | invalidText
  /-- The server does not accept the credentials. -/
  | authenticationFailed
  /-- The server does not switch to the database. -/
  | databaseRefused
  /-- The client cannot use what it has, such as its connection. -/
  | client (description : String) (detail : Option String)
  /-- No address is known for the host. -/
  | noAddress
  deriving DecidableEq, Repr

namespace Cause

/-- The names of the kinds of refusals with a known code. -/
def knownCodes : List (String × String) :=
  [("ERR", "ResponseError"), ("EXECABORT", "ExecAbortError"), ("LOADING", "BusyLoadingError"),
    ("NOSCRIPT", "NoScriptError"), ("MOVED", "Moved"), ("ASK", "Ask"), ("TRYAGAIN", "TryAgain"),
    ("CLUSTERDOWN", "ClusterDown"), ("CROSSSLOT", "CrossSlot"), ("MASTERDOWN", "MasterDown"),
    ("READONLY", "ReadOnly"), ("NOTBUSY", "NotBusy")]

/-- The cause that the line of a refusal states: a code, and details behind the first space. -/
def ofLine (line : String) : Cause :=
  let cs := line.toList
  .refusal (String.ofList (cs.takeWhile (· ≠ ' ')))
    (match cs.dropWhile (· ≠ ' ') with
      | _ :: detail => some (String.ofList detail)
      | [] => none)

/-- The wording of a cause. -/
def message : Cause → String
  | network m => m
  | refusal code detail =>
    match knownCodes.lookup code, detail with
    | some kind, some d => "An error was signalled by the server - " ++ kind ++ ": " ++ d
    | some kind, none => "An error was signalled by the server- " ++ kind
    | none, some d => code ++ ": " ++ d
    | none, none => code ++ ": Unknown extension error encountered"
  | wrongType expected shown =>
    "Response was of incompatible type - TypeError: " ++ Text.quoted expected ++
      " (response was " ++ shown ++ ")"
  | invalidText => "Invalid UTF-8- TypeError"
  | authenticationFailed => "Password authentication failed- AuthenticationFailed"
  | databaseRefused => "Redis server refused to switch database- ResponseError"
  | client description detail =>
    match detail with
    | some d => description ++ " - ClientError: " ++ d
    | none => description ++ "- ClientError"
  | noAddress => "No address found for host- InvalidClientConfig"

/-- Trying again may help: the network or the client failed, or the server is busy. -/
def isRetriable : Cause → Bool
  | network _ => true
  | client .. => true
  | refusal code _ => code = "LOADING" || code = "TRYAGAIN"
  | _ => false

end Cause

namespace Reply

/-- Any reply will do. -/
def ignored : Reply → Except Cause Unit :=
  fun _ => .ok ()

/-- Reads bytes as a text. -/
def textOf (bs : Bytes) : Except Cause String :=
  match Text.ofBytes? bs with
  | some s => .ok s
  | none => .error .invalidText

/-- Reads a text. -/
def text : Reply → Except Cause String
  | data bs => textOf bs
  | okay => .ok "OK"
  | status s => .ok s
  | r => .error (.wrongType "Response type not string compatible." r.describe)

/-- Reads a text that may be missing. -/
def text? : Reply → Except Cause (Option String)
  | nothing => .ok none
  | r => r.text.map some

/-- Reads a number, in text form with `read`. -/
def number {α : Type} (ofInt : Int64 → α) (read : String → Option α) (r : Reply) :
    Except Cause α :=
  let ofText (s : String) : Except Cause α :=
    match read s with
    | some n => .ok n
    | none => .error (.wrongType "Could not convert from string." r.describe)
  match r with
  | integer n => .ok (ofInt n)
  | status s => ofText s
  | data bs => (textOf bs).bind ofText
  | r => .error (.wrongType "Response type not convertible to numeric." r.describe)

/-- Reads a count. -/
def count (r : Reply) : Except Cause UInt32 :=
  r.number (fun n => n.toUInt64.toUInt32) Numeral.uint32?

/-- Reads a signed number. -/
def int64 (r : Reply) : Except Cause Int64 :=
  r.number id Numeral.int64?

end Reply

end TokenLifecycle.Redis
