import TokenLifecycle.Config.Cache
import TokenLifecycle.Log.Line
import TokenLifecycle.Redis.Fault

/-!
# A client of Redis

The commands that are sent to a server, one for each operation, and what is made of the answers. An
operation is not repeated when it fails.
-/

namespace TokenLifecycle.Redis

/-- What an operation comes to. -/
structure Called (σ α : Type) where
  outcome : Except Fault α
  logs : List LogLine
  state : σ

/-- A client: its settings, and the connection over states of type `σ`. -/
structure Client (σ : Type) where
  settings : Config.Cache
  /-- Sends a command, a list of words, and gives the answer. -/
  exchange : List String → σ → Answer × σ

namespace Client

variable {σ α : Type}

/-- What an answer comes to. -/
def interpret (c : Client σ) (read : Reply → Except Cause α) : Answer → Except Fault α
  | .reply r =>
    match read r with
    | .ok a => .ok a
    | .error cause => .error (.cache cause)
  | .refusal line => .error (.cache (.ofLine line))
  | .closed => .error (.cache (.network "broken pipe"))
  | .silence => .error (.responseTimeout c.settings.responseTimeout.toNat)

/-- Sends a command and reads the answer. What failed is logged. -/
def call (c : Client σ) (command : List String) (read : Reply → Except Cause α)
    (failure : String) (s : σ) : Called σ α :=
  let (answer, s) := c.exchange command s
  match c.interpret read answer with
  | .ok a => ⟨.ok a, [], s⟩
  | .error f => ⟨.error f, [⟨.error, failure ++ ": " ++ f.message, []⟩], s⟩

/-- Keeps a value under a key for a number of seconds. -/
def set (c : Client σ) (key value : String) (seconds : Nat) (s : σ) : Called σ Unit :=
  c.call ["SET", key, value, "EX", Numeral.ofNat seconds] Reply.ignored
    ("Failed to set key '" ++ key ++ "'") s

/-- The value under a key. -/
def get (c : Client σ) (key : String) (s : σ) : Called σ (Option String) :=
  c.call ["GET", key] Reply.text? ("Failed to get key '" ++ key ++ "'") s

/-- Drops a key, and says whether there was one. -/
def delete (c : Client σ) (key : String) (s : σ) : Called σ Bool :=
  let r := c.call ["DEL", key] Reply.count ("Failed to delete key '" ++ key ++ "'") s
  ⟨r.outcome.map fun n => 0 < n, r.logs, r.state⟩

/-- The seconds for which a key stays, if it is there and has an end. -/
def ttl (c : Client σ) (key : String) (s : σ) : Called σ (Option Int64) :=
  let r := c.call ["TTL", key] Reply.int64 ("Failed to get TTL for key '" ++ key ++ "'") s
  ⟨r.outcome.map fun n => if 0 ≤ n then some n else none, r.logs, r.state⟩

/-- Greets the server, and says whether it answered as it should. -/
def isHealthy (c : Client σ) (s : σ) : Called σ Bool :=
  let r := c.call ["PING"] Reply.text "Redis health check failed" s
  match r.outcome with
  | .error f => ⟨.error f, r.logs, r.state⟩
  | .ok greeting =>
    if greeting = "PONG" then ⟨.ok true, r.logs, r.state⟩
    else
      ⟨.ok false,
        r.logs ++ [⟨.warn, "Redis health check returned unexpected response: " ++ greeting, []⟩],
        r.state⟩

end Client

end TokenLifecycle.Redis
