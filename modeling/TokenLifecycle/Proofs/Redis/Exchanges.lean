import Mathlib.Tactic
import TokenLifecycle.Proofs.Redis.SessionStore
import TokenLifecycle.Proofs.Session.Calls
import TokenLifecycle.Proofs.Text.Utf8

/-!
# What is sent to a server

A server may answer a command in any way. Each use of the session store sends one command, whatever
is answered to it: `Sends` says which command, and what the answer comes to. So the calls of a
script and what is sent for them go in step, which is the main statement
`Redis.SessionStore.exists_record`.
-/

namespace TokenLifecycle.Redis

/-! ### What a reply says -/

namespace Reply

/-- The reply stands for a text. -/
inductive Spells : Reply → String → Prop
  | data (text : String) : Spells (.data (Text.bytes text)) text
  | okay : Spells .okay "OK"
  | status (text : String) : Spells (.status text) text

/-- The reply says what is under a key: nothing, or a text. -/
inductive Finds : Reply → Option String → Prop
  | nothing : Finds .nothing none
  | text {reply : Reply} {text : String} (spells : reply.Spells text) : Finds reply (some text)

theorem text_eq_ok_iff {reply : Reply} {text : String} :
    reply.text = .ok text ↔ reply.Spells text := by
  constructor
  · intro read
    cases reply with
    | data bytes =>
      simp only [Reply.text, textOf] at read
      split at read
      · rename_i found
        obtain rfl := Except.ok.inj read
        rw [← Text.bytes_of_ofBytes? found]
        exact .data _
      · cases read
    | okay =>
      obtain rfl := Except.ok.inj read
      exact .okay
    | status shown =>
      obtain rfl := Except.ok.inj read
      exact .status _
    | nothing | integer | list => cases read
  · intro spells
    cases spells with
    | data => simp only [Reply.text, textOf, Text.ofBytes?_bytes]
    | okay | status => rfl

theorem text?_eq_ok_iff {reply : Reply} {found : Option String} :
    reply.text? = .ok found ↔ reply.Finds found := by
  constructor
  · intro read
    by_cases missing : reply = .nothing
    · subst missing
      obtain rfl := Except.ok.inj read
      exact .nothing
    · rw [text?.eq_2 reply missing] at read
      cases spelled : reply.text with
      | error cause =>
        rw [spelled] at read
        cases read
      | ok text =>
        rw [spelled] at read
        obtain rfl := Except.ok.inj read
        exact .text (text_eq_ok_iff.mp spelled)
  · intro finds
    cases finds with
    | nothing => rfl
    | text spells =>
      have present : reply ≠ .nothing := by rintro rfl; cases spells
      rw [text?.eq_2 reply present, text_eq_ok_iff.mpr spells]
      rfl

end Reply

/-! ### The record of a connection -/

/-- A command with the answer to it. -/
structure Exchanged where
  command : List String
  answer : Answer

namespace Client

variable {σ α : Type}

/-- The client, on a connection that keeps a record of what is sent and answered. -/
def recorded (c : Client σ) : Client (σ × List Exchanged) where
  settings := c.settings
  exchange command st :=
    let (answer, s) := c.exchange command st.1
    (answer, s, st.2 ++ [⟨command, answer⟩])

theorem interpret_eq_ok_iff {c : Client σ} {read : Reply → Except Cause α} {answer : Answer}
    {a : α} :
    c.interpret read answer = .ok a ↔ ∃ reply, answer = .reply reply ∧ read reply = .ok a := by
  cases answer with
  | reply reply =>
    simp only [interpret, Answer.reply.injEq, exists_eq_left']
    cases read reply <;> simp
  | refusal | closed | silence => simp [interpret]

theorem outcome_call (c : Client σ) (command : List String) (read : Reply → Except Cause α)
    (failure : String) (s : σ) :
    (c.call command read failure s).outcome = c.interpret read (c.exchange command s).1 := by
  simp only [call]
  split <;> simp [*]

theorem state_call (c : Client σ) (command : List String) (read : Reply → Except Cause α)
    (failure : String) (s : σ) :
    (c.call command read failure s).state = (c.exchange command s).2 := by
  simp only [call]
  split <;> rfl

end Client

namespace SessionStore

open Session (Call Script)

variable {σ α : Type}

/-! ### One use, one command -/

/-- The whole seconds that cover a span, at least one. -/
def secondsUp (ttl : Span) : Nat :=
  max 1 ((ttl.nanoseconds + 999999999) / 1000000000).toNat

/-- The span is not negative, and the whole seconds that cover it can be counted in a word. -/
structure Fits (ttl : Span) : Prop where
  forward : 0 ≤ ttl.nanoseconds
  small : secondsUp ttl < Nat.pow 2 64

theorem Fits.expirySeconds_eq {ttl : Span} (fits : Fits ttl) :
    expirySeconds ttl = .ok (secondsUp ttl) := by
  obtain ⟨forward, small⟩ := fits
  unfold secondsUp at small ⊢
  rw [SessionStore.expirySeconds_eq]
  split_ifs <;> first | omega | exact congrArg _ (by omega)

/-- What an answer comes to: a reply is read, and whatever cannot be read makes the store
unavailable. -/
structure Understood (Reads : Reply → α → Prop) (answer : Answer) (outcome : Outcome α) : Prop where
  ok_iff : ∀ a, outcome = .ok a ↔ ∃ reply, answer = .reply reply ∧ Reads reply a
  unavailable : ∀ f, outcome = .error f →
    ∃ message, f = .rejected (.sessionStoreUnavailable message)

/-- A use of the store comes to a reply: one command is sent and none after it, and its answer is
read. -/
structure Sends (c : Client σ) (command : List String) (Reads : Reply → α → Prop)
    (st : σ × List Exchanged) (r : Session.Reply (σ × List Exchanged) α) : Prop where
  state : r.state =
    ((c.exchange command st.1).2, st.2 ++ [⟨command, (c.exchange command st.1).1⟩])
  understood : Understood Reads (c.exchange command st.1).1 r.outcome

theorem Sends.record {c : Client σ} {command : List String} {Reads : Reply → α → Prop}
    {st : σ × List Exchanged} {r : Session.Reply (σ × List Exchanged) α}
    (sends : Sends c command Reads st r) :
    r.state.2 = st.2 ++ [⟨command, (c.exchange command st.1).1⟩] :=
  congrArg Prod.snd sends.state

theorem Sends.eq_append {c : Client σ} {command : List String} {Reads : Reply → α → Prop}
    {st : σ × List Exchanged} {r : Session.Reply (σ × List Exchanged) α}
    {made record : List Exchanged}
    (sends : Sends c command Reads st r) (later : made = r.state.2 ++ record) :
    made = st.2 ++ ⟨command, (c.exchange command st.1).1⟩ :: record := by
  rw [List.append_cons, ← sends.record]
  exact later

theorem Understood.forget {Reads : Reply → α → Prop} {answer : Answer} {outcome : Outcome α}
    (understood : Understood Reads answer outcome) :
    Understood (fun reply (_ : Unit) => ∃ a, Reads reply a) answer (outcome.map fun _ => ()) := by
  cases outcome with
  | ok a =>
    obtain ⟨reply, answered, reads⟩ := (understood.ok_iff a).mp rfl
    exact ⟨fun _ => iff_of_true rfl ⟨reply, answered, a, reads⟩, nofun⟩
  | error f =>
    refine ⟨fun _ => iff_of_false nofun ?_, ?_⟩
    · rintro ⟨reply, answered, a, reads⟩
      exact nomatch (understood.ok_iff a).mpr ⟨reply, answered, reads⟩
    · rintro _ ⟨⟩
      exact understood.unavailable f rfl

theorem outcome_reply_eq_ok_iff {r : Called σ α} {a : α} :
    (reply r).outcome = .ok a ↔ r.outcome = .ok a := by
  unfold reply
  split <;> simp [*]

theorem unavailable_of_reply {r : Called σ α} {f : Failure}
    (failed : (reply r).outcome = .error f) :
    ∃ message, f = .rejected (.sessionStoreUnavailable message) := by
  unfold reply at failed
  split at failed
  · cases failed
  · obtain rfl := Except.error.inj failed
    exact ⟨_, rfl⟩

theorem state_reply (r : Called σ α) : (reply r).state = r.state := by
  unfold reply
  split <;> rfl

section Map

variable {β : Type} (f : α → β) (r : Called σ α)

theorem state_reply_map : (reply ⟨r.outcome.map f, r.logs, r.state⟩).state = (reply r).state := by
  rw [state_reply, state_reply]

theorem outcome_reply_map :
    (reply ⟨r.outcome.map f, r.logs, r.state⟩).outcome.map (fun _ => ()) =
      (reply r).outcome.map fun _ => () := by
  unfold reply
  cases r.outcome <;> rfl

end Map

theorem sends_call {read : Reply → Except Cause α} {Reads : Reply → α → Prop}
    (reads : ∀ reply a, read reply = .ok a ↔ Reads reply a) (c : Client σ) (command : List String)
    (failure : String) (st : σ × List Exchanged) :
    Sends c command Reads st (reply (c.recorded.call command read failure st)) where
  state := (state_reply _).trans (Client.state_call _ _ _ _ _)
  understood := by
    refine ⟨fun a => ?_, fun f => unavailable_of_reply⟩
    rw [outcome_reply_eq_ok_iff, Client.outcome_call, Client.interpret_eq_ok_iff]
    simp only [reads]
    rfl

section Uses

variable (c : Client σ) (key value : String) (st : σ × List Exchanged)

/-- Any reply to a write will do. -/
theorem sends_set {ttl : Span} (fits : Fits ttl) :
    Sends c ["SET", c.settings.makeKey key, value, "EX", Numeral.ofNat (secondsUp ttl)]
      (fun _ _ => True) st ((ofClient c.recorded).set key value ttl st) := by
  simp only [ofClient, fits.expirySeconds_eq]
  exact sends_call (fun _ _ => iff_of_true rfl trivial) c _ _ st

theorem sends_get :
    Sends c ["GET", c.settings.makeKey key] Reply.Finds st ((ofClient c.recorded).get key st) :=
  sends_call (fun _ _ => Reply.text?_eq_ok_iff) c _ _ st

/-- Any number will do in reply to a deletion. -/
theorem sends_delete :
    Sends c ["DEL", c.settings.makeKey key] (fun reply _ => ∃ n, reply.count = .ok n) st
      ((ofClient c.recorded).delete key st) := by
  have sends : Sends c _ (fun reply n => reply.count = .ok n) st
      (reply (c.recorded.call ["DEL", c.settings.makeKey key] Reply.count
        ("Failed to delete key '" ++ redisKey c key ++ "'") st)) :=
    sends_call (fun _ _ => Iff.rfl) c _ _ st
  have understood := sends.understood.forget
  rw [← outcome_reply_map fun n => decide (0 < n)] at understood
  exact ⟨(state_reply_map (fun n => decide (0 < n)) _).trans sends.state, understood⟩

end Uses

/-! ### The calls of a script, and what is sent for them -/

/-- The command is the one for the call, and the call is answered with what its answer comes to. -/
inductive Carries (settings : Config.Cache) : Call → Exchanged → Prop
  | set {key value : String} {ttl : Span} {outcome : Outcome Unit} {answer : Answer}
      (understood : Understood (fun _ _ => True) answer outcome) :
      Carries settings (.set key value ttl outcome)
        ⟨["SET", settings.makeKey key, value, "EX", Numeral.ofNat (secondsUp ttl)], answer⟩
  | get {key : String} {outcome : Outcome (Option String)} {answer : Answer}
      (understood : Understood Reply.Finds answer outcome) :
      Carries settings (.get key outcome) ⟨["GET", settings.makeKey key], answer⟩
  | delete {key : String} {outcome : Outcome Unit} {answer : Answer}
      (understood : Understood (fun reply _ => ∃ n, reply.count = .ok n) answer outcome) :
      Carries settings (.delete key outcome) ⟨["DEL", settings.makeKey key], answer⟩

namespace Carries

variable {settings : Config.Cache} {exchanged : Exchanged} {key value : String} {ttl : Span}

theorem exists_written (carries : Carries settings (.set key value ttl (.ok ())) exchanged) :
    ∃ reply, exchanged = ⟨["SET", settings.makeKey key, value, "EX",
      Numeral.ofNat (secondsUp ttl)], .reply reply⟩ := by
  cases carries with
  | set understood =>
    obtain ⟨reply, rfl, _⟩ := (understood.ok_iff ()).mp rfl
    exact ⟨reply, rfl⟩

theorem exists_found {found : Option String}
    (carries : Carries settings (.get key (.ok found)) exchanged) :
    ∃ reply, exchanged = ⟨["GET", settings.makeKey key], .reply reply⟩ ∧ reply.Finds found := by
  cases carries with
  | get understood =>
    obtain ⟨reply, rfl, finds⟩ := (understood.ok_iff found).mp rfl
    exact ⟨reply, rfl, finds⟩

end Carries

/-- A script adds to the record one command for each of its calls, in their order, as long as its
spans fit. -/
theorem exists_record (c : Client σ) (script : Script α) (st : σ × List Exchanged)
    (fits : ∀ key value ttl outcome,
      .set key value ttl outcome ∈ script.calls (ofClient c.recorded) st → Fits ttl) :
    ∃ record, (script.run (ofClient c.recorded) st).state.2 = st.2 ++ record ∧
      List.Forall₂ (Carries c.settings) (script.calls (ofClient c.recorded) st) record := by
  induction script generalizing st with
  | done outcome => exact ⟨[], (List.append_nil _).symm, .nil⟩
  | log line rest ih => exact ih st fits
  | set key value ttl next ih =>
    have sends := sends_set c key value st (fits _ _ _ _ List.mem_cons_self)
    obtain ⟨record, later, carries⟩ :=
      ih _ _ fun key value ttl outcome made => fits key value ttl outcome (.tail _ made)
    exact ⟨_ :: record, sends.eq_append later, .cons (.set sends.understood) carries⟩
  | get key next ih =>
    have sends := sends_get c key st
    obtain ⟨record, later, carries⟩ :=
      ih _ _ fun key value ttl outcome made => fits key value ttl outcome (.tail _ made)
    exact ⟨_ :: record, sends.eq_append later, .cons (.get sends.understood) carries⟩
  | delete key next ih =>
    have sends := sends_delete c key st
    obtain ⟨record, later, carries⟩ :=
      ih _ _ fun key value ttl outcome made => fits key value ttl outcome (.tail _ made)
    exact ⟨_ :: record, sends.eq_append later, .cons (.delete sends.understood) carries⟩

/-! ### Failures of the server -/

/-- The server has failed at a command: it refuses it, the connection is closed, no answer comes in
time, or the reply makes no sense to the command. Any reply makes sense to a write. -/
def Failed (exchanged : Exchanged) : Prop :=
  match exchanged.answer with
  | .reply reply =>
    (exchanged.command.head? = some "GET" ∧ ∀ found, ¬reply.Finds found) ∨
      (exchanged.command.head? = some "DEL" ∧ ∀ n, reply.count ≠ .ok n)
  | _ => True

theorem Understood.exists_unavailable {Reads : Reply → α → Prop} {answer : Answer}
    {outcome : Outcome α} (understood : Understood Reads answer outcome)
    (unread : ∀ reply a, answer = .reply reply → ¬Reads reply a) :
    ∃ message, outcome = refuse (.sessionStoreUnavailable message) := by
  cases outcome with
  | ok a =>
    obtain ⟨reply, answered, reads⟩ := (understood.ok_iff a).mp rfl
    exact absurd reads (unread reply a answered)
  | error f =>
    obtain ⟨message, rfl⟩ := understood.unavailable f rfl
    exact ⟨message, rfl⟩

/-- The failure of the server is the failure of the call. -/
theorem Carries.exists_failure? {settings : Config.Cache} {call : Call} {exchanged : Exchanged}
    (carries : Carries settings call exchanged) (failed : Failed exchanged) :
    ∃ message, call.failure? = some (.rejected (.sessionStoreUnavailable message)) := by
  cases carries with
  | @set _ _ _ _ answer understood =>
    have unread : ∀ reply (_ : Unit), answer = .reply reply → ¬True := by
      rintro reply - rfl
      simp [Failed] at failed
    obtain ⟨message, rfl⟩ := understood.exists_unavailable unread
    exact ⟨message, rfl⟩
  | @get _ _ answer understood =>
    have unread : ∀ reply found, answer = .reply reply → ¬reply.Finds found := by
      rintro reply found rfl
      have senseless : ∀ found, ¬reply.Finds found := by simpa [Failed] using failed
      exact senseless found
    obtain ⟨message, rfl⟩ := understood.exists_unavailable unread
    exact ⟨message, rfl⟩
  | @delete _ _ answer understood =>
    have unread : ∀ reply (_ : Unit), answer = .reply reply → ¬∃ n, reply.count = .ok n := by
      rintro reply - rfl ⟨n, counts⟩
      have senseless : ∀ n, reply.count ≠ .ok n := by simpa [Failed] using failed
      exact senseless n counts
    obtain ⟨message, rfl⟩ := understood.exists_unavailable unread
    exact ⟨message, rfl⟩

theorem exists_failure?_of_mem {settings : Config.Cache} {calls : List Call}
    {record : List Exchanged} (carries : List.Forall₂ (Carries settings) calls record)
    {exchanged : Exchanged} (sent : exchanged ∈ record) (failed : Failed exchanged) :
    ∃ call ∈ calls, ∃ message,
      call.failure? = some (.rejected (.sessionStoreUnavailable message)) := by
  induction carries with
  | nil => cases sent
  | cons here _ ih =>
    rcases List.mem_cons.mp sent with rfl | later
    · exact ⟨_, List.mem_cons_self, here.exists_failure? failed⟩
    · obtain ⟨call, made, unavailable⟩ := ih later
      exact ⟨call, .tail _ made, unavailable⟩

end SessionStore

end TokenLifecycle.Redis
