import Mathlib.Tactic
import TokenLifecycle.Proofs.Service.Audit
import TokenLifecycle.Proofs.Service.Twins

/-!
# What chance shows

Two runs take the same steps and differ only in the identifiers and signatures that are drawn for
tokens. The tokens of one run are then those of the other under other names: the stores, the answers
and the decisions correspond, and the log does not show any difference. The main statement is
`lines_independent_of_chance`.
-/

namespace TokenLifecycle

namespace Service

open Session (Memory Script)

/-! ### The same steps with other draws -/

/-- The tokens that some steps hand out, in order. -/
def issued (s : Service) (st : State) (actions : List Action) : List String :=
  (s.history st actions).flatMap handedOut

/-- What some steps log, step by step. -/
def lines (s : Service) : State → List Action → List (List LogLine)
  | _, [] => []
  | st, action :: rest => (s.step st action).logs :: s.lines (s.step st action).state rest

/-- How two runs present a token in the same way: as a text that neither of them has handed out, or
by its place among the tokens that each has handed out. -/
inductive PresentedAlike (tokens tokens' : List String) : String → String → Prop
  | literal {text : String} :
      text ∉ tokens → text ∉ tokens' → PresentedAlike tokens tokens' text text
  | reference {token token' : String} (place : Nat) :
      tokens[place]? = some token → tokens'[place]? = some token' →
      PresentedAlike tokens tokens' token token'

/-- Steps that differ only by chance, behind two runs that have handed out the given tokens. -/
inductive SameStep (tokens tokens' : List String) : Action → Action → Prop
  | generate (uid : Int64) (draws draws' : Draws) :
      SameStep tokens tokens' (.generate uid draws) (.generate uid draws')
  | refresh {token token' : String} (draws draws' : Draws) :
      PresentedAlike tokens tokens' token token' →
      SameStep tokens tokens' (.refresh token draws) (.refresh token' draws')
  | parse {token token' : String} :
      PresentedAlike tokens tokens' token token' →
      SameStep tokens tokens' (.parse token) (.parse token')
  | clean (uid : Int64) : SameStep tokens tokens' (.clean uid) (.clean uid)
  | advance (wall steady : Span) :
      SameStep tokens tokens' (.advance wall steady) (.advance wall steady)
  | failReads (failing : Bool) : SameStep tokens tokens' (.failReads failing) (.failReads failing)
  | failWrites (failing : Bool) :
      SameStep tokens tokens' (.failWrites failing) (.failWrites failing)

/-- Runs from one state that take the same steps and differ only by chance. -/
inductive SameSteps (s : Service) (st : State) : List Action → List Action → Prop
  | nil : SameSteps s st [] []
  | snoc {actions actions' : List Action} {action action' : Action} :
      SameSteps s st actions actions' →
      SameStep (s.issued st actions) (s.issued st actions') action action' →
      SameSteps s st (actions ++ [action]) (actions' ++ [action'])

/-- The draws of a step. -/
def Action.draws : Action → List Draw
  | .generate _ draws => [draws.access, draws.refresh]
  | .refresh _ draws => [draws.access, draws.refresh]
  | _ => []

theorem Action.identifiers_eq (action : Action) :
    action.identifiers = action.draws.map (·.jti) := by
  cases action <;> rfl

theorem history_snoc (s : Service) (st : State) (actions : List Action) (action : Action) :
    s.history st (actions ++ [action]) =
      s.history st actions ++ [(action, (s.step (s.run st actions) action).outcome)] :=
  s.history_append st actions [action]

theorem run_snoc (s : Service) (st : State) (actions : List Action) (action : Action) :
    s.run st (actions ++ [action]) = (s.step (s.run st actions) action).state :=
  s.run_append st actions [action]

theorem lines_snoc (s : Service) (st : State) (actions : List Action) (action : Action) :
    s.lines st (actions ++ [action]) =
      s.lines st actions ++ [(s.step (s.run st actions) action).logs] := by
  induction actions generalizing st with
  | nil => rfl
  | cons first rest ih =>
      rw [List.cons_append, lines, ih, lines, List.cons_append]
      rfl

theorem issued_snoc (s : Service) (st : State) (actions : List Action) (action : Action) :
    s.issued st (actions ++ [action]) =
      s.issued st actions ++ handedOut (action, (s.step (s.run st actions) action).outcome) := by
  rw [issued, history_snoc, List.flatMap_append]
  simp [issued]

/-! ### Runs with other draws -/

/-- What two runs have in common that take the same steps: the states behind them are twins, and so
are the tokens that they have handed out. -/
structure Paired (s : Service) (start : Clock) (pairs : List (Draw × Draw))
    (actions actions' : List Action) : Prop where
  states : (s.run (.fresh start) actions).Twins (s.codec.Twins pairs)
    (s.run (.fresh start) actions')
  history : List.Forall₂ (EventsCorrespond (s.codec.Twins pairs))
    (s.history (.fresh start) actions) (s.history (.fresh start) actions')
  lines : s.lines (.fresh start) actions = s.lines (.fresh start) actions'

section Runs

variable {s : Service} {start : Clock} {pairs : List (Draw × Draw)}
  {actions actions' : List Action} {action action' : Action} {token token' : String}

theorem Paired.issued (paired : Paired s start pairs actions actions') :
    List.Forall₂ (s.codec.Twins pairs) (s.issued (.fresh start) actions)
      (s.issued (.fresh start) actions') :=
  List.rel_flatMap paired.history fun _ _ correspond => correspond.handedOut

/-- Every value in the store is a token that was handed out. -/
theorem value_mem_issued {key : String} {e : Session.Entry}
    (present : (s.run (.fresh start) actions).memory.find? key = some e) :
    e.value ∈ s.issued (.fresh start) actions := by
  induction actions using List.reverseRecOn generalizing key e with
  | nil => cases present
  | append_singleton actions action ih =>
      rw [run_snoc] at present
      rw [issued_snoc, List.mem_append]
      generalize s.run (.fresh start) actions = st at ih present ⊢
      have ends := step_ends s st action
      generalize (s.step st action).outcome = outcome at ends ⊢
      generalize (s.step st action).state = next at ends present
      cases ends with
      | failed | kept | parsed | advanced | failedReads | failedWrites => exact .inl (ih present)
      | dropped | cleaned =>
          rw [Memory.find?_erase] at present
          split_ifs at present
          exact .inl (ih present)
      | generated | rotated =>
          rw [Memory.find?_insert] at present
          split_ifs at present
          · obtain rfl := Option.some.inj present
            exact .inr (List.mem_append_right _ List.mem_cons_self)
          · exact .inl (ih present)

theorem Paired.reference (paired : Paired s start pairs actions actions') {place : Nat}
    (found : (s.issued (.fresh start) actions)[place]? = some token)
    (found' : (s.issued (.fresh start) actions')[place]? = some token') :
    s.codec.Twins pairs token token' := by
  obtain ⟨inside, rfl⟩ := List.getElem?_eq_some_iff.mp found
  obtain ⟨inside', rfl⟩ := List.getElem?_eq_some_iff.mp found'
  exact paired.issued.get inside inside'

/-- What two runs present alike is verified alike. -/
theorem Paired.verify (paired : Paired s start pairs actions actions') (sound : s.codec.keys.Sound)
    (alike : PresentedAlike (s.issued (.fresh start) actions) (s.issued (.fresh start) actions')
      token token') (now : Instant) :
    (s.codec.verify now token).Twins Claims.Twins (s.codec.verify now token') := by
  cases alike with
  | literal => exact .refl .refl _
  | reference place found found' => exact (paired.reference found found').verify sound now

/-- What a store holds is the presented token in both runs or in neither. -/
theorem Paired.compared (paired : Paired s start pairs actions actions')
    (distinct : (pairs.map (·.1.jti)).Nodup) (distinct' : (pairs.map (·.2.jti)).Nodup)
    (alike : PresentedAlike (s.issued (.fresh start) actions) (s.issued (.fresh start) actions')
      token token') {value value' : String} (twins : s.codec.Twins pairs value value')
    (given : value ∈ s.issued (.fresh start) actions)
    (given' : value' ∈ s.issued (.fresh start) actions') : value = token ↔ value' = token' := by
  cases alike with
  | literal other other' =>
      have different : value ≠ token := fun same => other (same ▸ given)
      have different' : value' ≠ token := fun same => other' (same ▸ given')
      simp [different, different']
  | reference place found found' =>
      have presented := paired.reference found found'
      constructor
      · rintro rfl
        exact twins.right_unique distinct presented
      · rintro rfl
        exact twins.left_unique distinct' presented

/-- Runs that take one more step in the same way keep what they have in common. -/
theorem Paired.snoc (paired : Paired s start pairs actions actions') (sound : s.codec.keys.Sound)
    (distinct : (pairs.map (·.1.jti)).Nodup) (distinct' : (pairs.map (·.2.jti)).Nodup)
    (drawn : action.draws.zip action'.draws ⊆ pairs)
    (same : SameStep (s.issued (.fresh start) actions) (s.issued (.fresh start) actions') action
      action')
    (allowed : (s.step (s.run (.fresh start) actions) action).outcome ≠ .error unsigned)
    (allowed' : (s.step (s.run (.fresh start) actions') action').outcome ≠ .error unsigned) :
    Paired s start pairs (actions ++ [action]) (actions' ++ [action']) := by
  have states := paired.states
  have steps : StepsCorrespond s (s.codec.Twins pairs) (s.run (.fresh start) actions)
      (s.run (.fresh start) actions') action action' := by
    cases same with
    | generate uid draws draws' =>
        exact steps_generate states (drawn List.mem_cons_self)
          (drawn (List.mem_cons_of_mem _ List.mem_cons_self)) uid allowed allowed'
    | refresh draws draws' alike =>
        refine steps_refresh states (drawn List.mem_cons_self)
          (drawn (List.mem_cons_of_mem _ List.mem_cons_self)) (paired.verify sound alike _) ?_
          allowed allowed'
        intro key e e' present present' twins
        exact paired.compared distinct distinct' alike twins (value_mem_issued present)
          (value_mem_issued present')
    | parse alike => exact steps_parse states (paired.verify sound alike _)
    | clean uid => exact steps_clean states uid allowed allowed'
    | advance wall steady =>
        refine ⟨.nothing _, rfl, ?_, states.memory⟩
        simp only [step, states.clock]
    | failReads failing =>
        exact ⟨.nothing _, rfl, states.clock, rfl, states.memory.writesFail, states.memory.find?⟩
    | failWrites failing =>
        exact ⟨.nothing _, rfl, states.clock, states.memory.readsFail, rfl, states.memory.find?⟩
  refine ⟨?_, ?_, ?_⟩
  · rw [run_snoc, run_snoc]
    exact steps.state
  · rw [history_snoc, history_snoc]
    exact List.rel_append paired.history (.cons steps.event .nil)
  · rw [lines_snoc, lines_snoc, paired.lines, steps.logs]

/-- The draws of two runs, paired by the steps that they are for. -/
def drawPairs (actions actions' : List Action) : List (Draw × Draw) :=
  (actions.flatMap Action.draws).zip (actions'.flatMap Action.draws)

theorem SameStep.length_draws {tokens tokens' : List String}
    (same : SameStep tokens tokens' action action') :
    action.draws.length = action'.draws.length := by
  cases same <;> rfl

theorem SameSteps.length_draws {st : State} (same : SameSteps s st actions actions') :
    (actions.flatMap Action.draws).length = (actions'.flatMap Action.draws).length := by
  induction same with
  | nil => rfl
  | snoc _ last ih => simp [ih, last.length_draws]

/-- Runs that take the same steps have the same in common. -/
theorem SameSteps.paired (same : SameSteps s (.fresh start) actions actions')
    (sound : s.codec.keys.Sound) (distinct : (pairs.map (·.1.jti)).Nodup)
    (distinct' : (pairs.map (·.2.jti)).Nodup) (drawn : drawPairs actions actions' ⊆ pairs)
    (signs : ∀ event ∈ s.history (.fresh start) actions, event.2 ≠ .error unsigned)
    (signs' : ∀ event ∈ s.history (.fresh start) actions', event.2 ≠ .error unsigned) :
    Paired s start pairs actions actions' := by
  induction same with
  | nil => exact ⟨⟨rfl, .empty _⟩, .nil, rfl⟩
  | snoc steps last ih =>
      rw [history_snoc, List.forall_mem_append, List.forall_mem_singleton] at signs signs'
      rw [drawPairs, List.flatMap_append, List.flatMap_append,
        List.zip_append steps.length_draws, List.append_subset] at drawn
      refine (ih drawn.1 signs.1 signs'.1).snoc sound distinct distinct' ?_ last signs.2 signs'.2
      simpa using drawn.2

theorem SameSteps.map_drawPairs {st : State} (same : SameSteps s st actions actions') :
    (drawPairs actions actions').map (·.1.jti) = actions.flatMap Action.identifiers ∧
      (drawPairs actions actions').map (·.2.jti) = actions'.flatMap Action.identifiers := by
  have lengths := same.length_draws
  have identifiers (actions : List Action) :
      actions.flatMap Action.identifiers = (actions.flatMap Action.draws).map (·.jti) := by
    rw [List.map_flatMap]
    exact congrArg (actions.flatMap ·) (funext Action.identifiers_eq)
  constructor
  · rw [identifiers, ← List.map_fst_zip (Nat.le_of_eq lengths), List.map_map]
    rfl
  · rw [identifiers, ← List.map_snd_zip (Nat.le_of_eq lengths.symm), List.map_map]
    rfl

end Runs

/-- A relation between tokens that is one to one is a renaming. -/
theorem exists_rename {R : String → String → Prop} {tokens tokens' : List String}
    (related : List.Forall₂ R tokens tokens') (right : ∀ t t' u, R t t' → R t u → t' = u)
    (left : ∀ t u t', R t t' → R u t' → t = u) :
    ∃ rename : String → String, Set.InjOn rename {token | token ∈ tokens} ∧
      tokens' = tokens.map rename ∧ ∀ t t', R t t' → rename t = t' := by
  classical
  let rename (token : String) : String :=
    if named : ∃ token', R token token' then named.choose else token
  have renames (t t' : String) (named : R t t') : rename t = t' := by
    have has_name : ∃ t', R t t' := ⟨t', named⟩
    simp only [rename, dif_pos has_name]
    exact right t _ _ has_name.choose_spec named
  have renamed : tokens.map rename = tokens' := by
    rw [← List.forall₂_eq_eq_eq, List.forall₂_map_left_iff]
    exact related.imp fun t t' => renames t t'
  refine ⟨rename, fun t given u given' same => ?_, renamed.symm, renames⟩
  rw [← renamed, List.forall₂_map_right_iff, List.forall₂_same] at related
  have named := related t given
  rw [same] at named
  exact left t u _ named (related u given')

/-- What chance draws does not show in the log. Two runs that take the same steps, with other
identifiers and other signatures, log the same lines in every step, and come to the same but for the
tokens, which are those of the other run under other names. The log is a record of what was done:
each issue, rotation and removal leaves one line, each revoked token and each failure of the store
one, and all other steps leave none; so the lines of a step tell whose record was written or
removed. -/
theorem lines_independent_of_chance {s : Service} (sound : s.codec.keys.Sound) {start : Clock}
    {actions actions' : List Action} (same : SameSteps s (.fresh start) actions actions')
    (distinct : (actions.flatMap Action.identifiers).Nodup)
    (distinct' : (actions'.flatMap Action.identifiers).Nodup)
    (signs : ∀ event ∈ s.history (.fresh start) actions,
      event.2 ≠ refuse .tokenGenerationFailed)
    (signs' : ∀ event ∈ s.history (.fresh start) actions',
      event.2 ≠ refuse .tokenGenerationFailed) :
    s.lines (.fresh start) actions = s.lines (.fresh start) actions' ∧
    (∃ rename : String → String,
      Set.InjOn rename {token | token ∈ s.issued (.fresh start) actions} ∧
      s.issued (.fresh start) actions' = (s.issued (.fresh start) actions).map rename ∧
      List.Forall₂ (EventsCorrespond fun token token' => rename token = token')
        (s.history (.fresh start) actions) (s.history (.fresh start) actions')) ∧
    ∀ st action,
      let reply := s.step st action
      reply.logs.map (·.level) = levels (action, reply.outcome) ∧
        Recounts s st reply.state (action, reply.outcome)
          (reply.logs.filterMap Change.ofLine?) := by
  obtain ⟨drawn, drawn'⟩ := same.map_drawPairs
  rw [← drawn] at distinct
  rw [← drawn'] at distinct'
  have paired := same.paired sound distinct distinct' (List.Subset.refl _) signs signs'
  obtain ⟨rename, injective, issued, renames⟩ := exists_rename paired.issued
    (fun _ _ _ => Codec.Twins.right_unique distinct) fun _ _ _ => Codec.Twins.left_unique distinct'
  refine ⟨paired.lines, ⟨rename, injective, issued, ?_⟩, fun st action => ?_⟩
  · exact paired.history.imp fun _ _ correspond => correspond.mono renames
  · have audited := step_audited s st action
    have recounts := recounts_step s st action
    rw [← audited.changes] at recounts
    exact ⟨audited.levels, recounts⟩

/-- A private key that gives signatures is not reported to give none. -/
theorem refresh_ne_unsigned {s : Service} {st : State} {draws : Draws}
    (mints : s.Mints st.clock.wall draws) (token : String) :
    (s.step st (.refresh token draws)).outcome ≠ refuse .tokenGenerationFailed := by
  intro failed
  have course := (s.continues_refresh st.clock.wall draws token).course
    (Memory.store st.clock.steady) st.memory
  rcases (course.refresh_refuse_iff mints).mp failed with
    ⟨_, other⟩ | ⟨_, _, _, _, other⟩ | ⟨_, _, _, _, other⟩ | ⟨cause, _, other⟩
  · cases other
  · cases other
  · cases other
  · obtain ⟨m, reported, _⟩ := exists_storeError_eq cause
    rw [reported] at other
    cases other

/-- A refresh token that was just issued is presented in two runs, which draw other identifiers. The
tokens are different, and the log is the same. -/
theorem lines_independent_of_chance_of_refresh :
    let s : Service := ⟨⟨.digest, none, 0⟩, .default⟩
    let start : Clock := ⟨.ofSeconds 0, .ofSeconds 0⟩
    let draws : Draws := ⟨⟨"a", []⟩, ⟨"b", []⟩⟩
    let draws' : Draws := ⟨⟨"e", []⟩, ⟨"f", []⟩⟩
    let more : Draws := ⟨⟨"c", []⟩, ⟨"d", []⟩⟩
    let more' : Draws := ⟨⟨"g", []⟩, ⟨"h", []⟩⟩
    ∃ token token', token ≠ token' ∧
      (s.issued (.fresh start) [.generate 7 draws])[1]? = some token ∧
      (s.issued (.fresh start) [.generate 7 draws'])[1]? = some token' ∧
      s.lines (.fresh start) [.generate 7 draws, .refresh token more] =
        s.lines (.fresh start) [.generate 7 draws', .refresh token' more'] := by
  intro s start draws draws' more more'
  have signs (now : Instant) (draws : Draws) (uid : Int64) : s.Signs now uid draws :=
    ⟨⟨_, rfl⟩, _, rfl⟩
  have issue (draws : Draws) : ∃ access refresh,
      s.codec.mint start.wall 7 s.settings.refreshLifetime draws.refresh = .ok refresh ∧
        s.history (.fresh start) [.generate 7 draws] =
          [(.generate 7 draws, .ok (.generated (.ofTokens access refresh s.settings.accessLifetime
            s.settings.refreshLifetime)))] := by
    obtain ⟨⟨access, minted_access⟩, refresh, minted_refresh⟩ :=
      (signs start.wall draws 7).exists_mint rfl (show (7 : Int64) ≠ 0 by decide)
    obtain ⟨generated, _⟩ : _ ∧ (s.step (.fresh start) (.generate 7 draws)).state = _ :=
      step_generated (by decide) minted_access minted_refresh rfl rfl
    refine ⟨access, refresh, minted_refresh, ?_⟩
    simp only [history, generated]
  obtain ⟨access, token, minted, events⟩ := issue draws
  obtain ⟨access', token', minted', events'⟩ := issue draws'
  have second : (s.issued (.fresh start) [.generate 7 draws])[1]? = some token := by
    rw [issued, events]
    rfl
  have second' : (s.issued (.fresh start) [.generate 7 draws'])[1]? = some token' := by
    rw [issued, events']
    rfl
  have first : SameSteps s (.fresh start) [.generate 7 draws] [.generate 7 draws'] :=
    .snoc .nil (.generate 7 draws draws')
  have same : SameSteps s (.fresh start) [.generate 7 draws, .refresh token more]
      [.generate 7 draws', .refresh token' more'] :=
    first.snoc (.refresh more more' (.reference 1 second second'))
  have signed {draws more : Draws} {access token : String}
      (events : s.history (.fresh start) [.generate 7 draws] =
        [(.generate 7 draws, .ok (.generated (.ofTokens access token s.settings.accessLifetime
          s.settings.refreshLifetime)))]) :
      ∀ event ∈ s.history (.fresh start) ([.generate 7 draws] ++ [.refresh token more]),
        event.2 ≠ refuse .tokenGenerationFailed := by
    rw [history_snoc, events, List.singleton_append, List.forall_mem_cons,
      List.forall_mem_singleton]
    exact ⟨by simp [refuse], refresh_ne_unsigned (mints_of_signs rfl (signs _ more)) token⟩
  have distinct : ["a", "b", "c", "d"].Nodup := by decide
  have distinct' : ["e", "f", "g", "h"].Nodup := by decide
  obtain ⟨lines, _⟩ := lines_independent_of_chance KeyPair.sound_digest same distinct distinct'
    (signed events) (signed events')
  refine ⟨token, token', ?_, second, second', lines⟩
  rintro rfl
  have carried := (Codec.claims?_of_mint minted).symm.trans (Codec.claims?_of_mint minted')
  simp [Claims.issue, draws, draws'] at carried

end Service

end TokenLifecycle
