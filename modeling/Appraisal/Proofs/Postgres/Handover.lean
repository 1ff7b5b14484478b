import Appraisal.Postgres.Session
import Appraisal.Proofs.Answers

/-!
# Connections that go back to the pool

A session believes a transaction to be open or not.  What it believes is not asked of the server: it
goes by the statements that the session has sent and by whether `BEGIN` succeeded.  The server may
answer as it likes, and it may lose a transaction by itself.

*Belief.*  Whenever the server has a transaction open, the session believes so
(`Link.Sound`).  The session may believe so wrongly, of a transaction that the server has
lost, and then it sends one `ROLLBACK` too many.

*Giving back.*  A session that is given back for the first time sends `ROLLBACK` exactly if it
believes a transaction to be open, and its connection goes back without one.  After that no call
sends anything, and every call fails (`handed_back_closed`).
-/

namespace Appraisal.Postgres

/-! ## Transactions on the server -/

/-- Whether the server has a transaction open after a request and its answer.  `BEGIN` opens one if
it succeeds.  `COMMIT` and `ROLLBACK` end it, whatever the answer.  Nothing else matters. -/
def openAfter (opened : Bool) : (request : Request) → request.Answer → Bool
  | .send ⟨.begin _, _⟩, .ok _ => true
  | .send ⟨.commit, _⟩, _ => false
  | .send ⟨.rollback, _⟩, _ => false
  | _, _ => opened

/-- The request does not begin a transaction. -/
def Request.Amid : Request → Prop
  | .send bound => ∀ isolation, bound.statement ≠ .begin isolation
  | _ => True

theorem opened_of_amid {opened : Bool} {request : Request} (amid : request.Amid)
    {answer : request.Answer} (h : openAfter opened request answer = true) : opened = true := by
  cases request with
  | send bound =>
    obtain ⟨statement, parameters⟩ := bound
    cases statement with
    | begin isolation => exact absurd rfl (amid isolation)
    | commit | rollback => cases h
    | _ => exact h
  | _ => exact h

/-- A server that answers in any way, and loses a transaction in any states. -/
structure Answering (σ : Type) where
  answer : (request : Request) → σ → request.Answer × σ
  lost : σ → Bool

/-- The server with a note of whether it has a transaction open. -/
def Answering.respond {σ : Type} (server : Answering σ) (request : Request) (state : σ × Bool) :
    request.Answer × σ × Bool :=
  let (answer, after) := server.answer request state.1
  (answer, after, openAfter state.2 request answer && !server.lost after)

/-- A session and the server at the other end of its connection. -/
structure Link (σ : Type) where
  session : Session
  state : σ
  /-- The server has a transaction open. -/
  opened : Bool

namespace Link

variable {σ : Type} (server : Answering σ)

/-- A session that was just opened. -/
def start (state : σ) : Link σ := ⟨default, state, false⟩

/-- What becomes of a call. -/
def ran (link : Link σ) (call : SessionCall) : (call.Answer × Session) × σ × Bool :=
  (link.session.answer call).run server.respond (link.state, link.opened)

/-- What a call answers. -/
def answer (link : Link σ) (call : SessionCall) : call.Answer := (link.ran server call).1.1

/-- What is sent to the server during a call. -/
def sent (link : Link σ) (call : SessionCall) : List Request :=
  (link.session.answer call).asked server.respond (link.state, link.opened)

/-- The link after a call. -/
def next (link : Link σ) (call : SessionCall) : Link σ :=
  let result := link.ran server call
  ⟨result.1.2, result.2.1, result.2.2⟩

/-- The link after some calls. -/
def after (link : Link σ) (calls : List SessionCall) : Link σ := calls.foldl (next server) link

/-- The session knows of the transaction that the server has open, and it believes none to be open
once it was given back. -/
structure Sound (link : Link σ) : Prop where
  believes : link.opened = true → link.session.inTransaction = true
  returned : link.session.connected = false → link.session.inTransaction = false

end Link

/-! ## Calls amid a transaction -/

section

variable {α : Type} {σ : Type} {server : Answering σ}

/-- An exchange that begins nothing leaves nothing open that was not. -/
theorem opened_of_run {p : Exchange α} (amid : p.Within Request.Amid fun _ => True)
    {state : σ × Bool} (h : (p.run server.respond state).2.2 = true) : state.2 = true := by
  induction p generalizing state with
  | pure a => exact h
  | call request next ih =>
    have still := ih _ (amid.2 _) h
    simp only [Answering.respond, Bool.and_eq_true] at still
    exact opened_of_amid amid.1 still.1

theorem amid_send (s : Session) {bound : Bound} (amid : ∀ i, bound.statement ≠ .begin i) :
    (s.send bound).run.Within Request.Amid fun _ => True := by
  unfold Session.send
  split
  · exact ⟨amid, fun _ => trivial⟩
  · trivial

/-- What is done with the answer to a statement sends nothing more. -/
theorem amid_bind {β : Type} {p : FallibleExchange α} {f : α → FallibleExchange β}
    (h : p.run.Within Request.Amid fun _ => True)
    (rest : ∀ a, (f a).run.Within Request.Amid fun _ => True) :
    (p >>= f).run.Within Request.Amid fun _ => True :=
  h.bind fun outcome _ => by
    cases outcome with
    | error f => trivial
    | ok a => exact rest a

theorem amid_execute (s : Session) {statement : Statement} (amid : ∀ i, statement ≠ .begin i) :
    (s.execute statement).run.Within Request.Amid fun _ => True :=
  amid_bind (amid_send s amid) fun _ => trivial

theorem amid_executeNamed (s : Session) (name : String) {statement : String → Statement}
    (amid : ∀ i, statement name ≠ .begin i) :
    (s.executeNamed name statement).run.Within Request.Amid fun _ => True :=
  amid_bind trivial fun _ => amid_execute s amid

theorem amid_store (s : Session) (call : StoreCall) :
    (s.store call).run.Within Request.Amid fun _ => True := by
  cases call <;> refine amid_bind (amid_send s ?_) fun _ => trivial <;> nofun

/-! ## What the calls do -/

theorem begin_of_connected {s : Session} (connected : s.connected = true) (isolation : Isolation) :
    s.begin isolation = .call (.send ⟨.begin (some isolation), []⟩) fun reply =>
      pure (match reply with
        | .ok _ => (.ok (), { s with inTransaction := true })
        | .error f => (.error f, s)) := by
  rw [Session.begin, Session.execute, Session.send, connected]
  refine congrArg (Program.call _) (funext fun reply => ?_)
  cases reply <;> rfl

theorem finish_of_connected {s : Session} (connected : s.connected = true)
    (statement : Statement) :
    s.finish statement = .call (.send ⟨statement, []⟩) fun reply =>
      pure (reply.map fun _ => (), { s with inTransaction := false }) := by
  rw [Session.finish, Session.execute, Session.send, connected]
  refine congrArg (Program.call _) (funext fun reply => ?_)
  cases reply <;> rfl

/-- A session that is given back sends `ROLLBACK` if it believes a transaction to be open. -/
theorem release_of_connected {s : Session} (connected : s.connected = true) :
    s.release = if s.inTransaction then
        .call (.send ⟨.rollback, []⟩) fun reply => pure (reply.map fun _ => (), ⟨false, false⟩)
      else pure (.ok (), ⟨false, false⟩) := by
  obtain ⟨held, believed⟩ := s
  obtain rfl : held = true := connected
  cases believed with
  | false => rfl
  | true =>
    refine congrArg (Program.call _) (funext fun reply => ?_)
    cases reply <;> rfl

/-- Nothing can be done with a session that was given back. -/
theorem answer_of_released (call : SessionCall) :
    ∃ f, (⟨false, false⟩ : Session).answer call = pure (.error f, ⟨false, false⟩) := by
  have named (name : String) (statement : String → Statement) :
      ∃ f, (⟨false, false⟩ : Session).keeping
          ((⟨false, false⟩ : Session).executeNamed name statement) =
        pure (.error f, ⟨false, false⟩) := by
    rw [Session.executeNamed]
    cases checkIdentifier name <;> exact ⟨_, rfl⟩
  cases call with
  | savepoint name | releaseSavepoint name | rollbackToSavepoint name => exact named name _
  | store call => cases call <;> exact ⟨_, rfl⟩
  | _ => exact ⟨_, rfl⟩

/-! ## Links -/

namespace Link

variable {link : Link σ}

theorem Sound.session_eq (sound : link.Sound) (released : link.session.connected = false) :
    link.session = ⟨false, false⟩ := by
  have unbelieved := sound.returned released
  obtain ⟨⟨held, believed⟩, state, opened⟩ := link
  obtain rfl : held = false := released
  obtain rfl : believed = false := unbelieved
  rfl

/-- On a link that was given back every call fails and leaves everything as it is. -/
theorem Sound.released (sound : link.Sound) (released : link.session.connected = false)
    (call : SessionCall) :
    (∃ f, link.answer server call = .error f) ∧ link.sent server call = [] ∧
      link.next server call = link := by
  obtain ⟨f, fails⟩ := answer_of_released call
  have same := sound.session_eq released
  obtain ⟨session, state, opened⟩ := link
  obtain rfl : session = ⟨false, false⟩ := same
  simp only [answer, sent, next, ran, fails]
  exact ⟨⟨f, rfl⟩, rfl, rfl⟩

/-- A call that neither begins a transaction nor touches the session. -/
theorem Sound.keeping (sound : link.Sound) {call : SessionCall} {x : FallibleExchange call.Value}
    (same : link.session.answer call = link.session.keeping x)
    (amid : x.run.Within Request.Amid fun _ => True) : (link.next server call).Sound := by
  have ran : link.ran server call =
      (((x.run.run server.respond (link.state, link.opened)).1, link.session),
        (x.run.run server.respond (link.state, link.opened)).2) := by
    rw [Link.ran, same]
    exact Program.run_bind _ _ _ _
  refine ⟨fun opened => ?_, ?_⟩
  · simp only [next, ran] at opened ⊢
    exact sound.believes (opened_of_run amid opened)
  · simp only [next, ran]
    exact sound.returned

/-- A call that sends one statement. -/
theorem next_of_sends (server : Answering σ) {call : SessionCall} {bound : Bound}
    {result : (Request.send bound).Answer → call.Answer × Session}
    (same : link.session.answer call = .call (.send bound) fun reply => pure (result reply)) :
    link.sent server call = [.send bound] ∧
      ∃ reply left, link.next server call =
        ⟨(result reply).2, left,
          openAfter link.opened (.send bound) reply && !server.lost left⟩ := by
  simp only [sent, next, ran, same]
  exact ⟨rfl, _, _, rfl⟩

/-- A call that ends the transaction leaves none, and none is believed to be left. -/
theorem next_of_ends (server : Answering σ) {call : SessionCall} {statement : Statement}
    {held : Bool} {result : (Request.send ⟨statement, []⟩).Answer → call.Answer}
    (same : link.session.answer call = .call (.send ⟨statement, []⟩) fun reply =>
      pure (result reply, ⟨held, false⟩))
    (ends : ∀ reply, openAfter link.opened (.send ⟨statement, []⟩) reply = false) :
    (link.next server call).opened = false ∧
      (link.next server call).session = ⟨held, false⟩ := by
  obtain ⟨-, reply, left, after⟩ := next_of_sends server same
  rw [after]
  exact ⟨by rw [ends, Bool.false_and], rfl⟩

theorem Sound.of_not_opened (closed : link.opened = false)
    (returned : link.session.connected = false → link.session.inTransaction = false) :
    link.Sound :=
  ⟨fun opened => absurd (closed.symm.trans opened) nofun, returned⟩

/-- The first time a session is given back, its connection goes back without a transaction. -/
theorem Sound.release (sound : link.Sound) (server : Answering σ)
    (connected : link.session.connected = true) :
    link.sent server .release =
        (if link.session.inTransaction then [.send ⟨.rollback, []⟩] else []) ∧
      (link.next server .release).session = ⟨false, false⟩ ∧
      (link.next server .release).opened = false := by
  have gives := release_of_connected connected
  cases believed : link.session.inTransaction with
  | false =>
    have closed : link.opened = false :=
      Bool.eq_false_iff.2 fun opened => absurd (believed.symm.trans (sound.believes opened)) nofun
    rw [believed] at gives
    have same : link.session.answer .release = pure (.ok (), ⟨false, false⟩) := gives
    simp only [sent, next, ran, same]
    exact ⟨rfl, rfl, closed⟩
  | true =>
    rw [believed] at gives
    have same : link.session.answer .release = _ := gives
    obtain ⟨closed, session⟩ := next_of_ends server same fun _ => rfl
    exact ⟨(next_of_sends server same).1, session, closed⟩

/-- Every call keeps a link sound. -/
theorem Sound.next (sound : link.Sound) (call : SessionCall) : (link.next server call).Sound := by
  cases connected : link.session.connected with
  | false =>
    rw [(sound.released connected call).2.2]
    exact sound
  | true =>
    cases call with
    | begin isolation =>
      have same : link.session.answer (.begin isolation) = _ :=
        begin_of_connected connected isolation
      obtain ⟨-, reply, left, after⟩ := next_of_sends server same
      rw [after]
      cases reply with
      | ok reply =>
        exact ⟨fun _ => rfl, fun returned => absurd (connected.symm.trans returned) nofun⟩
      | error f =>
        refine ⟨fun opened => sound.believes ?_, sound.returned⟩
        exact (Bool.and_eq_true_iff.1 opened).1
    | setReadOnly => exact sound.keeping rfl (amid_execute _ nofun)
    | savepoint name => exact sound.keeping rfl (amid_executeNamed _ name nofun)
    | releaseSavepoint name => exact sound.keeping rfl (amid_executeNamed _ name nofun)
    | rollbackToSavepoint name => exact sound.keeping rfl (amid_executeNamed _ name nofun)
    | commit =>
      have same : link.session.answer .commit = _ := finish_of_connected connected .commit
      obtain ⟨closed, session⟩ := next_of_ends server same fun _ => rfl
      exact .of_not_opened closed fun _ => by rw [session]
    | rollback =>
      have same : link.session.answer .rollback = _ := finish_of_connected connected .rollback
      obtain ⟨closed, session⟩ := next_of_ends server same fun _ => rfl
      exact .of_not_opened closed fun _ => by rw [session]
    | release =>
      obtain ⟨-, session, closed⟩ := sound.release server connected
      exact .of_not_opened closed fun _ => by rw [session]
    | store call => exact sound.keeping rfl (amid_store _ call)

theorem sound_start (state : σ) : (start state).Sound := .of_not_opened rfl nofun

theorem Sound.after (sound : link.Sound) (calls : List SessionCall) :
    (link.after server calls).Sound := by
  induction calls generalizing link with
  | nil => exact sound
  | cons call calls ih => exact ih (sound.next call)

/-- A link that was given back stays as it is. -/
theorem Sound.after_released (sound : link.Sound) (released : link.session.connected = false)
    (calls : List SessionCall) : link.after server calls = link := by
  induction calls with
  | nil => rfl
  | cons call calls ih =>
    rw [Link.after, List.foldl_cons, (sound.released released call).2.2]
    exact ih

/-- Only giving it back takes the connection from a session. -/
theorem connected_next {call : SessionCall} (held : call ≠ .release) :
    (link.next server call).session.connected = link.session.connected := by
  have keeping {α : Type} (x : FallibleExchange α) :
      (link.session.keeping x).Within (fun _ => True)
        fun result => result.2.connected = link.session.connected :=
    (Program.Within.any x.run).bind fun _ _ => rfl
  have finish (statement : Statement) :
      (link.session.finish statement).Within (fun _ => True)
        fun result => result.2.connected = link.session.connected :=
    (Program.Within.any (link.session.execute statement).run).bind fun _ _ => rfl
  have bounded : (link.session.answer call).Within (fun _ => True)
      fun result => result.2.connected = link.session.connected := by
    cases call with
    | begin isolation =>
      refine (Program.Within.any (link.session.execute _).run).bind fun outcome _ => ?_
      cases outcome <;> rfl
    | setReadOnly => exact keeping (link.session.execute .setReadOnly)
    | savepoint name => exact keeping (link.session.executeNamed name .savepoint)
    | releaseSavepoint name => exact keeping (link.session.executeNamed name .releaseSavepoint)
    | rollbackToSavepoint name =>
      exact keeping (link.session.executeNamed name .rollbackToSavepoint)
    | commit => exact finish .commit
    | rollback => exact finish .rollback
    | release => exact absurd rfl held
    | store call => exact keeping (link.session.store call)
  exact bounded.of_run rfl

theorem connected_after {calls : List SessionCall} (held : .release ∉ calls) :
    (link.after server calls).session.connected = link.session.connected := by
  induction calls generalizing link with
  | nil => rfl
  | cons call calls ih =>
    rw [List.mem_cons, not_or] at held
    exact (ih held.2).trans (connected_next (Ne.symm held.1))

end Link

end

/-- However the server answers, and whichever calls are made on a session in whichever order, the
session believes a transaction to be open whenever the server has one.  When it is given back for
the first time, it sends `ROLLBACK` exactly if it believes so, and its connection goes back without
a transaction, also if the `ROLLBACK` is answered with an error.  From then on every call fails and
sends nothing, and nothing changes any more. -/
theorem handed_back_closed {σ : Type} (server : Answering σ) (state : σ)
    (calls : List SessionCall) :
    let link := (Link.start state).after server calls
    (link.opened = true → link.session.inTransaction = true) ∧
      (.release ∉ calls →
        let back := link.next server .release
        link.sent server .release =
            (if link.session.inTransaction then [.send ⟨.rollback, []⟩] else []) ∧
          link.session.connected = true ∧ back.session.connected = false ∧ back.opened = false ∧
          ∀ later call, let left := back.after server later
            (∃ f, left.answer server call = .error f) ∧ left.sent server call = [] ∧
              left.next server call = back) := by
  intro link
  have sound : link.Sound := (Link.sound_start state).after calls
  refine ⟨sound.believes, fun held => ?_⟩
  intro back
  have connected : link.session.connected = true := Link.connected_after held
  obtain ⟨sent, session, closed⟩ := sound.release server connected
  have released : back.session.connected = false := by rw [session]
  refine ⟨sent, connected, released, closed, fun later call => ?_⟩
  have returned : back.Sound := sound.next .release
  intro left
  rw [show left = back from returned.after_released released later]
  exact returned.released released call

/-- A server that fails in some turns. -/
def failingIn (turns : List Nat) : Answering Nat where
  answer
    | .acquire, turn => (.ok (), turn + 1)
    | .send _, turn => (if turn ∈ turns then .error .poolClosed else .ok ⟨[], 0⟩, turn + 1)
    | .draw, turn => ((default : Uuid), turn + 1)
  lost _ := false

/-- A commit fails, and later a record cannot be saved and the last `ROLLBACK` fails as well. -/
theorem handed_back_closed_failing :
    let link := (Link.start 0).after (failingIn [1, 3, 4]) [.begin .serializable, .commit,
      .begin .serializable, .store (.saveApproval (.fresh default default))]
    link.opened = true ∧ link.session.inTransaction = true ∧
      link.sent (failingIn [1, 3, 4]) .release = [.send ⟨.rollback, []⟩] ∧
      (link.next (failingIn [1, 3, 4]) .release).opened = false := by
  intro link
  have told := handed_back_closed (failingIn [1, 3, 4]) 0 [.begin .serializable, .commit,
    .begin .serializable, .store (.saveApproval (.fresh default default))]
  obtain ⟨sent, -, -, closed, -⟩ := told.2 (by decide)
  exact ⟨rfl, told.1 rfl, sent, closed⟩

end Appraisal.Postgres
