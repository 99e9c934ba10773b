import Kerberos.Cipher.Provider

/-!
# Sessions

A session is a sequence of calls of one cipher that share a state: each call starts with the state
that the call before it has left, whether that one succeeded or not.
-/

namespace Kerberos

/-- A call of a cipher. -/
structure Call where
  direction : Direction
  key : Key
  message : Message

/-- A call that was made, the state it started with and what it left. -/
structure Exchange where
  call : Call
  before : Option CipherState
  result : Transformed

namespace Exchange

/-- Whether the call succeeded. -/
def succeeded (e : Exchange) : Bool :=
  e.result.answer.isOk

theorem filter_succeeded_cons_of_ok {e : Exchange} (h : e.result.answer = .ok ())
    (log : List Exchange) :
    (e :: log).filter (·.succeeded) = e :: log.filter (·.succeeded) := by
  simp [succeeded, h, Except.isOk, Except.toBool]

theorem filter_succeeded_cons_of_error {e : Exchange} {error : Error}
    (h : e.result.answer = .error error) (log : List Exchange) :
    (e :: log).filter (·.succeeded) = log.filter (·.succeeded) := by
  simp [succeeded, h, Except.isOk, Except.toBool]

/-- The state that some calls leave, the one they start with if there is no call. -/
def stateAfter (start : Option CipherState) (log : List Exchange) : Option CipherState :=
  (log.map (·.result.state)).getLastD start

theorem stateAfter_cons (start : Option CipherState) (e : Exchange) (log : List Exchange) :
    stateAfter start (e :: log) = stateAfter e.result.state log := by
  simp only [stateAfter, List.map_cons, List.getLastD_cons]

end Exchange

namespace Provider

/-- Makes some calls with a shared state, one after the other. -/
def session (p : Provider) : Option CipherState → List Call → List Exchange
  | _, [] => []
  | state, c :: rest =>
    let t := p.transform c.direction c.key state c.message
    ⟨c, state, t⟩ :: session p t.state rest

theorem map_call_session (p : Provider) (state : Option CipherState) (calls : List Call) :
    (p.session state calls).map (·.call) = calls := by
  induction calls generalizing state with
  | nil => rfl
  | cons c rest ih => simp only [session, List.map_cons, ih]

/-- What a call leaves is what the cipher makes of it. -/
theorem result_of_mem_session {p : Provider} {state : Option CipherState} {calls : List Call}
    {e : Exchange} (h : e ∈ p.session state calls) :
    e.result = p.transform e.call.direction e.call.key e.before e.call.message := by
  induction calls generalizing state with
  | nil => cases h
  | cons c rest ih =>
    rcases List.mem_cons.1 h with rfl | hrest
    · rfl
    · exact ih hrest

/-- A property of states that every call keeps holds before every call of a session. -/
theorem before_of_mem_session {p : Provider} {P : Option CipherState → Prop}
    (hstep : ∀ d key state m, P state → P (p.transform d key state m).state)
    {state : Option CipherState} (hstart : P state) {calls : List Call} {e : Exchange}
    (h : e ∈ p.session state calls) : P e.before := by
  induction calls generalizing state with
  | nil => cases h
  | cons c rest ih =>
    rcases List.mem_cons.1 h with rfl | hrest
    · exact hstart
    · exact ih (hstep c.direction c.key state c.message hstart) hrest

end Provider
end Kerberos
