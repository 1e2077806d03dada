import Smtp.Server.Session

/-!
# The mail transaction

What a command may do to a session's state and transaction, whatever it replies (`Trans`): keep them, clear them, or
make one of the three moves of a transaction (`MAIL`, `RCPT`, a `BDAT` chunk). `Inv` is the invariant of the
transaction every session keeps between two commands, and `Trans.inv` shows that each move keeps it; `Lemmas/Session.lean`
shows that every turn of the command loop is such a move.
-/

namespace Smtp

/-- What one command may do to the state and the transaction of a session. -/
inductive Trans (srv : Server) (s : Session) : Session → Prop
  /-- The state and the transaction are kept; `authenticated` is only ever set. -/
  | keep {s' : Session} : s'.state = s.state → s'.reversePath = s.reversePath → s'.forwardPaths = s.forwardPaths →
      s'.bdatBuffer = s.bdatBuffer → (s.authenticated → s'.authenticated) → Trans srv s s'
  /-- The transaction is cleared, and the session waits for a greeting or a `MAIL`. -/
  | clear {s' : Session} : s'.state = .new ∨ s'.state = .greeted → s'.reversePath = {} → s'.forwardPaths = [] →
      s'.bdatBuffer = [] → Trans srv s s'
  /-- A `MAIL` is accepted: in `stateGreeted`, and, in submission mode, once authenticated. -/
  | mail {s' : Session} : s.state = .greeted → s'.state = .mail → s'.forwardPaths = [] →
      s'.bdatBuffer = s.bdatBuffer → (srv.submissionMode → s.authenticated) → s'.authenticated = s.authenticated →
      Trans srv s s'
  /-- A `RCPT` is accepted below the recipient limit. -/
  | rcpt {s' : Session} (fp : ForwardPath) : (s.state = .mail ∨ s.state = .rcpt) → s'.state = .rcpt →
      s'.forwardPaths = s.forwardPaths ++ [fp] → (s.forwardPaths.length : Int) < srv.maxRecipients →
      s'.bdatBuffer = s.bdatBuffer → s'.authenticated = s.authenticated → Trans srv s s'
  /-- A `BDAT` chunk is kept for the message. -/
  | bdat {s' : Session} (chunk : Bytes) : s.state = .rcpt → s'.state = .rcpt → s'.forwardPaths = s.forwardPaths →
      s'.bdatBuffer = s.bdatBuffer ++ chunk → s'.authenticated = s.authenticated → Trans srv s s'

/-- The invariant of the transaction between two commands. -/
structure Inv (srv : Server) (s : Session) : Prop where
  /-- `stateData` does not outlive the `DATA` command. -/
  notData : s.state ≠ .data
  /-- Before a `MAIL`, no transaction. -/
  idle : s.state = .new ∨ s.state = .greeted → s.reversePath = {} ∧ s.forwardPaths = [] ∧ s.bdatBuffer = []
  /-- After a `MAIL`, no recipient and no chunk yet. -/
  mail : s.state = .mail → s.forwardPaths = [] ∧ s.bdatBuffer = []
  /-- After a `RCPT`, at least one recipient, and no more than the limit. -/
  rcpt : s.state = .rcpt → 1 ≤ s.forwardPaths.length ∧ (s.forwardPaths.length : Int) ≤ srv.maxRecipients
  /-- Chunks are kept only while recipients are. -/
  bdat : s.bdatBuffer ≠ [] → s.state = .rcpt
  /-- In submission mode a transaction needs an authenticated client. -/
  submission : srv.submissionMode → s.state = .mail ∨ s.state = .rcpt → s.authenticated

namespace TransactionAux

theorem inv_keep {srv : Server} {s s' : Session} (hi : Inv srv s) (h1 : s'.state = s.state)
    (h2 : s'.reversePath = s.reversePath) (h3 : s'.forwardPaths = s.forwardPaths) (h4 : s'.bdatBuffer = s.bdatBuffer)
    (h5 : s.authenticated → s'.authenticated) : Inv srv s' :=
  ⟨h1 ▸ hi.notData, by rw [h1, h2, h3, h4]; exact hi.idle, by rw [h1, h3, h4]; exact hi.mail,
    by rw [h1, h3]; exact hi.rcpt, by rw [h1, h4]; exact hi.bdat, fun hm hs => h5 (hi.submission hm (h1 ▸ hs))⟩

theorem inv_clear {srv : Server} {s' : Session} (h1 : s'.state = .new ∨ s'.state = .greeted)
    (h2 : s'.reversePath = {}) (h3 : s'.forwardPaths = []) (h4 : s'.bdatBuffer = []) : Inv srv s' := by
  constructor <;> rcases h1 with h1 | h1 <;> simp_all

end TransactionAux

open TransactionAux in
/-- Each move keeps the invariant. -/
theorem Trans.inv {srv : Server} {s s' : Session} (hi : Inv srv s) : Trans srv s s' → Inv srv s'
  | .keep h1 h2 h3 h4 h5 => inv_keep hi h1 h2 h3 h4 h5
  | .clear h1 h2 h3 h4 => inv_clear h1 h2 h3 h4
  | .mail h1 h2 h3 h4 h5 h6 => by
    obtain ⟨-, -, hb⟩ := hi.idle (.inr h1)
    constructor <;> simp_all
  | .rcpt _ h1 h2 h3 h4 h5 h6 => by
    have hlen : 1 ≤ s'.forwardPaths.length ∧ (s'.forwardPaths.length : Int) ≤ srv.maxRecipients := by
      rw [h3, List.length_append, List.length_singleton]; omega
    refine ⟨by simp [h2], by simp [h2], by simp [h2], fun _ => hlen, fun _ => h2, fun hm _ => ?_⟩
    rw [h6]; exact hi.submission hm h1
  | .bdat _ h1 h2 h3 h4 h5 => by
    obtain ⟨hl, hr⟩ := hi.rcpt h1
    refine ⟨by simp [h2], by simp [h2], by simp [h2], fun _ => ⟨h3 ▸ hl, h3 ▸ hr⟩, fun _ => h2, fun hm _ => ?_⟩
    rw [h5]; exact hi.submission hm (.inr h1)

/-- The sessions the command loop reaches between two commands: after the greeting, and after each turn that lets
the loop go on. -/
inductive Reachable (srv : Server) : World → Prop
  | start (onConnect : Option HandlerErr) (r : BufReader) :
      (greet srv onConnect r).2 = .next → Reachable srv (greet srv onConnect r).1
  | step (o : Outcomes) {w : World} : Reachable srv w → (step srv o w).2 = .next → Reachable srv (step srv o w).1

end Smtp
