import Smtp.Lemmas.Envelope

/-!
# What the handlers are told

With `OnMail`, `OnRcpt` and `OnReset` set, a handler follows the mail transaction by the calls it receives. Over every
run of the command loop, from any session, the calls the session makes are those of the run's log (`runLog`), each
with the outcomes of its turn, and each `OnData` call receives the envelope the calls before it say (`Delivers`): the
path of the last `OnMail` that returned `nil`, and the paths of the `OnRcpt` calls that returned `nil` since, in order,
unless an `OnReset` came between. The session's own envelope after the run is the one the log says
(`run_delivers_envelope`).

Whatever handlers are set, a session is authenticated only by an `Authenticate` call that returned `nil`, and stays
so; in submission mode, `OnMail` is called only once the session is authenticated (`run_authenticates`).
-/

namespace Smtp
open EnvelopeAux

/-- With `OnMail`, `OnRcpt` and `OnReset` set, every run of the command loop, from any session and with any outcomes,
makes the calls of its log, each `OnData` call of it receiving the envelope of the calls before it, and leaves the
session with the envelope of the whole log. -/
theorem run_delivers_envelope (srv : Server) (hm : srv.mailHandler = true) (hr : srv.rcptHandler = true)
    (hz : srv.resetHandler = true) : ∀ (os : List Outcomes) (w : World),
    (run srv os w).1.calls = w.calls ++ (runLog srv os w).map Prod.fst ∧
    (run srv os w).1.s.envelope = (runLog srv os w).foldl Envelope.next w.s.envelope ∧
    Delivers w.s.envelope (runLog srv os w) := fun os w =>
  have h := run_logs srv os w
  ⟨h.1, (h.2.2.2 ⟨hm, hr, hz⟩).1, (h.2.2.2 ⟨hm, hr, hz⟩).2⟩

/-- A greeted session takes `MAIL`, a `RCPT` that `OnRcpt` accepts, one it refuses, and `DATA`, with all handlers set. -/
theorem run_delivers_envelope_rcpt_refused :
    let srv : Server :=
      { newServer with mailHandler := true, rcptHandler := true, resetHandler := true, dataHandler := true }
    let w := (greet srv none
      ⟨ascii "HELO x\r\nMAIL FROM:<a@b.c>\r\nRCPT TO:<d@e.f>\r\nRCPT TO:<g@h.i>\r\nDATA\r\nhi\r\n.\r\n", .eof⟩).1
    let os : List Outcomes := [{}, {}, {}, { rcpt := some .other }, {}]
    srv.mailHandler = true ∧ srv.rcptHandler = true ∧ srv.resetHandler = true ∧
      (run srv os w).1.calls = w.calls ++ (runLog srv os w).map Prod.fst ∧
      (run srv os w).1.s.envelope = (runLog srv os w).foldl Envelope.next w.s.envelope ∧
      Delivers w.s.envelope (runLog srv os w) :=
  ⟨rfl, rfl, rfl, run_delivers_envelope _ rfl rfl rfl _ _⟩

/-- The calls of that run: `OnData` receives the recipient `OnRcpt` accepted, not the one it refused. -/
example :
    let srv : Server :=
      { newServer with mailHandler := true, rcptHandler := true, resetHandler := true, dataHandler := true }
    let w := (greet srv none
      ⟨ascii "HELO x\r\nMAIL FROM:<a@b.c>\r\nRCPT TO:<d@e.f>\r\nRCPT TO:<g@h.i>\r\nDATA\r\nhi\r\n.\r\n", .eof⟩).1
    let os : List Outcomes := [{}, {}, {}, { rcpt := some .other }, {}]
    (runLog srv os w).map Prod.fst = [.reset, .mail ⟨⟨ascii "a", ascii "b.c"⟩, false⟩,
      .rcpt ⟨⟨ascii "d", ascii "e.f"⟩⟩, .rcpt ⟨⟨ascii "g", ascii "h.i"⟩⟩,
      .data ⟨⟨ascii "a", ascii "b.c"⟩, false⟩ [⟨⟨ascii "d", ascii "e.f"⟩⟩] (ascii "hi\r\n"), .reset] := by
  decide

/-! ## Authentication -/

/-- A log authenticates a session exactly when the session was, or when an `Authenticate` call of it returned
`nil`. -/
theorem foldl_authNext (a : Bool) : ∀ l : List (Call × Outcomes),
    l.foldl authNext a = true ↔ a = true ∨ ∃ m u p o, (.authenticate m u p, o) ∈ l ∧ o.auth = none
  | [] => by simp
  | (c, o) :: l => by
    rw [List.foldl_cons, foldl_authNext _ l]
    cases c with
    | authenticate m u p => simp [authNext, or_assoc, or_and_right, exists_or, and_assoc]
    | _ => simp only [authNext, List.mem_cons, Prod.mk.injEq, reduceCtorEq, false_and, false_or]

/-- In submission mode, the calls of a log before each of its `OnMail` calls have authenticated the session. -/
theorem Guards.mail_authenticated {srv : Server} {a : Bool} {l₁ l₂ : List (Call × Outcomes)} {rp : ReversePath}
    {o : Outcomes} (h : Guards srv a (l₁ ++ (.mail rp, o) :: l₂)) (hsub : srv.submissionMode = true) :
    l₁.foldl authNext a = true :=
  ((guards_append srv a _ _).1 h).2.1 rp rfl hsub

/-- Every run of the command loop, from any session, with any handlers and any outcomes, leaves the session
authenticated exactly when it was, or when an `Authenticate` call of the run's log returned `nil`. In submission mode,
each `OnMail` call of the log comes when the session was authenticated before the run, or after an `Authenticate` call
that returned `nil`. -/
theorem run_authenticates (srv : Server) (os : List Outcomes) (w : World) :
    ((run srv os w).1.s.authenticated = true ↔ w.s.authenticated = true ∨
      ∃ m u p o, (.authenticate m u p, o) ∈ runLog srv os w ∧ o.auth = none) ∧
    (srv.submissionMode = true → ∀ l₁ rp o l₂, runLog srv os w = l₁ ++ (.mail rp, o) :: l₂ →
      w.s.authenticated = true ∨ ∃ m u p o', (.authenticate m u p, o') ∈ l₁ ∧ o'.auth = none) := by
  obtain ⟨-, ha, hg, -⟩ := run_logs srv os w
  refine ⟨by rw [ha, foldl_authNext], fun hsub l₁ rp o l₂ hl => ?_⟩
  rw [hl] at hg
  exact (foldl_authNext _ _).1 (hg.mail_authenticated hsub)

/-- A session in submission mode authenticates with `AUTH PLAIN`, which `Authenticate` accepts, then takes `MAIL`. -/
theorem run_authenticates_plain :
    let srv : Server := { newServer with authHandler := true, mailHandler := true, submissionMode := true }
    let w := (greet srv none ⟨ascii "EHLO x\r\nAUTH PLAIN AGEAYg==\r\nMAIL FROM:<a@b.c>\r\n", .eof⟩).1
    srv.submissionMode = true ∧
    ((run srv [{}, {}, {}] w).1.s.authenticated = true ↔ w.s.authenticated = true ∨
      ∃ m u p o, (.authenticate m u p, o) ∈ runLog srv [{}, {}, {}] w ∧ o.auth = none) ∧
    (srv.submissionMode = true → ∀ l₁ rp o l₂, runLog srv [{}, {}, {}] w = l₁ ++ (.mail rp, o) :: l₂ →
      w.s.authenticated = true ∨ ∃ m u p o', (.authenticate m u p, o') ∈ l₁ ∧ o'.auth = none) :=
  ⟨rfl, run_authenticates _ _ _⟩

/-- The calls of that run: `Authenticate` with the PLAIN credentials, then `OnMail`. -/
example :
    let srv : Server := { newServer with authHandler := true, mailHandler := true, submissionMode := true }
    let w := (greet srv none ⟨ascii "EHLO x\r\nAUTH PLAIN AGEAYg==\r\nMAIL FROM:<a@b.c>\r\n", .eof⟩).1
    (runLog srv [{}, {}, {}] w).map Prod.fst =
      [.authenticate (ascii "PLAIN") (ascii "a") (ascii "b"), .mail ⟨⟨ascii "a", ascii "b.c"⟩, false⟩] := by
  decide

end Smtp
