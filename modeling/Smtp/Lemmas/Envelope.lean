import Smtp.Lemmas.Replies

/-!
# What the handlers see

A handler learns of a session only through the calls the session makes. `Envelope.next` is what each call says of the
envelope, read with what its handler returned: an `OnMail` or `OnRcpt` that returns `nil` starts the envelope or adds
its path, `OnReset` clears it. `Delivers` says that each `OnData` call of a log receives the envelope of the calls
before it. `authNext` is what each call says of authentication: an `Authenticate` that returns `nil` authenticates the
session. `Guards` says that, in submission mode, each `OnMail` call comes when the calls before it have authenticated
the session.

`Logs srv w w' l` says that from `w` to `w'` the session made the calls of the log `l`, with its authentication moving
with them and the guard of `OnMail` kept, and, when `OnMail`, `OnRcpt` and `OnReset` are set, with its envelope moving
with them and each `OnData` receiving the envelope so far. `Moves` is that relation over one turn. One lemma per
handler shows that each handler moves so, and `run_logs` lifts it over every run of the command loop.
-/

namespace Smtp

/-- The reverse path and the forward paths of a mail transaction. -/
structure Envelope where
  reversePath : ReversePath
  forwardPaths : List ForwardPath
  deriving DecidableEq, Repr

/-- The session's envelope. -/
def Session.envelope (s : Session) : Envelope := ⟨s.reversePath, s.forwardPaths⟩

/-- What a handler call, with the outcomes of its turn, says of the envelope: an `OnMail` that returns `nil` starts
one, an `OnRcpt` that returns `nil` adds its path, `OnReset` clears it. -/
def Envelope.next (env : Envelope) : Call × Outcomes → Envelope
  | (.mail rp, o) => if o.mail = none then ⟨rp, []⟩ else env
  | (.rcpt fp, o) => if o.rcpt = none then ⟨env.reversePath, env.forwardPaths ++ [fp]⟩ else env
  | (.reset, _) => ⟨{}, []⟩
  | _ => env

/-- Each `OnData` call of the log receives the envelope of the calls before it, from `env` on. -/
def Delivers : Envelope → List (Call × Outcomes) → Prop
  | _, [] => True
  | env, (c, o) :: cs => (∀ rp fps body, c = .data rp fps body → env = ⟨rp, fps⟩) ∧ Delivers (env.next (c, o)) cs

/-- What a handler call, with the outcomes of its turn, says of authentication: an `Authenticate` that returns `nil`
authenticates the session, and no call revokes it. -/
def authNext (a : Bool) : Call × Outcomes → Bool
  | (.authenticate .., o) => a || o.auth.isNone
  | _ => a

/-- In submission mode, each `OnMail` call of the log comes when the calls before it, from `a` on, have authenticated
the session. -/
def Guards (srv : Server) : Bool → List (Call × Outcomes) → Prop
  | _, [] => True
  | a, (c, o) :: cs => (∀ rp, c = .mail rp → srv.submissionMode = true → a = true) ∧ Guards srv (authNext a (c, o)) cs

/-- `OnMail`, `OnRcpt` and `OnReset` are set: every change of the envelope is told to a handler. -/
def Server.SeesEnvelope (srv : Server) : Prop :=
  srv.mailHandler = true ∧ srv.rcptHandler = true ∧ srv.resetHandler = true

/-- The handler calls of a run of the command loop, each with the outcomes of its turn. -/
def runLog (srv : Server) : List Outcomes → World → List (Call × Outcomes)
  | [], _ => []
  | o :: os, w =>
    match step srv o w with
    | (w', .next) => (w'.calls.drop w.calls.length).map (·, o) ++ runLog srv os w'
    | (w', _) => (w'.calls.drop w.calls.length).map (·, o)

namespace EnvelopeAux
open SessionAux (ite_of ite_of_apply respWorld finishMessage_s)

/-- From `w` to `w'` the session made the calls of `l`: its authentication moved with them and each `OnMail` among
them passed the guard of submission mode; when the handlers see the envelope, the envelope moved with them and each
`OnData` among them received the envelope so far. -/
def Logs (srv : Server) (w w' : World) (l : List (Call × Outcomes)) : Prop :=
  w'.calls = w.calls ++ l.map Prod.fst ∧ w'.s.authenticated = l.foldl authNext w.s.authenticated ∧
    Guards srv w.s.authenticated l ∧
    (srv.SeesEnvelope → w'.s.envelope = l.foldl Envelope.next w.s.envelope ∧ Delivers w.s.envelope l)

/-- The calls of one turn, whose handlers answered `o`. -/
def Moves (srv : Server) (o : Outcomes) (w w' : World) : Prop := ∃ cs : List Call, Logs srv w w' (cs.map (·, o))

@[simp] theorem reply_calls (w : World) (c : Int) (e : EnhancedCode) (m : Bytes) : (w.reply c e m).calls = w.calls :=
  rfl
@[simp] theorem replyMulti_calls (w : World) (c : Int) (ls : List Bytes) : (w.replyMulti c ls).calls = w.calls := rfl
@[simp] theorem setS_calls (w : World) (f : Session → Session) : (w.setS f).calls = w.calls := rfl
@[simp] theorem call_calls (w : World) (c : Call) : (w.call c).calls = w.calls ++ [c] := rfl

@[simp] theorem replyErr_calls (w : World) (d : Int × EnhancedCode × Bytes) (e : HandlerErr) :
    (w.replyErr d e).calls = w.calls := by
  cases e <;> rfl

theorem delivers_append (env : Envelope) (l1 l2 : List (Call × Outcomes)) :
    Delivers env (l1 ++ l2) ↔ Delivers env l1 ∧ Delivers (l1.foldl Envelope.next env) l2 := by
  induction l1 generalizing env with
  | nil => simp [Delivers]
  | cons p l1 ih =>
    obtain ⟨c, o⟩ := p
    rw [List.cons_append]
    simp only [Delivers, ih, List.foldl_cons, and_assoc]

theorem guards_append (srv : Server) (a : Bool) (l1 l2 : List (Call × Outcomes)) :
    Guards srv a (l1 ++ l2) ↔ Guards srv a l1 ∧ Guards srv (l1.foldl authNext a) l2 := by
  induction l1 generalizing a with
  | nil => simp [Guards]
  | cons p l1 ih =>
    obtain ⟨c, o⟩ := p
    rw [List.cons_append]
    simp only [Guards, ih, List.foldl_cons, and_assoc]

/-! ## Logs and moves -/

section
variable {srv : Server} {o : Outcomes} {w w1 w2 : World}

theorem Logs.trans {l1 l2 : List (Call × Outcomes)} (h : Logs srv w w1 l1) (h' : Logs srv w1 w2 l2) :
    Logs srv w w2 (l1 ++ l2) := by
  obtain ⟨hc, ha, hg, he⟩ := h
  obtain ⟨hc', ha', hg', he'⟩ := h'
  refine ⟨by rw [hc', hc, List.map_append, List.append_assoc], by rw [ha', ha, List.foldl_append], ?_, fun hs => ?_⟩
  · rw [guards_append, ← ha]
    exact ⟨hg, hg'⟩
  · obtain ⟨he1, hd⟩ := he hs
    obtain ⟨he2, hd'⟩ := he' hs
    refine ⟨by rw [he2, he1, List.foldl_append], ?_⟩
    rw [delivers_append, ← he1]
    exact ⟨hd, hd'⟩

/-- No call, and the envelope and the authentication kept. -/
theorem moves_keep (h1 : w1.calls = w.calls) (h2 : w1.s.envelope = w.s.envelope)
    (h3 : w1.s.authenticated = w.s.authenticated) : Moves srv o w w1 :=
  ⟨[], by simp [h1], by simp [h3], trivial, fun _ => ⟨by simp [h2], trivial⟩⟩

theorem Moves.trans (h : Moves srv o w w1) (h' : Moves srv o w1 w2) : Moves srv o w w2 := by
  obtain ⟨cs, h⟩ := h
  obtain ⟨cs', h'⟩ := h'
  exact ⟨cs ++ cs', by simpa only [List.map_append] using h.trans h'⟩

/-- A move followed by operations that make no call and keep the envelope and the authentication, such as replies. -/
theorem Moves.keep (h : Moves srv o w w1) (h1 : w2.calls = w1.calls) (h2 : w2.s.envelope = w1.s.envelope)
    (h3 : w2.s.authenticated = w1.s.authenticated) : Moves srv o w w2 :=
  h.trans (moves_keep h1 h2 h3)

/-- A change of the envelope no handler is told of, which the envelope's part does not cover. -/
theorem moves_unseen (h1 : w1.calls = w.calls) (h3 : w1.s.authenticated = w.s.authenticated)
    (hs : ¬srv.SeesEnvelope) : Moves srv o w w1 :=
  ⟨[], by simp [h1], by simp [h3], trivial, fun h => absurd h hs⟩

/-- A call that neither the envelope nor the authentication depends on, such as `OnHelo`, or an `OnMail` that returns
an error where the guard of submission mode holds. -/
theorem moves_call (c : Call) (hc : w.s.envelope.next (c, o) = w.s.envelope) (hd : ∀ rp fps body, c ≠ .data rp fps body)
    (ha : authNext w.s.authenticated (c, o) = w.s.authenticated)
    (hg : ∀ rp, c = .mail rp → srv.submissionMode = true → w.s.authenticated = true) : Moves srv o w (w.call c) :=
  ⟨[c], rfl, by simpa using ha.symm, ⟨hg, trivial⟩,
    fun _ => ⟨by simpa using hc.symm, ⟨fun rp fps body h => absurd h (hd rp fps body), trivial⟩⟩⟩

/-- `session.resetTransaction`: `OnReset`, if it is set, and the envelope cleared. -/
theorem moves_reset : Moves srv o w (w.resetTransaction srv) := by
  cases hz : srv.resetHandler
  · exact moves_unseen (by simp [hz]) (by simp) fun hs => absurd hs.2.2 (by simp [hz])
  · exact ⟨[.reset], by simp [hz], by simp [authNext], ⟨nofun, trivial⟩,
      fun _ => ⟨by simp [Session.envelope, Envelope.next], ⟨nofun, trivial⟩⟩⟩

theorem invoke_eq {b : Bool} {c : Call} {err r : Option HandlerErr} (h : w.invoke b c err = (w1, r)) :
    (b = true ∧ w1 = w.call c ∧ r = err) ∨ (b = false ∧ w1 = w ∧ r = none) := by
  unfold World.invoke at h
  cases b <;> simp only [if_true, if_false, Bool.false_eq_true, Prod.mk.injEq] at h <;> simp [h]

/-- A handler that neither the envelope nor the authentication depends on, called if it is set. -/
theorem moves_invoke {b : Bool} {c : Call} {err r : Option HandlerErr} (h : w.invoke b c err = (w1, r))
    (hc : w.s.envelope.next (c, o) = w.s.envelope) (hd : ∀ rp fps body, c ≠ .data rp fps body)
    (ha : authNext w.s.authenticated (c, o) = w.s.authenticated)
    (hg : ∀ rp, c = .mail rp → srv.submissionMode = true → w.s.authenticated = true) : Moves srv o w w1 := by
  rcases invoke_eq h with ⟨-, rfl, -⟩ | ⟨-, rfl, -⟩
  · exact moves_call c hc hd ha hg
  · exact moves_keep rfl rfl rfl

/-- `OnData` with the envelope of the session, called if it is set. -/
theorem moves_data (b : Bool) (body : Bytes) (err : Option HandlerErr) :
    Moves srv o w (w.invoke b (.data w.s.reversePath w.s.forwardPaths body) err).1 := by
  cases b
  · exact moves_keep rfl rfl rfl
  · refine ⟨[.data w.s.reversePath w.s.forwardPaths body], rfl, by simp [World.invoke, authNext],
      ⟨fun _ => nofun, trivial⟩, fun _ => ⟨by simp [World.invoke, Envelope.next], ⟨?_, trivial⟩⟩⟩
    rintro rp fps body' h
    cases h
    rfl

/-- Where an exchange of `AUTH` stops or goes on, with what the session did so far. -/
theorem Moves.bind {r : Except World (Bytes × World)} {k : Bytes → World → World}
    (hk : ∀ d w', Moves srv o w w' → Moves srv o w (k d w')) :
    Moves srv o w (respWorld r) → Moves srv o w (match r with | .error w' => w' | .ok (d, w') => k d w') := by
  cases r with
  | error w' => exact id
  | ok p => obtain ⟨d, w'⟩ := p; exact hk d w'

end

/-! ## One lemma per handler -/

section
variable {srv : Server} {o : Outcomes} {args : Bytes} {w : World}

theorem finishMessage_moves (p : World × Option HandlerErr) (h : Moves srv o w p.1) :
    Moves srv o w (finishMessage srv p) := by
  obtain ⟨w1, err⟩ := p
  have hm : ∀ w2 : World, w2.calls = w1.calls → w2.s = w1.s →
      Moves srv o w ((w2.resetTransaction srv).setS fun s => { s with state := .greeted }) := fun w2 h1 h2 =>
    (h.trans ((moves_keep h1 (by rw [h2]) (by rw [h2])).trans moves_reset)).keep rfl (by simp [Session.envelope]) rfl
  cases err <;> exact hm _ (by simp) (by simp)

theorem handleHello_moves (esmtp : Bool) (missing : Bytes) : Moves srv o w (handleHello esmtp missing srv o args w) := by
  unfold handleHello
  refine ite_of (fun _ => moves_keep rfl rfl rfl) fun _ => ?_
  split
  · rename_i w' e h
    exact (moves_invoke h rfl nofun rfl fun _ => nofun).keep (by simp) (by simp) (by simp)
  · rename_i w' h
    have hm : Moves srv o w (w'.resetTransaction srv) := (moves_invoke h rfl nofun rfl fun _ => nofun).trans moves_reset
    dsimp only
    split <;> exact hm.keep (by simp) (by simp [Session.envelope]) (by simp)

theorem handleMAIL_moves : Moves srv o w (handleMAIL srv o args w) := by
  unfold handleMAIL
  refine ite_of (fun _ => moves_keep rfl rfl rfl) fun _ => ?_
  refine ite_of (fun _ => moves_keep rfl rfl rfl) fun _ => ?_
  refine ite_of (fun _ => moves_keep rfl rfl rfl) fun hsub => ?_
  refine ite_of (fun _ => moves_keep rfl rfl rfl) fun _ => ?_
  have hg : srv.submissionMode = true → w.s.authenticated = true := fun h => by simpa [h] using hsub
  split
  · exact moves_keep rfl rfl rfl
  rename_i rp _
  split
  · rename_i w' e h
    obtain ⟨-, rfl, he⟩ | ⟨-, -, h0⟩ := invoke_eq h
    · exact (moves_call (.mail rp) (by simp [Envelope.next, ← he]) nofun rfl fun _ _ => hg).keep (by simp)
        (by simp) (by simp)
    · nomatch h0
  · rename_i w' h
    obtain ⟨-, rfl, he⟩ | ⟨hb, rfl, -⟩ := invoke_eq h
    · exact ⟨[.mail rp], by simp, by simp [authNext], ⟨fun _ _ => hg, trivial⟩,
        fun _ => ⟨by simp [Session.envelope, Envelope.next, ← he], ⟨nofun, trivial⟩⟩⟩
    · exact moves_unseen (by simp) (by simp) fun hs => absurd hs.1 (by simp [hb])

theorem handleRCPT_moves : Moves srv o w (handleRCPT srv o args w) := by
  unfold handleRCPT
  refine ite_of (fun _ => moves_keep rfl rfl rfl) fun _ => ?_
  refine ite_of (fun _ => moves_keep rfl rfl rfl) fun _ => ?_
  refine ite_of (fun _ => moves_keep rfl rfl rfl) fun _ => ?_
  split
  · exact moves_keep rfl rfl rfl
  rename_i fp _
  split
  · rename_i w' e h
    obtain ⟨-, rfl, he⟩ | ⟨-, -, h0⟩ := invoke_eq h
    · exact (moves_call (.rcpt fp) (by simp [Envelope.next, ← he]) nofun rfl fun _ => nofun).keep (by simp)
        (by simp) (by simp)
    · nomatch h0
  · rename_i w' h
    obtain ⟨-, rfl, he⟩ | ⟨hb, rfl, -⟩ := invoke_eq h
    · exact ⟨[.rcpt fp], by simp, by simp [authNext], ⟨fun _ => nofun, trivial⟩,
        fun _ => ⟨by simp [Session.envelope, Envelope.next, ← he], ⟨nofun, trivial⟩⟩⟩
    · exact moves_unseen (by simp) (by simp) fun hs => absurd hs.2.1 (by simp [hb])

theorem handleDATA_moves : Moves srv o w (handleDATA srv o w) := by
  unfold handleDATA
  exact ite_of (fun _ => moves_keep rfl rfl rfl) fun _ =>
    finishMessage_moves _ ((moves_keep rfl rfl rfl).trans (moves_data ..))

theorem handleBDAT_moves : Moves srv o w (handleBDAT srv o args w).1 := by
  unfold handleBDAT
  refine ite_of_apply Prod.fst (fun _ => moves_keep rfl rfl rfl) fun _ => ?_
  split
  · exact moves_keep rfl rfl rfl
  split
  · exact moves_keep rfl rfl rfl
  refine ite_of_apply Prod.fst (fun _ => moves_keep rfl rfl rfl) fun _ => ?_
  refine ite_of_apply Prod.fst (fun _ => moves_keep rfl rfl rfl) fun _ => ?_
  refine ite_of_apply Prod.fst (fun _ => moves_keep rfl rfl rfl) fun _ => ?_
  exact ite_of_apply Prod.fst (fun _ => finishMessage_moves _ ((moves_keep rfl rfl rfl).trans (moves_data ..)))
    fun _ => moves_keep rfl rfl rfl

theorem handleRSET_moves : Moves srv o w (handleRSET srv w) :=
  moves_reset.keep (by simp [handleRSET]) (by simp [handleRSET, Session.envelope]) (by simp [handleRSET])

theorem handleVRFY_moves : Moves srv o w (handleVRFY srv o args w) := by
  unfold handleVRFY
  refine ite_of (fun _ => ?_) fun _ => moves_keep rfl rfl rfl
  split <;> exact (moves_call (.vrfy args) rfl nofun rfl fun _ => nofun).keep (by simp) (by simp) (by simp)

theorem handleSTARTTLS_moves : Moves srv o w (handleSTARTTLS srv o w) := by
  unfold handleSTARTTLS
  refine ite_of (fun _ => moves_keep rfl rfl rfl) fun _ => ?_
  refine ite_of (fun _ => moves_keep rfl rfl rfl) fun _ => ?_
  split
  · exact moves_keep rfl rfl rfl
  · exact ((moves_keep rfl rfl rfl).trans moves_reset).keep (by simp) (by simp [Session.envelope]) (by simp)

/-- `Authenticate`: the call, and the session authenticated when it returns `nil`. -/
theorem authenticate_moves (m u p : Bytes) : Moves srv o w (w.authenticate o m u p) := by
  unfold World.authenticate
  split <;> rename_i he <;>
    exact ⟨[.authenticate m u p], by simp, by simp [authNext, he], ⟨fun _ => nofun, trivial⟩,
      fun _ => ⟨by simp [Session.envelope, Envelope.next], ⟨nofun, trivial⟩⟩⟩

theorem authResponse_moves : Moves srv o w (respWorld w.authResponse) := by
  unfold World.authResponse
  split
  · exact moves_keep rfl rfl rfl
  refine ite_of_apply respWorld (fun _ => moves_keep rfl rfl rfl) fun _ => ?_
  split <;> exact moves_keep rfl rfl rfl

theorem plainResponse_moves (i : Bytes) : Moves srv o w (respWorld (plainResponse i w)) := by
  unfold plainResponse
  refine ite_of_apply respWorld (fun _ => ?_) fun _ => (moves_keep rfl rfl rfl).trans authResponse_moves
  split <;> exact moves_keep rfl rfl rfl

theorem authPLAIN_moves (i : Bytes) : Moves srv o w (authPLAIN o i w) :=
  Moves.bind (fun _ _ h => by
    split
    · exact h.trans (authenticate_moves ..)
    · exact h.keep rfl rfl rfl) (plainResponse_moves i)

theorem authLOGIN_moves : Moves srv o w (authLOGIN o w) :=
  Moves.bind (fun _ _ h => Moves.bind (fun _ _ h' => h'.trans (authenticate_moves ..))
    (h.trans ((moves_keep rfl rfl rfl).trans authResponse_moves))) ((moves_keep rfl rfl rfl).trans authResponse_moves)

theorem authCRAMMD5_moves : Moves srv o w (authCRAMMD5 srv o w) :=
  Moves.bind (fun _ _ h => by
    split
    · exact h.keep rfl rfl rfl
    · exact h.trans (authenticate_moves ..)) ((moves_keep rfl rfl rfl).trans authResponse_moves)

theorem handleAUTH_moves : Moves srv o w (handleAUTH srv o args w) := by
  unfold handleAUTH
  refine ite_of (fun _ => moves_keep rfl rfl rfl) fun _ => ?_
  refine ite_of (fun _ => moves_keep rfl rfl rfl) fun _ => ?_
  refine ite_of (fun _ => moves_keep rfl rfl rfl) fun _ => ?_
  refine ite_of (fun _ => moves_keep rfl rfl rfl) fun _ => ?_
  refine ite_of (fun _ => authPLAIN_moves _) fun _ => ?_
  refine ite_of (fun _ => authLOGIN_moves) fun _ => ?_
  exact ite_of (fun _ => authCRAMMD5_moves) fun _ => moves_keep rfl rfl rfl

theorem invalidCommand_moves (msg : Bytes) : Moves srv o w (w.invalidCommand srv msg).1 := by
  unfold World.invalidCommand
  dsimp only
  split <;> exact moves_keep rfl rfl rfl

/-! ## A turn, and a run -/

theorem dispatch_moves (verb : Bytes) : Moves srv o w (dispatch srv o verb args w).1 := by
  unfold dispatch
  split <;> try dsimp only
  · exact handleHello_moves true _
  · exact handleHello_moves false _
  · exact handleMAIL_moves
  · exact handleRCPT_moves
  · exact handleDATA_moves
  · exact handleRSET_moves
  · exact moves_keep rfl rfl rfl
  · exact moves_keep rfl rfl rfl
  · exact handleVRFY_moves
  · exact moves_keep rfl rfl rfl
  · exact handleSTARTTLS_moves
  · exact handleAUTH_moves
  · exact handleBDAT_moves
  · exact invalidCommand_moves _

theorem command_moves (line : Bytes) : Moves srv o w (command srv o line w).1 := by
  unfold command
  exact ite_of_apply Prod.fst (fun _ => invalidCommand_moves _) fun _ => dispatch_moves _

/-- Every turn of the command loop moves with its handler calls. -/
theorem step_moves : Moves srv o w (step srv o w).1 := by
  unfold step
  refine ite_of_apply Prod.fst (fun _ => moves_keep rfl rfl rfl) fun _ => ?_
  split
  · exact moves_keep rfl rfl rfl
  · exact (moves_keep rfl rfl rfl).trans (command_moves _)

end

/-- Every run of the command loop, from any session and with any outcomes, makes the calls of its log and moves with
them. -/
theorem run_logs (srv : Server) : ∀ (os : List Outcomes) (w : World), Logs srv w (run srv os w).1 (runLog srv os w)
  | [], w => ⟨by simp [run, runLog], by simp [run, runLog], trivial, fun _ => ⟨by simp [run, runLog], trivial⟩⟩
  | o :: os, w => by
    obtain ⟨cs, hl⟩ : Moves srv o w (step srv o w).1 := step_moves
    unfold run runLog
    generalize step srv o w = p at hl ⊢
    have hdrop : (p.1.calls.drop w.calls.length).map (·, o) = cs.map (·, o) := by simp [hl.1, Function.comp_def]
    rcases p with ⟨w', _ | _ | _⟩ <;> dsimp only at hl hdrop ⊢ <;> rw [hdrop]
    · exact hl.trans (run_logs srv os w')
    · exact hl
    · exact hl

end EnvelopeAux
end Smtp
