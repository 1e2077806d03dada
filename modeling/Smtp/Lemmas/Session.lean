import Smtp.Server.Transaction

/-!
# Helpers for the session: every command is a move of the transaction

The session's fields after each operation of `World` (`@[simp]`), then one lemma per handler saying which move of
`Trans` it makes, and `step_trans` for a whole turn of the command loop. Last, the one branch where a turn panics.
-/

namespace Smtp
namespace SessionAux

/-! ## The session's fields after each operation -/

@[simp] theorem reply_s (w : World) (c : Int) (e : EnhancedCode) (m : Bytes) : (w.reply c e m).s = w.s := rfl
@[simp] theorem replyMulti_s (w : World) (c : Int) (ls : List Bytes) : (w.replyMulti c ls).s = w.s := rfl
@[simp] theorem call_s (w : World) (c : Call) : (w.call c).s = w.s := rfl
@[simp] theorem setS_s (w : World) (f : Session → Session) : (w.setS f).s = f w.s := rfl

@[simp] theorem replyErr_s (w : World) (d : Int × EnhancedCode × Bytes) (e : HandlerErr) :
    (w.replyErr d e).s = w.s := by
  cases e <;> rfl

@[simp] theorem resetTransaction_s (srv : Server) (w : World) :
    (w.resetTransaction srv).s = { w.s with reversePath := {}, forwardPaths := [], bdatBuffer := [] } := by
  unfold World.resetTransaction; split <;> rfl

theorem invoke_s {w w' : World} {b : Bool} {c : Call} {e r : Option HandlerErr} (h : w.invoke b c e = (w', r)) :
    w'.s = w.s := by
  unfold World.invoke at h; split at h <;> cases h <;> rfl

theorem finishMessage_s (srv : Server) (w : World) (e : Option HandlerErr) :
    (finishMessage srv (w, e)).s =
      { w.s with reversePath := {}, forwardPaths := [], bdatBuffer := [], state := .greeted } := by
  cases e <;> simp [finishMessage]

/-! ## Chains of `if`s

The handlers are chains of `if`s. Stepping through one branch at a time with these is much cheaper than `split`, which
rewrites the whole rest of the chain at each step. -/

/-- What holds of each branch of an `if`, under its condition, holds of the `if`. -/
theorem ite_of {α : Type} {P : α → Prop} {c : Prop} [Decidable c] {a b : α} (ha : c → P a) (hb : ¬c → P b) :
    P (if c then a else b) := by
  split
  exacts [ha ‹_›, hb ‹_›]

/-- `ite_of` for a property of a part `f` of the result, such as the session of a `World`. -/
theorem ite_of_apply {α β : Type} (f : α → β) {P : β → Prop} {c : Prop} [Decidable c] {a b : α}
    (ha : c → P (f a)) (hb : ¬c → P (f b)) : P (f (if c then a else b)) := by
  rw [apply_ite f]
  exact ite_of ha hb

/-! ## Moves -/

theorem Trans.same {srv : Server} {s s' : Session} (h : s' = s) : Trans srv s s' := h ▸ .keep rfl rfl rfl rfl id

theorem Trans.finish (srv : Server) (s : Session) (p : World × Option HandlerErr) :
    Trans srv s (finishMessage srv p).s := by
  obtain ⟨w, e⟩ := p
  rw [finishMessage_s]; exact .clear (.inr rfl) rfl rfl rfl

theorem rank_greeted {st : SessionState} (h1 : ¬st.rank < SessionState.greeted.rank)
    (h2 : ¬st.rank ≥ SessionState.mail.rank) : st = .greeted := by
  cases st <;> simp_all [SessionState.rank]

theorem rank_mail_rcpt {st : SessionState} (h : ¬st.rank < SessionState.mail.rank) (hd : st ≠ .data) :
    st = .mail ∨ st = .rcpt := by
  cases st <;> simp_all [SessionState.rank]

theorem rank_le_greeted {st : SessionState} (h : ¬st.rank > SessionState.greeted.rank) :
    st = .new ∨ st = .greeted := by
  cases st <;> simp_all [SessionState.rank]

theorem rank_rcpt {st : SessionState} (h : ¬st.rank < SessionState.rcpt.rank) (hd : st ≠ .data) : st = .rcpt := by
  cases st <;> simp_all [SessionState.rank]

/-! ## Authentication only sets `authenticated` -/

/-- The session after an AUTH exchange: as it was, or authenticated. -/
def AuthStep (s s' : Session) : Prop := s' = s ∨ s' = { s with authenticated := true }

theorem AuthStep.trans {srv : Server} {s s' : Session} : AuthStep s s' → Trans srv s s'
  | .inl h => Trans.same h
  | .inr h => h ▸ .keep rfl rfl rfl rfl fun _ => rfl

/-- The session where an exchange returns, or goes on. -/
def respWorld : Except World (Bytes × World) → World
  | .error w => w
  | .ok p => p.2

theorem authResponse_s (w : World) : (respWorld w.authResponse).s = w.s := by
  unfold World.authResponse; split
  · rfl
  · split
    · rfl
    · split <;> rfl

theorem plainResponse_s (i : Bytes) (w : World) : (respWorld (plainResponse i w)).s = w.s := by
  unfold plainResponse; split
  · split <;> rfl
  · exact authResponse_s _

theorem authenticate_step (o : Outcomes) (w : World) (m u p : Bytes) : AuthStep w.s (w.authenticate o m u p).s := by
  unfold World.authenticate; split
  · exact .inl (by simp)
  · exact .inr (by simp)

/-- An exchange that goes on from `r`, whose session is `w`'s, ends in a step of `w`'s session. -/
theorem AuthStep.of_resp {w : World} {r : Except World (Bytes × World)} (hr : (respWorld r).s = w.s)
    (k : Bytes → World → World) (hk : ∀ d w', AuthStep w'.s (k d w').s) :
    AuthStep w.s (match r with | .error w' => w' | .ok (d, w') => k d w').s := by
  cases r with
  | error w' => exact .inl hr
  | ok p => obtain ⟨d, w'⟩ := p; exact hr ▸ hk d w'

section
variable (srv : Server) (o : Outcomes) (args : Bytes) (w : World)

theorem handleHello_trans (esmtp : Bool) (missing : Bytes) :
    Trans srv w.s (handleHello esmtp missing srv o args w).s := by
  unfold handleHello
  refine ite_of_apply World.s (fun _ => Trans.same (by simp)) fun _ => ?_
  split
  · exact Trans.same (by simp [invoke_s ‹_›])
  dsimp only
  split <;> exact .clear (.inr rfl) (by simp) (by simp) (by simp)

theorem handleMAIL_trans : Trans srv w.s (handleMAIL srv o args w).s := by
  unfold handleMAIL
  refine ite_of_apply World.s (fun _ => Trans.same (by simp)) fun h1 => ?_
  refine ite_of_apply World.s (fun _ => Trans.same (by simp)) fun h2 => ?_
  refine ite_of_apply World.s (fun _ => Trans.same (by simp)) fun ha => ?_
  refine ite_of_apply World.s (fun _ => Trans.same (by simp)) fun _ => ?_
  split
  · exact Trans.same (by simp)
  split
  · exact Trans.same (by simp [invoke_s ‹_›])
  simp only [reply_s, setS_s, invoke_s ‹_›]
  exact .mail (rank_greeted h1 h2) rfl rfl rfl (fun hs => Decidable.byContradiction fun hn => ha ⟨hs, hn⟩) rfl

theorem handleRCPT_trans (hd : w.s.state ≠ .data) : Trans srv w.s (handleRCPT srv o args w).s := by
  unfold handleRCPT
  refine ite_of_apply World.s (fun _ => Trans.same (by simp)) fun h1 => ?_
  refine ite_of_apply World.s (fun _ => Trans.same (by simp)) fun _ => ?_
  refine ite_of_apply World.s (fun _ => Trans.same (by simp)) fun _ => ?_
  split
  · exact Trans.same (by simp)
  split
  · exact Trans.same (by simp [invoke_s ‹_›])
  simp only [reply_s, setS_s, invoke_s ‹_›]
  have hst := rank_mail_rcpt h1 hd
  refine .rcpt _ hst ?_ rfl (by omega) rfl rfl
  rcases hst with h | h <;> simp [h, SessionState.rank]

theorem handleDATA_trans : Trans srv w.s (handleDATA srv o w).s := by
  unfold handleDATA
  exact ite_of_apply World.s (fun _ => Trans.same (by simp)) fun _ => Trans.finish _ _ _

theorem handleBDAT_trans (hd : w.s.state ≠ .data) : Trans srv w.s (handleBDAT srv o args w).1.s := by
  unfold handleBDAT
  have hs : ∀ {c : Prop} [Decidable c] {a b : World × Flow}, (c → Trans srv w.s a.1.s) → (¬c → Trans srv w.s b.1.s) →
      Trans srv w.s (if c then a else b).1.s := ite_of_apply fun p : World × Flow => p.1.s
  refine hs (fun _ => Trans.same (by simp)) fun h1 => ?_
  split
  · exact Trans.same (by simp)
  split
  · exact Trans.same (by simp)
  refine hs (fun _ => Trans.same (by simp)) fun _ => ?_
  refine hs (fun _ => Trans.same rfl) fun _ => ?_
  refine hs (fun _ => Trans.same rfl) fun _ => ?_
  refine hs (fun _ => Trans.finish _ _ _) fun _ => ?_
  have hr := rank_rcpt h1 hd
  exact .bdat _ hr (by simpa using hr) rfl rfl rfl

theorem handleRSET_trans : Trans srv w.s (handleRSET srv w).s := by
  unfold handleRSET
  simp only [reply_s, setS_s, resetTransaction_s]
  refine .clear ?_ rfl rfl rfl
  split
  · exact .inr rfl
  · exact rank_le_greeted ‹_›

theorem handleVRFY_s : (handleVRFY srv o args w).s = w.s := by
  unfold handleVRFY; split
  · split <;> simp
  · simp

theorem authPLAIN_step (i : Bytes) : AuthStep w.s (authPLAIN o i w).s :=
  AuthStep.of_resp (plainResponse_s i w) _ fun d w' => by
    split
    · exact authenticate_step ..
    · exact .inl (by simp)

theorem authLOGIN_step : AuthStep w.s (authLOGIN o w).s :=
  AuthStep.of_resp (by rw [authResponse_s]; simp) _ fun _ w' =>
    AuthStep.of_resp (by rw [authResponse_s]; simp) _ fun _ _ => authenticate_step ..

theorem authCRAMMD5_step : AuthStep w.s (authCRAMMD5 srv o w).s :=
  AuthStep.of_resp (by rw [authResponse_s]; simp) _ fun d w' => by
    split
    · exact .inl (by simp)
    · exact authenticate_step ..

theorem handleAUTH_trans : Trans srv w.s (handleAUTH srv o args w).s := by
  unfold handleAUTH
  refine ite_of_apply World.s (fun _ => Trans.same (by simp)) fun _ => ?_
  refine ite_of_apply World.s (fun _ => Trans.same (by simp)) fun _ => ?_
  refine ite_of_apply World.s (fun _ => Trans.same (by simp)) fun _ => ?_
  refine ite_of_apply World.s (fun _ => Trans.same (by simp)) fun _ => ?_
  refine ite_of_apply World.s (fun _ => (authPLAIN_step ..).trans) fun _ => ?_
  refine ite_of_apply World.s (fun _ => (authLOGIN_step ..).trans) fun _ => ?_
  exact ite_of_apply World.s (fun _ => (authCRAMMD5_step ..).trans) fun _ => Trans.same (by simp)

theorem handleSTARTTLS_trans : Trans srv w.s (handleSTARTTLS srv o w).s := by
  unfold handleSTARTTLS
  refine ite_of_apply World.s (fun _ => Trans.same (by simp)) fun _ => ?_
  refine ite_of_apply World.s (fun _ => Trans.same (by simp)) fun _ => ?_
  split
  · exact Trans.same (by simp)
  · exact .clear (.inl rfl) (by simp) (by simp) (by simp)

theorem invalidCommand_trans (msg : Bytes) : Trans srv w.s (w.invalidCommand srv msg).1.s := by
  have h : (w.invalidCommand srv msg).1.s = { w.s with invalidCmds := w.s.invalidCmds + 1 } := by
    unfold World.invalidCommand; dsimp only; split <;> simp
  exact h ▸ .keep rfl rfl rfl rfl id

theorem dispatch_trans (verb : Bytes) (hd : w.s.state ≠ .data) : Trans srv w.s (dispatch srv o verb args w).1.s := by
  unfold dispatch
  split <;> try dsimp only
  · exact handleHello_trans srv o args w _ _
  · exact handleHello_trans srv o args w _ _
  · exact handleMAIL_trans srv o args w
  · exact handleRCPT_trans srv o args w hd
  · exact handleDATA_trans srv o w
  · exact handleRSET_trans srv w
  · exact Trans.same (by simp [handleNOOP])
  · exact Trans.same (by simp [handleQUIT])
  · exact Trans.same (handleVRFY_s srv o args w)
  · exact Trans.same (by simp)
  · exact handleSTARTTLS_trans srv o w
  · exact handleAUTH_trans srv o args w
  · exact handleBDAT_trans srv o args w hd
  · exact invalidCommand_trans srv w _

theorem command_trans (line : Bytes) (hd : w.s.state ≠ .data) : Trans srv w.s (command srv o line w).1.s := by
  unfold command
  split
  · exact invalidCommand_trans srv w _
  · exact dispatch_trans srv o _ w _ hd

end

/-- A whole turn of the command loop is a move of the transaction. -/
theorem step_trans (srv : Server) (o : Outcomes) (w : World) (hd : w.s.state ≠ .data) :
    Trans srv w.s (step srv o w).1.s := by
  unfold step
  split
  · exact Trans.same rfl
  split
  · exact Trans.same rfl
  next line r _ => exact command_trans srv o { w with r := r } line hd

theorem newSession_inv (srv : Server) : Inv srv newSession := by
  constructor <;> simp [newSession]

theorem greet_s (srv : Server) (oc : Option HandlerErr) (r : BufReader) :
    (greet srv oc r).1.s = newSession := by
  unfold greet; split <;> rfl

end SessionAux
end Smtp
