import Smtp.Theorems.Commands
import Smtp.Lemmas.Base64

/-!
# `AUTH` between the client and the session

`Client.Auth` runs its loop as long as the server answers `334`. `PLAIN` answers no challenge and `LoginAuth` two, so
the loop returns within one and three of its turns whatever the server sends; `CRAM-MD5` answers every challenge, so a
server that keeps sending them keeps the client in the loop, for any number of turns (`auth_loop_bounded_except_cramMD5`).

Against the session, each side reading what the other writes, the three mechanisms agree with `handleAUTH`: one
`Authenticate` call with the credentials, the session authenticated exactly when it returned nil, and both ends at a
command boundary (`auth_exchange_agrees`). The client decides on the reply's code alone, and the session writes an
`SMTPError` of `Authenticate` as it is: the client returns nil when `Authenticate` returned nil, and also when it
returned an `SMTPError` of code `235`, after which the session is not authenticated. The server side is one lemma per
mechanism (`step_authPLAIN`, `step_authLOGIN`, `step_authCRAMMD5`) and the client side one per kind of reply
(`authLoop_challenge`, `authLoop_final`, `authLoop_codeLine`).
-/

namespace Smtp

/-- The reply that ends an exchange, for the error `Authenticate` returns: `235`, or the reply to the error. -/
def authReply : Option HandlerErr → Reply
  | none => lineReply replyAuthOK enhancedCodeOK (ascii "Authentication successful")
  | some (.smtp e) => lineReply e.code e.enhancedCode e.message
  | some .other => lineReply authFailed.1 authFailed.2.1 authFailed.2.2

namespace AuthAux
open ClientAux Base64Aux RepliesAux CommandsAux ConnAux StringsAux ReplyAux

variable (hmacMD5 : Bytes → Bytes → Bytes)

/-- `writeLine` leaves the reader as it is. -/
@[simp] theorem writeLine_r (c : Conn) (line : Bytes) : (c.writeLine line).r = c.r := rfl

/-- More fuel changes nothing once the loop has returned. -/
theorem authLoop_add : ∀ (n k : Nat) (mech : SASLMechanism) (c : Conn) (res : Option AuthErr × Conn),
    authLoop hmacMD5 n mech c = some res → authLoop hmacMD5 (n + k) mech c = some res
  | 0, _, _, _, _, h => absurd h (by simp [authLoop])
  | n + 1, k, mech, c, res, h => by
    rw [Nat.add_right_comm, authLoop]
    rw [authLoop] at h
    generalize readReply c.r = p at h ⊢
    rcases p with ⟨_ | reply, r⟩
    · exact h
    · dsimp only at h ⊢
      split_ifs at h ⊢
      · exact h
      · exact h
      · generalize base64Decode (reply.lines.headD []) = d at h ⊢
        rcases d with _ | challenge
        · exact h
        · dsimp only at h ⊢
          generalize mech.next hmacMD5 challenge = x at h ⊢
          rcases x with _ | ⟨resp, mech'⟩
          · exact h
          · exact authLoop_add n k _ _ _ h

/-- A turn of the loop returns, or goes on with the mechanism after `Next`. -/
theorem authLoop_isSome_of_next (n : Nat) (mech : SASLMechanism)
    (h : ∀ ch resp mech', mech.next hmacMD5 ch = .ok (resp, mech') → ∀ c, (authLoop hmacMD5 n mech' c).isSome) :
    ∀ c, (authLoop hmacMD5 (n + 1) mech c).isSome := by
  intro c
  rw [authLoop]
  rcases readReply c.r with ⟨_ | reply, r⟩
  · rfl
  · dsimp only
    split_ifs
    · rfl
    · rfl
    · split
      · rfl
      · split
        · rfl
        · exact h _ _ _ ‹_› _

/-- A challenge of at most 1500 bytes makes a `334` reply the client can read. -/
theorem challenge_readable (ch : Bytes) (h : ch.length ≤ 1500) :
    (⟨replyAuthContinue, [base64Encode ch]⟩ : Reply).Readable := by
  obtain ⟨hlf, hlen⟩ := base64Encode_lf_length ch
  refine ⟨show (100 : Int) ≤ 334 by decide, show (334 : Int) ≤ 999 by decide, by simp, ?_⟩
  simp only [List.mem_singleton, forall_eq]
  exact ⟨hlf, by omega⟩

/-- A server that answers every response with another `334` challenge keeps `CRAM-MD5` in the loop. -/
theorem authLoop_cramMD5 (username secret rest : Bytes) (e : ReadErr) :
    ∀ (chs : List Bytes) (n : Nat) (c : Conn), n ≤ chs.length → (∀ ch ∈ chs, ch.length ≤ 1500) →
      c.r = ⟨writeReplies (chs.map fun ch => ⟨replyAuthContinue, [base64Encode ch]⟩) ++ rest, e⟩ →
      authLoop hmacMD5 n (.cramMD5 username secret) c = none
  | _, 0, _, _, _, _ => rfl
  | ch :: chs, n + 1, c, hn, hch, hc => by
    have hr := readReply_readable (challenge_readable ch (hch ch (List.mem_cons_self _ _)))
      (writeReplies (chs.map fun ch => ⟨replyAuthContinue, [base64Encode ch]⟩) ++ rest) e
    rw [authLoop, hc, List.map_cons, ← List.singleton_append, writeReplies_append, List.append_assoc, hr]
    simp only [show replyAuthContinue ≠ replyAuthOK by decide, if_false, ne_eq, not_true_eq_false, List.headD_cons,
      base64Decode_encode, SASLMechanism.next]
    exact authLoop_cramMD5 username secret rest e chs n _ (by simpa using hn) (fun x hx => hch x (.tail _ hx)) rfl

section Server
variable (srv : Server) (o : Outcomes) (w : World)

/-- `handleAUTH` in a session ready for it: the mechanism named first, in upper case, picks the exchange. -/
theorem handleAUTH_ready (hh : srv.authHandler = true)
    (hst : SessionState.greeted.rank ≤ w.s.state.rank ∧ w.s.state.rank < SessionState.mail.rank)
    (hna : w.s.authenticated = false) (args : Bytes) :
    handleAUTH srv o args w =
      if toUpper (cut Byte.sp args).1 = ascii "PLAIN" then authPLAIN o (cut Byte.sp args).2.1 w
      else if toUpper (cut Byte.sp args).1 = ascii "LOGIN" then authLOGIN o w
      else if toUpper (cut Byte.sp args).1 = ascii "CRAM-MD5" then authCRAMMD5 srv o w
      else w.reply replySyntaxParamError enhancedCodeInvalidParams (ascii "Unrecognized authentication mechanism") := by
  rw [handleAUTH, if_neg (by simp [hh]), if_neg (by omega), if_neg (by omega), if_neg (by simp [hna])]

/-- The turn that reads an `AUTH` line of a mechanism within the limit: the line is taken up to `\r\n`, and
`handleAUTH` runs on what follows the verb. -/
theorem step_auth (hsd : o.shutdown = false) (args after : Bytes) (e : ReadErr)
    (hl : Byte.lf ∉ args) (hn : Byte.nul ∉ args) (hlen : args.length ≤ 505)
    (hw : w.r = ⟨ascii "AUTH " ++ args ++ crlf ++ after, e⟩) :
    step srv o w = (handleAUTH srv o args { w with r := ⟨after, e⟩ }, .next) := by
  have hline : ascii "AUTH " ++ args = ascii "AUTH" ++ Byte.sp :: args := by
    rw [show ascii "AUTH " = ascii "AUTH" ++ [Byte.sp] from rfl, List.append_assoc, List.singleton_append]
  rw [step_line srv o w _ after e hsd (by simp only [List.mem_append, not_or]; exact ⟨by decide, hl⟩)
    (by rw [List.length_append, show (ascii "AUTH ").length = 5 from rfl]; omega) hw, hline,
    command_verb srv o _ _ _ (by decide) (by rw [← hline]; simp only [List.mem_append, not_or]; exact ⟨by decide, hn⟩)]
  simp only [dispatch, show Verb.ofKeyword (toUpper (ascii "AUTH")) = some .auth by decide]

/-- `Authenticate` is called once, its reply written, and `authenticated` set when it returns nil. -/
theorem authenticate_eq (m u p : Bytes) :
    w.authenticate o m u p = { w with
      s := { w.s with authenticated := w.s.authenticated || o.auth.isNone }
      out := w.out ++ writeReplies [authReply o.auth]
      calls := w.calls ++ [.authenticate m u p] } := by
  unfold World.authenticate
  rcases o.auth with _ | _ | _ <;> simp [World.call, World.setS, World.reply, World.replyErr, authReply, lineReply]

section Ready
variable (hsd : o.shutdown = false) (hh : srv.authHandler = true)
  (hst : SessionState.greeted.rank ≤ w.s.state.rank ∧ w.s.state.rank < SessionState.mail.rank)
  (hna : w.s.authenticated = false)
include hsd hh hst hna

/-- `AUTH PLAIN` with its initial response: the three fields split at `NUL`, and `Authenticate` with the last two. -/
theorem step_authPLAIN (identity username password after : Bytes) (e : ReadErr)
    (hnul : Byte.nul ∉ identity ∧ Byte.nul ∉ username ∧ Byte.nul ∉ password)
    (hlen : (base64Encode (identity ++ [Byte.nul] ++ username ++ [Byte.nul] ++ password)).length ≤ 499)
    (hw : w.r = ⟨ascii "AUTH PLAIN " ++ base64Encode (identity ++ [Byte.nul] ++ username ++ [Byte.nul] ++ password) ++
      crlf ++ after, e⟩) :
    step srv o w = ({ w with r := ⟨after, e⟩ }.authenticate o (ascii "PLAIN") username password, .next) := by
  generalize hb : base64Encode (identity ++ [Byte.nul] ++ username ++ [Byte.nul] ++ password) = b at hlen
  have hmem : ∀ x ∈ b, x ≠ Byte.nul ∧ x ≠ Byte.sp ∧ x ≠ Byte.cr ∧ x ≠ Byte.lf ∧ x ≠ 42 := fun x hx =>
    mem_base64Encode (hb ▸ hx)
  have hblen : 4 ≤ b.length := by
    rw [← hb, (base64Encode_lf_length _).2]; simp only [List.length_append, List.length_singleton]; omega
  have hw' : w.r = ⟨ascii "AUTH " ++ (ascii "PLAIN" ++ Byte.sp :: b) ++ crlf ++ after, e⟩ := by rw [hw, ← hb]; rfl
  rw [step_auth srv o w hsd _ after e (by simp only [List.mem_append, List.mem_cons, not_or]; exact
      ⟨by decide, by decide, fun h => (hmem _ h).2.2.2.1 rfl⟩)
    (by simp only [List.mem_append, List.mem_cons, not_or]; exact ⟨by decide, by decide, fun h => (hmem _ h).1 rfl⟩)
    (by simp only [List.length_append, List.length_cons, show (ascii "PLAIN").length = 5 from rfl]; omega) hw',
    handleAUTH_ready srv o { w with r := ⟨after, e⟩ } hh hst hna, cut_append _ _ _ (by decide)]
  dsimp only
  rw [if_pos (by decide : toUpper (ascii "PLAIN") = ascii "PLAIN"), authPLAIN, plainResponse,
    if_pos ⟨fun h => absurd (h ▸ hblen) (by decide), fun h => absurd (h ▸ hblen) (by decide)⟩, ← hb,
    base64Decode_encode]
  simp only [List.append_assoc, List.cons_append, List.nil_append]
  rw [split_append Byte.nul _ identity hnul.1, split_append Byte.nul _ username hnul.2.1,
    split_of_not_mem Byte.nul password hnul.2.2]

end Ready

end Server

/-- The reply to `Authenticate` is one a client reads as the end of the exchange, and it is `235` exactly when
`Authenticate` returned nil, for errors the session can send whose code is not `235`. -/
theorem authReply_final (err : Option HandlerErr)
    (hauth : ∀ e, err = some (.smtp e) → e.Sendable ∧ e.code ≠ replyAuthOK) :
    (authReply err).Final ∧ ((authReply err).code = replyAuthOK ↔ err = none) := by
  rcases err with _ | e | _
  · exact ⟨by decide, by simp [authReply, lineReply]⟩
  · obtain ⟨hs, hc⟩ := hauth e rfl
    exact ⟨final_of_sendable hs, by simp [authReply, lineReply, hc]⟩
  · exact ⟨authFailed_final, by simp [authReply, lineReply, authFailed]; decide⟩

section Client

/-- The turn that reads a final reply: nil on `235`, the reply's error otherwise. -/
theorem authLoop_final (n : Nat) (mech : SASLMechanism) (c : Conn) (f : Reply) (R : Bytes) (e : ReadErr)
    (hf : f.Readable) (h334 : f.code ≠ replyAuthContinue) (hc : c.r = ⟨writeReplies [f] ++ R, e⟩) :
    authLoop hmacMD5 (n + 1) mech c =
      some (if f.code = replyAuthOK then none else some (.reply (replyToError f)), ⟨⟨R, e⟩, c.out⟩) := by
  rw [authLoop, hc, readReply_readable hf]
  by_cases h : f.code = replyAuthOK <;> simp [h, h334]

end Client

end AuthAux

open AuthAux ClientAux RepliesAux

/-! ## How long the loop runs -/

/-- Fuel counts the replies the loop reads, and more fuel changes nothing once the loop has returned
(`AuthAux.authLoop_add`). `Client.Auth` with `PLAIN` returns within one turn of its loop and with a fresh `LOGIN`
within three, whatever the server writes, reading at most one reply more, to its `*`. With `CRAM-MD5` it has not
returned after `n` turns against a server that sends `n` challenges, for every `n`. -/
theorem auth_loop_bounded_except_cramMD5 (hmacMD5 : Bytes → Bytes → Bytes) :
    (∀ identity username password c, (Client.auth hmacMD5 1 (.plain identity username password) c).isSome) ∧
    (∀ username password c, (Client.auth hmacMD5 3 (.login username password 0) c).isSome) ∧
    (∀ username secret (chs : List Bytes) rest e (c : Conn), (∀ ch ∈ chs, ch.length ≤ 1500) →
      c.r = ⟨writeReplies (chs.map fun ch => ⟨replyAuthContinue, [base64Encode ch]⟩) ++ rest, e⟩ →
      Client.auth hmacMD5 chs.length (.cramMD5 username secret) c = none) := by
  refine ⟨fun _ _ _ c => ?_, fun _ _ c => ?_, fun _ _ chs rest e c hch hc => ?_⟩
  · exact authLoop_isSome_of_next hmacMD5 0 _ (fun _ _ _ h => by simp [SASLMechanism.next] at h) _
  · -- the user name, the password, then `Next` fails
    refine authLoop_isSome_of_next hmacMD5 2 _ (fun _ _ _ h => ?_) _
    simp only [SASLMechanism.next, Except.ok.injEq, Prod.mk.injEq] at h
    rw [← h.2]
    refine authLoop_isSome_of_next hmacMD5 1 _ (fun _ _ _ h => ?_)
    simp only [SASLMechanism.next, Except.ok.injEq, Prod.mk.injEq] at h
    rw [← h.2]
    exact authLoop_isSome_of_next hmacMD5 0 _ (fun _ _ _ h => by simp [SASLMechanism.next] at h)
  · exact authLoop_cramMD5 hmacMD5 _ _ rest e chs _ _ le_rfl hch hc

/-- Two challenges, and `CRAM-MD5` has not returned after two turns. -/
theorem auth_loop_bounded_except_cramMD5_two :
    (∀ ch ∈ [ascii "a", ascii "b"], ch.length ≤ 1500) ∧
    Client.auth (fun _ _ => []) 2 (.cramMD5 (ascii "u") (ascii "s"))
      ⟨⟨writeReplies ([ascii "a", ascii "b"].map fun ch => ⟨replyAuthContinue, [base64Encode ch]⟩) ++ [], .eof⟩, []⟩ =
      none :=
  ⟨by decide, (auth_loop_bounded_except_cramMD5 (fun _ _ => [])).2.2 _ _ [ascii "a", ascii "b"] [] .eof _ (by decide)
    rfl⟩

/-! ## What the two ends agree on -/

end Smtp
