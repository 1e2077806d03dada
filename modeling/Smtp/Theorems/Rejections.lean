import Smtp.Theorems.Address

/-!
# Handler rejections as the client sees them

When `OnHelo`, `OnMail`, `OnRcpt` or `OnData` returns an `SMTPError`, the session writes it with `session.reply`:
the code, then the enhanced code unless it is zero, then the message. `Client.Mail`, `Client.Rcpt`, `ehlo` (the `EHLO`
of `Dial`) and `Client.Data` read that reply and, when its code is not `250`, turn it back into an `SMTPError` with
`replyToError`. It is the handler's error again when the reply reads back as it was written (`SMTPError.ReadsBack`). That
needs a code of three digits and one line within the client's limit. It also needs an enhanced code that
`ParseEnhancedCode` finds again: either none, and then the message must hold no code it would find, or one of class 2
to 5 (`handler_errors_reach_client`). `ehlo` answered `500` or `502` falls back to `HELO`, and returns the error of
that second reply.

A handler error with code `250` is taken by the client as success, and a message `2.0.0` behind no enhanced code comes
back as the enhanced code `2.0.0` with an empty message (`handler_error_codes_misread`).
-/

namespace Smtp

/-- The reply `session.reply` writes for an `SMTPError` that a handler returns. -/
def errorReply (e : SMTPError) : Reply := lineReply e.code e.enhancedCode e.message

/-- An `SMTPError` whose reply `ReadReply` and `replyToError` turn back into it: a code of three digits, a message of
one line within the client's limit, and an enhanced code that is zero, with a message in which `ParseEnhancedCode`
finds none, or of class 2 to 5 with a subject and a detail that are Go `int`s. -/
structure SMTPError.ReadsBack (e : SMTPError) : Prop where
  code : 100 ≤ e.code ∧ e.code ≤ 999
  message : Byte.lf ∉ e.message
  length : (enhancedText e.enhancedCode e.message).length ≤ 2042
  enhanced : e.enhancedCode = .zero ∧ (parseEnhancedCode e.message).1.cls = 0 ∨
    (2 ≤ e.enhancedCode.cls ∧ e.enhancedCode.cls ≤ 5) ∧
    (-9223372036854775808 ≤ e.enhancedCode.subject ∧ e.enhancedCode.subject < 9223372036854775808) ∧
    (-9223372036854775808 ≤ e.enhancedCode.detail ∧ e.enhancedCode.detail < 9223372036854775808)

namespace RejectionsAux
open ConnAux StringsAux ClientAux ReplyAux RepliesAux CommandsAux AddressAux

variable {e : SMTPError}

/-! ## The reply reads back as the error -/

@[simp] theorem errorReply_code (e : SMTPError) : (errorReply e).code = e.code := rfl

theorem errorReply_readable (he : e.ReadsBack) : (errorReply e).Readable := by
  refine ⟨he.code.1, he.code.2, List.cons_ne_nil _ _, ?_⟩
  simp only [errorReply, lineReply, List.mem_singleton, forall_eq]
  exact ⟨lf_not_mem_enhancedText _ _ he.message, he.length⟩

theorem replyToError_errorReply (he : e.ReadsBack) : replyToError (errorReply e) = e := by
  obtain ⟨code, ec, msg⟩ := e
  rcases he.enhanced with ⟨hz, hp⟩ | ⟨h25, hs, hd⟩
  · dsimp only at hz hp
    subst hz
    simp [replyToError, errorReply, lineReply, enhancedText, EnhancedCode.isZero, EnhancedCode.zero, hp, join,
      List.intercalate]
  · dsimp only at h25 hs hd
    have hnz : ec.isZero = false := by simp [EnhancedCode.isZero]; omega
    have hcls : ec.cls ≠ 0 := by omega
    simp only [replyToError, errorReply, lineReply, enhancedText, hnz, Bool.false_eq_true, if_false,
      List.append_assoc, List.singleton_append, parseEnhancedCode_string ec msg h25 hs hd, if_pos hcls, if_true]

/-- A reader at the reply of an error that reads back reads that reply, and leaves what follows. -/
theorem readReply_errorReply (he : e.ReadsBack) (r : BufReader) (later : Bytes)
    (hr : r.bytes = writeReplies [errorReply e] ++ later) : readReply r = (.ok (errorReply e), ⟨later, r.err⟩) := by
  rw [show r = ⟨writeReplies [errorReply e] ++ later, r.err⟩ by rw [← hr], readReply_readable (errorReply_readable he)]

/-! ## The session's reply -/

section Server
variable (srv : Server) (o : Outcomes) (err : SMTPError)

/-- When `handleMAIL` calls `OnMail` and it returns an `SMTPError`, the session writes that error's reply. -/
theorem handleMAIL_rejected (args : Bytes) (w : World) (rp : ReversePath)
    (hcall : (handleMAIL srv o args w).calls = w.calls ++ [.mail rp]) (ho : o.mail = some (.smtp err)) :
    (handleMAIL srv o args w).out = w.out ++ writeReplies [errorReply err] := by
  obtain ⟨⟨h1, h2, h3, h4⟩, hmh, hp⟩ := (handleMAIL_calls srv o args w rp).1 hcall
  rw [handleMAIL, if_neg (not_lt.2 h1), if_neg (not_le.2 h2), if_neg h3, if_neg (not_not.2 h4), hp]
  simp [World.invoke, hmh, ho, World.replyErr, World.reply, World.call, writeReplies, errorReply, lineReply]

/-- When `handleRCPT` calls `OnRcpt` and it returns an `SMTPError`, the session writes that error's reply. -/
theorem handleRCPT_rejected (args : Bytes) (w : World) (fp : ForwardPath)
    (hcall : (handleRCPT srv o args w).calls = w.calls ++ [.rcpt fp]) (ho : o.rcpt = some (.smtp err)) :
    (handleRCPT srv o args w).out = w.out ++ writeReplies [errorReply err] := by
  obtain ⟨⟨h1, h2, h3⟩, hrh, hp⟩ := (handleRCPT_calls srv o args w fp).1 hcall
  rw [handleRCPT, if_neg (not_lt.2 h1), if_neg (Int.not_le.2 h2), if_neg (not_not.2 h3), hp]
  simp [World.invoke, hrh, ho, World.replyErr, World.reply, World.call, writeReplies, errorReply, lineReply]

/-- With `OnHelo` returning an error, `handleEHLO` and `handleHELO` call it exactly when it is set and the name is not
empty, and then write the error's reply and change nothing else. -/
theorem handleHello_rejected (esmtp : Bool) (missing args : Bytes) (w : World) (ho : o.helo = some (.smtp err)) :
    (handleHello esmtp missing srv o args w).calls = w.calls ++ [.helo args] ↔
      args ≠ [] ∧ srv.heloHandler = true := by
  unfold handleHello
  by_cases h : args = []
  · simp [World.reply, h]
  · rw [if_neg h]
    cases hb : srv.heloHandler
    · cases hr : srv.resetHandler <;> cases esmtp <;>
        simp [World.invoke, hb, hr, World.resetTransaction, World.setS, World.replyMulti, World.reply, World.call]
    · simp [World.invoke, hb, ho, World.replyErr, World.reply, World.call, h]

theorem handleHello_out (esmtp : Bool) (missing args : Bytes) (w : World) (ho : o.helo = some (.smtp err))
    (hargs : args ≠ []) (hset : srv.heloHandler = true) :
    handleHello esmtp missing srv o args w =
      { w with calls := w.calls ++ [.helo args], out := w.out ++ writeReplies [errorReply err] } := by
  simp [handleHello, hargs, World.invoke, hset, ho, World.replyErr, World.reply, World.call, writeReplies, errorReply,
    lineReply]

/-- The turn over an `EHLO` or `HELO` line runs the handler of that verb on the name. -/
theorem step_hello (kw : Bytes) (hkw : kw = ascii "EHLO" ∨ kw = ascii "HELO") (w : World) (localName after : Bytes)
    (e : ReadErr) (hsd : o.shutdown = false) (hl : Byte.lf ∉ localName) (hn : Byte.nul ∉ localName)
    (hlen : localName.length ≤ 505) (hw : w.r = ⟨kw ++ Byte.sp :: localName ++ crlf ++ after, e⟩) :
    step srv o w = dispatch srv o (toUpper kw) localName { w with r := ⟨after, e⟩ } := by
  have hk : Byte.sp ∉ kw ∧ Byte.lf ∉ kw ∧ Byte.nul ∉ kw ∧ kw.length = 4 := by rcases hkw with rfl | rfl <;> decide
  refine step_verb srv o w kw localName after e hsd hk.1 ?_ ?_ ?_ hw
  · simp only [List.mem_append, List.mem_cons, not_or]; exact ⟨hk.2.1, by decide, hl⟩
  · simp only [List.mem_append, List.mem_cons, not_or]; exact ⟨hk.2.2.1, by decide, hn⟩
  · simp only [List.length_append, List.length_cons, hk.2.2.2]; omega

theorem step_ehlo (w : World) (localName after : Bytes) (e : ReadErr) (hsd : o.shutdown = false)
    (hl : Byte.lf ∉ localName) (hn : Byte.nul ∉ localName) (hlen : localName.length ≤ 505)
    (hw : w.r = ⟨ascii "EHLO " ++ localName ++ crlf ++ after, e⟩) :
    step srv o w = (handleEHLO srv o localName { w with r := ⟨after, e⟩ }, .next) :=
  step_hello srv o (ascii "EHLO") (.inl rfl) w localName after e hsd hl hn hlen hw

theorem step_helo (w : World) (localName after : Bytes) (e : ReadErr) (hsd : o.shutdown = false)
    (hl : Byte.lf ∉ localName) (hn : Byte.nul ∉ localName) (hlen : localName.length ≤ 505)
    (hw : w.r = ⟨ascii "HELO " ++ localName ++ crlf ++ after, e⟩) :
    step srv o w = (handleHELO srv o localName { w with r := ⟨after, e⟩ }, .next) :=
  step_hello srv o (ascii "HELO") (.inr rfl) w localName after e hsd hl hn hlen hw

end Server

/-! ## The client's result -/

section Client
variable {err : SMTPError} (he : err.ReadsBack) (hok : err.code ≠ replyOK)
include he hok

/-- `Client.Mail` against the reply of an error that reads back returns that error. -/
theorem mail_rejected (a : Bytes) (opts : List MailOption) (c : Conn) (later : Bytes)
    (hc : c.r.bytes = writeReplies [errorReply err] ++ later) : (Client.mail a opts c).1 = some (.reply err) := by
  simp only [Client.mail, Conn.writeLine, readReply_errorReply he _ later hc, errorReply_code, ne_eq, hok,
    not_false_eq_true, if_true, replyToError_errorReply he]

theorem rcpt_rejected (a : Bytes) (opts : List RcptOption) (c : Conn) (later : Bytes)
    (hc : c.r.bytes = writeReplies [errorReply err] ++ later) : (Client.rcpt a opts c).1 = some (.reply err) := by
  simp only [Client.rcpt, Conn.writeLine, readReply_errorReply he _ later hc, errorReply_code, ne_eq, hok,
    not_false_eq_true, if_true, replyToError_errorReply he]

/-- `ehlo` against an error other than `500` and `502` returns it. -/
theorem ehlo_rejected (localName : Bytes) (c : Conn) (later : Bytes)
    (hfb : err.code ≠ replySyntaxError ∧ err.code ≠ replyCommandNotImpl)
    (hc : c.r.bytes = writeReplies [errorReply err] ++ later) :
    (Client.ehlo localName c).1 = .error (.reply err) := by
  rw [Client.ehlo, cmd_eq, readReply_errorReply he _ later hc]
  simp only [errorReply_code, hok, hfb, or_self, if_false, replyToError_errorReply he]

/-- `ehlo` against `500` or `502` falls back to `HELO`, and returns the error of its reply. -/
theorem ehlo_rejected_fallback (localName : Bytes) (c : Conn) (later : Bytes)
    (hfb : err.code = replySyntaxError ∨ err.code = replyCommandNotImpl)
    (hc : c.r.bytes = writeReplies [errorReply err, errorReply err] ++ later) :
    (Client.ehlo localName c).1 = .error (.reply err) := by
  rw [show [errorReply err, errorReply err] = [errorReply err] ++ [errorReply err] from rfl, writeReplies_append,
    List.append_assoc] at hc
  rw [Client.ehlo, cmd_eq, readReply_errorReply he _ _ hc]
  dsimp only
  rw [if_neg (by simpa using hok), if_pos (by simpa using hfb), cmd_eq, readReply_errorReply he ⟨_, c.r.err⟩ later rfl]
  simp only [errorReply_code, hok, if_true, ne_eq, not_false_eq_true, replyToError_errorReply he]

/-- `Client.Data` against `354` and the reply of an error that reads back returns that error. -/
theorem data_rejected (ps : List Bytes) (c : Conn) (later : Bytes)
    (hc : c.r.bytes = writeReplies [startReply, errorReply err] ++ later) :
    (Client.data ⟨ps, false⟩ c).1 = some (.reply err) := by
  rw [data_client ⟨ps, false⟩ c _ later (errorReply_readable he) hc]
  simp only [Bool.false_eq_true, if_false, errorReply_code, ne_eq, hok, not_false_eq_true, if_true,
    replyToError_errorReply he]

end Client

end RejectionsAux

open RejectionsAux AddressAux ClientAux

/-! ## Each call against the session's turn -/

/-- Take an `SMTPError` `err` that reads back and whose code is not `250`. Whenever a turn over the line the client
writes calls `OnMail` or `OnRcpt` and the handler returns `err`, the turn writes its reply, and `Client.Mail` or
`Client.Rcpt` reading that reply returns `err`. The same holds for `OnHelo` over the `EHLO` of `ehlo` when the code is
not `500` or `502`. With `500` or `502`, `ehlo` writes `HELO`, and when `OnHelo` returns `err` again, `ehlo` returns
`err`. The same holds for `OnData` over the body of `Client.Data`. -/
theorem handler_errors_reach_client (srv : Server) (err : SMTPError) (he : err.ReadsBack) (hok : err.code ≠ replyOK) :
    (∀ (o : Outcomes) (w : World) (a : Bytes) (opts : List MailOption) (rp : ReversePath) (after : Bytes)
        (e : ReadErr) (c : Conn) (later : Bytes),
      let line := ascii "MAIL FROM:<" ++ a ++ ascii ">" ++ mailParams (.ofList opts)
      o.shutdown = false → Byte.lf ∉ line → Byte.nul ∉ line → line.length ≤ 510 → w.r = ⟨line ++ crlf ++ after, e⟩ →
      o.mail = some (.smtp err) → (step srv o w).1.calls = w.calls ++ [.mail rp] →
      c.r.bytes = writeReplies [errorReply err] ++ later →
      (step srv o w).1.out = w.out ++ writeReplies [errorReply err] ∧ (Client.mail a opts c).1 = some (.reply err)) ∧
    (∀ (o : Outcomes) (w : World) (a : Bytes) (opts : List RcptOption) (fp : ForwardPath) (after : Bytes)
        (e : ReadErr) (c : Conn) (later : Bytes),
      let line := ascii "RCPT TO:<" ++ a ++ ascii ">" ++ rcptParams (.ofList opts)
      o.shutdown = false → Byte.lf ∉ line → Byte.nul ∉ line → line.length ≤ 510 → w.r = ⟨line ++ crlf ++ after, e⟩ →
      o.rcpt = some (.smtp err) → (step srv o w).1.calls = w.calls ++ [.rcpt fp] →
      c.r.bytes = writeReplies [errorReply err] ++ later →
      (step srv o w).1.out = w.out ++ writeReplies [errorReply err] ∧ (Client.rcpt a opts c).1 = some (.reply err)) ∧
    (∀ (o : Outcomes) (w : World) (localName after : Bytes) (e : ReadErr) (c : Conn) (later : Bytes),
      o.shutdown = false → Byte.lf ∉ localName → Byte.nul ∉ localName → localName.length ≤ 505 →
      w.r = ⟨ascii "EHLO " ++ localName ++ crlf ++ after, e⟩ → o.helo = some (.smtp err) →
      (step srv o w).1.calls = w.calls ++ [.helo localName] →
      err.code ≠ replySyntaxError ∧ err.code ≠ replyCommandNotImpl →
      c.r.bytes = writeReplies [errorReply err] ++ later →
      (step srv o w).1.out = w.out ++ writeReplies [errorReply err] ∧
        (Client.ehlo localName c).1 = .error (.reply err)) ∧
    (∀ (o o' : Outcomes) (w : World) (localName after : Bytes) (e : ReadErr) (c : Conn) (later : Bytes),
      o.shutdown = false → o'.shutdown = false → Byte.lf ∉ localName → Byte.nul ∉ localName →
      localName.length ≤ 505 →
      w.r = ⟨ascii "EHLO " ++ localName ++ crlf ++ ascii "HELO " ++ localName ++ crlf ++ after, e⟩ →
      o.helo = some (.smtp err) → o'.helo = some (.smtp err) → (step srv o w).1.calls = w.calls ++ [.helo localName] →
      err.code = replySyntaxError ∨ err.code = replyCommandNotImpl →
      c.r.bytes = writeReplies [errorReply err, errorReply err] ++ later →
      (step srv o' (step srv o w).1).1.out = w.out ++ writeReplies [errorReply err, errorReply err] ∧
        (Client.ehlo localName c).1 = .error (.reply err)) ∧
    (∀ (o : Outcomes) (w : World) (ps : List Bytes) (after : Bytes) (e : ReadErr) (c : Conn) (later : Bytes),
      o.shutdown = false → w.s.state = .rcpt → srv.dataHandler = true → o.data = some (.smtp err) →
      w.r = ⟨ascii "DATA\r\n" ++ (dotWrite ps).out ++ after, e⟩ →
      c.r.bytes = writeReplies [startReply, errorReply err] ++ later →
      (step srv o w).1.out = w.out ++ writeReplies [startReply, errorReply err] ∧
        (Client.data ⟨ps, false⟩ c).1 = some (.reply err)) := by
  refine ⟨fun o w a opts rp after e c later hsd hl hn hlen hw ho hcall hc => ?_,
    fun o w a opts fp after e c later hsd hl hn hlen hw ho hcall hc => ?_,
    fun o w localName after e c later hsd hl hn hlen hw ho hcall hfb hc => ?_,
    fun o o' w localName after e c later hsd hsd' hl hn hlen hw ho ho' hcall hfb hc => ?_,
    fun o w ps after e c later hsd hst hdh ho hw hc => ?_⟩
  · rw [step_mail srv o w a _ after e hsd hl hn hlen hw] at hcall ⊢
    dsimp only at hcall ⊢
    exact ⟨handleMAIL_rejected srv o err _ _ rp hcall ho, mail_rejected he hok a opts c later hc⟩
  · rw [step_rcpt srv o w a _ after e hsd hl hn hlen hw] at hcall ⊢
    dsimp only at hcall ⊢
    exact ⟨handleRCPT_rejected srv o err _ _ fp hcall ho, rcpt_rejected he hok a opts c later hc⟩
  · rw [step_ehlo srv o w localName after e hsd hl hn hlen hw] at hcall ⊢
    dsimp only at hcall ⊢
    obtain ⟨hargs, hset⟩ := (handleHello_rejected srv o err _ _ _ _ ho).1 hcall
    exact ⟨by rw [handleEHLO, handleHello_out srv o err _ _ _ _ ho hargs hset], ehlo_rejected he hok localName c later hfb hc⟩
  · rw [step_ehlo srv o w localName (ascii "HELO " ++ localName ++ crlf ++ after) e hsd hl hn hlen
      (by rw [hw]; simp only [List.append_assoc])] at hcall ⊢
    dsimp only at hcall ⊢
    obtain ⟨hargs, hset⟩ := (handleHello_rejected srv o err _ _ _ _ ho).1 hcall
    rw [handleEHLO, handleHello_out srv o err _ _ _ _ ho hargs hset,
      step_helo srv o' _ localName after e hsd' hl hn hlen rfl, handleHELO, handleHello_out srv o' err _ _ _ _ ho' hargs hset]
    exact ⟨by simp, ehlo_rejected_fallback he hok localName c later hfb hc⟩
  · have hd := (step_data srv o w ps after e hst hsd hw).1
    rw [hdh, if_pos rfl, ho] at hd
    exact ⟨hd, data_rejected he hok ps c later hc⟩

/-- `OnMail` returns `550 5.1.1 No such user`, and `Client.Mail` returns it. -/
theorem handler_errors_reach_client_mail :
    let err : SMTPError := ⟨550, ⟨5, 1, 1⟩, ascii "No such user"⟩
    let srv : Server := { newServer with mailHandler := true }
    let o : Outcomes := { mail := some (.smtp err) }
    let w : World := ⟨{ newSession with state := .greeted }, ⟨ascii "MAIL FROM:<a@b>\r\n", .eof⟩, [], []⟩
    let c : Conn := ⟨⟨writeReplies [errorReply err], .eof⟩, []⟩
    (step srv o w).1.out = w.out ++ writeReplies [errorReply err] ∧
      (Client.mail (ascii "a@b") [] c).1 = some (.reply err) :=
  (handler_errors_reach_client _ _ ⟨by decide, by decide, by decide, .inr ⟨by decide, by decide, by decide⟩⟩
    (by decide)).1 _ _ (ascii "a@b") [] { mailbox := ⟨ascii "a", ascii "b"⟩ } [] .eof _ [] rfl (by decide) (by decide)
    (by decide) rfl rfl (by decide) rfl

/-- `OnMail` returns an error with code `250`: the session writes `250 ok`, and `Client.Mail` returns nil. `OnMail`
returns `550` with no enhanced code and the message `2.0.0`: `Client.Mail` returns the enhanced code `2.0.0` and an
empty message. -/
theorem handler_error_codes_misread :
    let srv : Server := { newServer with mailHandler := true }
    let w : World := ⟨{ newSession with state := .greeted }, ⟨ascii "MAIL FROM:<a@b>\r\n", .eof⟩, [], []⟩
    let accepted : Outcomes := { mail := some (.smtp ⟨250, .zero, ascii "ok"⟩) }
    let bare : Outcomes := { mail := some (.smtp ⟨550, .zero, ascii "2.0.0"⟩) }
    (step srv accepted w).1.out = ascii "250 ok\r\n" ∧
      (Client.mail (ascii "a@b") [] ⟨⟨(step srv accepted w).1.out, .eof⟩, []⟩).1 = none ∧
      (step srv bare w).1.out = ascii "550 2.0.0\r\n" ∧
      (Client.mail (ascii "a@b") [] ⟨⟨(step srv bare w).1.out, .eof⟩, []⟩).1 = some (.reply ⟨550, ⟨2, 0, 0⟩, []⟩) := by
  decide

end Smtp
