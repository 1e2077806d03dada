import Smtp.Theorems.SendMail
import Smtp.Theorems.Auth
import Smtp.Theorems.Extensions

/-!
# Submitting a message: `SubmitMessage` against the session

`Client.SubmitMessage` starts TLS when it is due (the client is not on TLS, the server offered `STARTTLS`, and the
caller passes a TLS configuration), then authenticates, then sends the message with `SendMail`. With `PLAIN`
credentials that `Authenticate` accepts and a message the session takes whole, both ways through it hold against the
session, each side reading what the other writes. Without `STARTTLS` the session answers `AUTH` with `235` and takes the
message (`submitMessage_delivers`). With it, the session answers `220`, goes on over the TLS stream, answers the new
`EHLO`, and then does the same (`submitMessage_starttls_delivers`). Either way the session takes `MAIL` in submission
mode because the `AUTH` turn came first. The client reads exactly the replies the session writes, writes exactly what
the session reads, and returns the reply that ends the message. When `Authenticate` refuses, `SubmitMessage` stops at
the reply to `AUTH` and sends nothing of the message (`submitMessage_auth_refused`).
-/

namespace Smtp

/-- The line `Client.Auth` writes for `PLAIN`: the mechanism and its initial response in base64. -/
def plainWrites (identity username password : Bytes) : Bytes :=
  ascii "AUTH PLAIN " ++ base64Encode (identity ++ [Byte.nul] ++ username ++ [Byte.nul] ++ password) ++ crlf

namespace SubmissionAux
open AuthAux ClientAux SendMailAux RepliesAux

/-- The `AUTH PLAIN` turn when `Authenticate` returns nil: `235`, one call, and the session authenticated. -/
theorem step_authPLAIN_accepted (srv : Server) (o : Outcomes) (w : World) (hsd : o.shutdown = false)
    (hok : o.auth = none) (hh : srv.authHandler = true) (hst : w.s.state = .greeted)
    (hna : w.s.authenticated = false) (identity username password after : Bytes) (e : ReadErr)
    (hnul : Byte.nul ∉ identity ∧ Byte.nul ∉ username ∧ Byte.nul ∉ password)
    (hlen : (base64Encode (identity ++ [Byte.nul] ++ username ++ [Byte.nul] ++ password)).length ≤ 499)
    (hw : w.r = ⟨plainWrites identity username password ++ after, e⟩) :
    step srv o w = ({ w with
      s := { w.s with authenticated := true }
      r := ⟨after, e⟩
      out := w.out ++ writeReplies [authReply none]
      calls := w.calls ++ [.authenticate (ascii "PLAIN") username password] }, .next) := by
  rw [step_authPLAIN srv o w hsd hh (by rw [hst]; decide) hna identity username password after e hnul hlen
    (by rw [hw]; simp only [plainWrites, List.append_assoc]), authenticate_eq]
  simp [hok, hna]

/-- What `Client.Auth` writes for `PLAIN` is the line the session reads. -/
theorem writeLine_plain (c : Conn) (identity username password : Bytes) :
    (c.writeLine (authCommand (.plain identity username password))).out =
      c.out ++ plainWrites identity username password := by
  simp only [Conn.writeLine, authCommand, SASLMechanism.start, SASLMechanism.name, plainWrites, List.append_assoc]
  rfl

/-- `Auth` with `PLAIN` against `235`: its line, that reply read, and `nil`. -/
theorem auth_plain_client (hmacMD5 : Bytes → Bytes → Bytes) (n : Nat) (identity username password : Bytes) (c : Conn)
    (R : Bytes) (hc : c.r.bytes = writeReplies [authReply none] ++ R) :
    Client.auth hmacMD5 (n + 1) (.plain identity username password) c =
      some (none, ⟨⟨R, c.r.err⟩, c.out ++ plainWrites identity username password⟩) := by
  have hok : (authReply none).code = replyAuthOK := rfl
  rw [Client.auth, authLoop_final hmacMD5 n _ _ (authReply none) R c.r.err (by decide) (by decide)
      (by rw [writeLine_r, ← hc]),
    if_pos hok, writeLine_plain]

/-- `235` and then the replies to a whole message, read as one stream. -/
theorem writeReplies_authReply (ts : List Bytes) (f : Reply) (later : Bytes) :
    writeReplies (authReply none :: originatorOk :: ts.map (fun _ => recipientOk) ++ [startReply, f]) ++ later =
      writeReplies [authReply none] ++
        (writeReplies (originatorOk :: ts.map (fun _ => recipientOk) ++ [startReply, f]) ++ later) := by
  rw [List.cons_append, ← List.singleton_append (x := authReply none), writeReplies_append, List.append_assoc]

/-- `SubmitMessage` with `PLAIN` on a connection where no `STARTTLS` is due, against `235` and then the replies to a
whole message, the last of them `f`. -/
theorem submitMessage_client (hmacMD5 : Bytes → Bytes → Bytes) (n : Nat) (handshake : Option BufReader)
    (tlsConfig : Bool) (identity username password fromAddr : Bytes) (ts ps : List Bytes) (cl : Client) (f : Reply)
    (later : Bytes) (hf : f.Readable)
    (hskip : ¬(cl.tls = false ∧ (cl.exts.getD []).has (ascii "STARTTLS") = true ∧ tlsConfig = true))
    (hc : cl.conn.r.bytes = writeReplies (authReply none :: originatorOk :: ts.map (fun _ => recipientOk) ++
      [startReply, f]) ++ later) :
    Client.submitMessage hmacMD5 (n + 1) handshake (.plain identity username password) tlsConfig fromAddr ts
      ⟨ps, false⟩ cl = some (if f.code ≠ replyOK then some (.send (.data (.reply (replyToError f)))) else none,
      { cl with conn := ⟨⟨later, cl.conn.r.err⟩,
        cl.conn.out ++ plainWrites identity username password ++ sendMailWrites fromAddr ts ps⟩ }) := by
  rw [Client.submitMessage, if_neg (by simpa using hskip)]
  dsimp only
  rw [auth_plain_client hmacMD5 n identity username password _ _ (hc.trans (writeReplies_authReply ts f later)),
    Option.map_some']
  dsimp only
  rw [sendMail_client fromAddr ts ps _ f later hf rfl]
  by_cases hok : f.code = replyOK <;> simp [hok, List.append_assoc]

/-- `SubmitMessage` with `PLAIN` on a connection where `STARTTLS` is due, against `220`, and then over the TLS stream
`ct` the `EHLO` reply, `235` and the replies to a whole message, the last of them `f`. -/
theorem submitMessage_starttls_client (hmacMD5 : Bytes → Bytes → Bytes) (n : Nat) (ct : BufReader)
    (identity username password fromAddr : Bytes) (ts ps : List Bytes) (cl : Client) (lines : List Bytes) (f : Reply)
    (later later' : Bytes) (hr : (Reply.mk replyOK lines).Readable) (hf : f.Readable)
    (hdue : cl.tls = false ∧ (cl.exts.getD []).has (ascii "STARTTLS") = true)
    (hc : cl.conn.r.bytes = writeReplies [readyToStartTLS] ++ later)
    (hct : ct.bytes = writeReplies [⟨replyOK, lines⟩] ++
      (writeReplies (authReply none :: originatorOk :: ts.map (fun _ => recipientOk) ++ [startReply, f]) ++ later')) :
    Client.submitMessage hmacMD5 (n + 1) (some ct) (.plain identity username password) true fromAddr ts ⟨ps, false⟩ cl =
      some (if f.code ≠ replyOK then some (.send (.data (.reply (replyToError f)))) else none, { cl with
        conn := ⟨⟨later', ct.err⟩, cl.conn.out ++ ascii "STARTTLS" ++ crlf ++ ascii "EHLO " ++ cl.localName ++ crlf ++
          plainWrites identity username password ++ sendMailWrites fromAddr ts ps⟩
        exts := some (parseEHLOResponse lines)
        tls := true }) := by
  rw [Client.submitMessage, if_pos (by simp [hdue]), ExtensionsAux.startTLS_client cl ct lines later _ hr hc hct]
  dsimp only
  rw [auth_plain_client hmacMD5 n identity username password _ _ (writeReplies_authReply ts f later'),
    Option.map_some']
  dsimp only
  rw [sendMail_client fromAddr ts ps _ f later' hf rfl]
  by_cases hok : f.code = replyOK <;> simp [hok, List.append_assoc]

end SubmissionAux

open SubmissionAux SendMailAux ClientAux AuthAux

/-- `Client.SubmitMessage` with `PLAIN` and a body whose reader does not fail, on a connection where no `STARTTLS` is
due, against the turns of the server's command loop that read what it writes. The session has an `AuthHandler`, is
greeted and not yet authenticated, `Authenticate` returns `nil`, and the message is one `SendMail` delivers
(`sendMail_delivers`): addresses that read back as `m` and `ms`, one to `maxRecipients` recipients, `OnMail` and
`OnRcpt` returning `nil`. Whether or not the server is in submission mode, the session answers `235`, calls
`Authenticate("PLAIN", username, password)`, then takes the whole message as `SendMail` sends it, and ends
authenticated and greeted with an empty transaction. The client reads exactly these replies, writes exactly what the
session reads, and returns `nil` exactly when the reply that ends the message is `250`, and otherwise that reply. -/
theorem submitMessage_delivers (srv : Server) (oa om od : Outcomes) (ors : List Outcomes) (w : World)
    (hmacMD5 : Bytes → Bytes → Bytes) (n : Nat) (handshake : Option BufReader) (tlsConfig : Bool)
    (identity username password fromAddr : Bytes) (m : Mailbox) (ts : List Bytes) (ms : List Mailbox)
    (ps : List Bytes) (after later : Bytes) (e : ReadErr) (cl : Client)
    (hh : srv.authHandler = true) (hst : w.s.state = .greeted) (hna : w.s.authenticated = false)
    (hoa : oa.shutdown = false ∧ oa.auth = none)
    (hnul : Byte.nul ∉ identity ∧ Byte.nul ∉ username ∧ Byte.nul ∉ password)
    (hplen : (base64Encode (identity ++ [Byte.nul] ++ username ++ [Byte.nul] ++ password)).length ≤ 499)
    (hfrom : ReadsAs fromAddr m) (hts : List.Forall₂ ReadsAs ts ms) (hne : ts ≠ [])
    (hcap : (ts.length : Int) ≤ srv.maxRecipients) (hom : om.shutdown = false ∧ om.mail = none)
    (hlen : ors.length = ts.length) (hors : ∀ o ∈ ors, o.shutdown = false ∧ o.rcpt = none)
    (hod : od.shutdown = false) (hd : ∀ err, od.data = some err → err.Sendable)
    (hw : w.r = ⟨plainWrites identity username password ++ sendMailWrites fromAddr ts ps ++ after, e⟩)
    (hskip : ¬(cl.tls = false ∧ (cl.exts.getD []).has (ascii "STARTTLS") = true ∧ tlsConfig = true))
    (hc : cl.conn.r.bytes = writeReplies (authReply none :: originatorOk :: ts.map (fun _ => recipientOk) ++
      [startReply, messageReply (if srv.dataHandler then od.data else none)]) ++ later) :
    (run srv (oa :: om :: ors ++ [od]) w).1.out = w.out ++ writeReplies (authReply none :: originatorOk ::
      ts.map (fun _ => recipientOk) ++ [startReply, messageReply (if srv.dataHandler then od.data else none)]) ∧
    (run srv (oa :: om :: ors ++ [od]) w).1.calls = w.calls ++ [.authenticate (ascii "PLAIN") username password] ++
      (if srv.mailHandler then [.mail { mailbox := m }] else []) ++
      (if srv.rcptHandler then ms.map fun m => .rcpt ⟨m⟩ else []) ++
      (if srv.dataHandler then [.data { mailbox := m } (ms.map (⟨·⟩)) (canonicalBody ps)] else []) ++
      (if srv.resetHandler then [.reset] else []) ∧
    (run srv (oa :: om :: ors ++ [od]) w).1.s =
      { w.s with authenticated := true, reversePath := {}, forwardPaths := [], bdatBuffer := [] } ∧
    (run srv (oa :: om :: ors ++ [od]) w).1.r = ⟨after, e⟩ ∧ (run srv (oa :: om :: ors ++ [od]) w).2 = .next ∧
    Client.submitMessage hmacMD5 (n + 1) handshake (.plain identity username password) tlsConfig fromAddr ts
      ⟨ps, false⟩ cl = some
      (if (messageReply (if srv.dataHandler then od.data else none)).code ≠ replyOK then
        some (.send (.data (.reply (replyToError (messageReply (if srv.dataHandler then od.data else none))))))
      else none,
      { cl with conn := ⟨⟨later, cl.conn.r.err⟩,
        cl.conn.out ++ plainWrites identity username password ++ sendMailWrites fromAddr ts ps⟩ }) := by
  have hauth := step_authPLAIN_accepted srv oa w hoa.1 hoa.2 hh hst hna identity username password _ e hnul hplen
    (by rw [hw, List.append_assoc])
  have hrun := run_sendMail srv om od ors (step srv oa w).1 fromAddr m ts ms ps after e hfrom hts hne hcap
    (by rw [hauth]; exact hst) (by rw [hauth]; simp) hom hlen hors hod (by rw [hauth])
  rw [hauth] at hrun
  obtain ⟨h1, h2, h3, h4, h5⟩ := hrun
  rw [List.cons_append, run, hauth]
  dsimp only at h1 h2 h3 h4 h5 ⊢
  refine ⟨by rw [h1]; simp [List.append_assoc], by rw [h2], by rw [h3], h4, h5,
    submitMessage_client hmacMD5 n handshake tlsConfig identity username password fromAddr ts ps cl _ later
      (messageReply_ite_readable srv.dataHandler hd) hskip hc⟩

/-- A submission server with every handler, and one recipient: `SubmitMessage` returns nil and the session ends
authenticated. -/
theorem submitMessage_delivers_submission :
    let srv : Server := { newServer with
      submissionMode := true, authHandler := true, mailHandler := true, rcptHandler := true, dataHandler := true,
      resetHandler := true }
    let w : World := ⟨{ newSession with state := .greeted },
      ⟨plainWrites [] (ascii "u") (ascii "p") ++ sendMailWrites (ascii "a@b.c") [ascii "d@e.f"] [ascii "hi"], .eof⟩,
      [], []⟩
    let replies := writeReplies [authReply none, originatorOk, recipientOk, startReply, messageReply none]
    let cl : Client := ⟨⟨⟨replies, .eof⟩, []⟩, ascii "localhost", some [], false⟩
    (run srv [{}, {}, {}, {}] w).1.out = replies ∧ (run srv [{}, {}, {}, {}] w).1.s.authenticated = true ∧
    (Client.submitMessage (fun _ _ => []) 1 none (.plain [] (ascii "u") (ascii "p")) true (ascii "a@b.c")
      [ascii "d@e.f"] ⟨[ascii "hi"], false⟩ cl).map Prod.fst = some none :=
  have h := submitMessage_delivers
    { newServer with
      submissionMode := true, authHandler := true, mailHandler := true, rcptHandler := true, dataHandler := true,
      resetHandler := true } {} {} {} [{}]
    ⟨{ newSession with state := .greeted },
      ⟨plainWrites [] (ascii "u") (ascii "p") ++ sendMailWrites (ascii "a@b.c") [ascii "d@e.f"] [ascii "hi"] ++ [],
        .eof⟩, [], []⟩
    (fun _ _ => []) 0 none true [] (ascii "u") (ascii "p") (ascii "a@b.c") ⟨ascii "a", ascii "b.c"⟩ [ascii "d@e.f"]
    [⟨ascii "d", ascii "e.f"⟩] [ascii "hi"] [] [] .eof
    ⟨⟨⟨writeReplies [authReply none, originatorOk, recipientOk, startReply, messageReply none] ++ [], .eof⟩, []⟩,
      ascii "localhost", some [], false⟩
    rfl rfl rfl ⟨rfl, rfl⟩ ⟨by decide, by decide, by decide⟩ (by decide)
    ⟨by decide, by decide, by decide, by decide, by decide⟩
    (.cons ⟨by decide, by decide, by decide, by decide, by decide⟩ .nil) (by simp) (by decide) ⟨rfl, rfl⟩ rfl
    (by simp) rfl nofun rfl (by decide) (by simp)
  ⟨by simpa using h.1, by simpa using congrArg (·.authenticated) h.2.2.1,
    by simpa using congrArg (Option.map Prod.fst) h.2.2.2.2.2⟩

/-- `Client.SubmitMessage` with `PLAIN` on a connection where no `STARTTLS` is due, against a greeted session with an
`AuthHandler` that is not yet authenticated, when `Authenticate` returns an error: an `SMTPError` the session can send
whose code is not `235`, or another error. The session answers with the reply of that error, calls `Authenticate` once,
and stays unauthenticated. `SubmitMessage` returns that reply as its `AUTH` error: it has written the `AUTH` line and
nothing more, so neither `MAIL` nor any recipient, and it never reads the body. -/
theorem submitMessage_auth_refused (srv : Server) (o : Outcomes) (w : World) (hmacMD5 : Bytes → Bytes → Bytes)
    (n : Nat) (handshake : Option BufReader) (tlsConfig : Bool) (identity username password fromAddr : Bytes)
    (ts : List Bytes) (b : Body) (after later : Bytes) (e : ReadErr) (cl : Client) (err : HandlerErr)
    (hh : srv.authHandler = true) (hst : w.s.state = .greeted) (hna : w.s.authenticated = false)
    (hsd : o.shutdown = false) (herr : o.auth = some err)
    (hauth : ∀ e, err = .smtp e → e.Sendable ∧ e.code ≠ replyAuthOK)
    (hnul : Byte.nul ∉ identity ∧ Byte.nul ∉ username ∧ Byte.nul ∉ password)
    (hplen : (base64Encode (identity ++ [Byte.nul] ++ username ++ [Byte.nul] ++ password)).length ≤ 499)
    (hw : w.r = ⟨plainWrites identity username password ++ after, e⟩)
    (hskip : ¬(cl.tls = false ∧ (cl.exts.getD []).has (ascii "STARTTLS") = true ∧ tlsConfig = true))
    (hc : cl.conn.r.bytes = writeReplies [authReply (some err)] ++ later) :
    step srv o w = ({ w with
      r := ⟨after, e⟩
      out := w.out ++ writeReplies [authReply (some err)]
      calls := w.calls ++ [.authenticate (ascii "PLAIN") username password] }, .next) ∧
    Client.submitMessage hmacMD5 (n + 1) handshake (.plain identity username password) tlsConfig fromAddr ts b cl =
      some (some (.auth (.reply (replyToError (authReply (some err))))),
        { cl with conn := ⟨⟨later, cl.conn.r.err⟩, cl.conn.out ++ plainWrites identity username password⟩ }) := by
  obtain ⟨hf, hok⟩ := authReply_final (some err) fun e h => hauth e (Option.some.inj h)
  have h235 : (authReply (some err)).code ≠ replyAuthOK := fun h => Option.some_ne_none _ (hok.1 h)
  have h334 : (authReply (some err)).code ≠ replyAuthContinue := fun h => hf.2 (h ▸ by decide)
  refine ⟨?_, ?_⟩
  · rw [step_authPLAIN srv o w hsd hh (by rw [hst]; decide) hna identity username password after e hnul hplen
      (by rw [hw]; simp only [plainWrites, List.append_assoc]), authenticate_eq]
    simp [herr, hna]
    rw [← hna]
  · rw [Client.submitMessage, if_neg (by simpa using hskip)]
    dsimp only
    rw [Client.auth, authLoop_final hmacMD5 n _ _ (authReply (some err)) later cl.conn.r.err hf.1 h334
      (by rw [writeLine_r, ← hc]), if_neg h235, Option.map_some', writeLine_plain]

/-- `Authenticate` returning an error that is not an `SMTPError`: `535`, and `SubmitMessage` stops there. -/
theorem submitMessage_auth_refused_other :
    let srv : Server := { newServer with submissionMode := true, authHandler := true, mailHandler := true }
    let w : World := ⟨{ newSession with state := .greeted },
      ⟨plainWrites [] (ascii "u") (ascii "p") ++ mailWrites (ascii "a@b.c"), .eof⟩, [], []⟩
    (step srv { auth := some .other } w).1.s.authenticated = false ∧
    (Client.submitMessage (fun _ _ => []) 1 none (.plain [] (ascii "u") (ascii "p")) false (ascii "a@b.c")
      [ascii "d@e.f"] ⟨[ascii "hi"], false⟩ ⟨⟨⟨writeReplies [authReply (some .other)], .eof⟩, []⟩, ascii "me", none, false⟩
      ).map (·.2.conn.out) = some (plainWrites [] (ascii "u") (ascii "p")) :=
  have h := submitMessage_auth_refused { newServer with submissionMode := true, authHandler := true, mailHandler := true }
    { auth := some .other } ⟨{ newSession with state := .greeted },
      ⟨plainWrites [] (ascii "u") (ascii "p") ++ mailWrites (ascii "a@b.c"), .eof⟩, [], []⟩ (fun _ _ => []) 0 none false
    [] (ascii "u") (ascii "p") (ascii "a@b.c") [ascii "d@e.f"] ⟨[ascii "hi"], false⟩ (mailWrites (ascii "a@b.c")) []
    .eof ⟨⟨⟨writeReplies [authReply (some .other)], .eof⟩, []⟩, ascii "me", none, false⟩ .other rfl rfl rfl rfl rfl nofun
    ⟨by decide, by decide, by decide⟩ (by decide) rfl (by simp) (by simp)
  ⟨by rw [h.1]; rfl, by rw [h.2]; rfl⟩

/-- `Client.SubmitMessage` with `PLAIN` and a body whose reader does not fail, when `STARTTLS` is due: the client is not
on TLS, the server offered `STARTTLS`, and the caller passes a TLS configuration. The session is outside TLS, not yet
authenticated, on a server with a TLS configuration and an `AuthHandler`; the handshake succeeds on both ends, the
client's name fits an `EHLO` line, `OnHelo` returns `nil` if it is set, `Authenticate` returns `nil`, and the message is
one `SendMail` delivers (`sendMail_delivers`). The session answers `220`, reads the rest over the TLS stream, answers
`EHLO` with the lines of a session on TLS, answers `AUTH` with `235`, and takes the whole message, in submission mode
too. It calls `OnReset` for the upgrade, `OnHelo` and `OnReset` for `EHLO`, `Authenticate("PLAIN", username,
password)`, then the handlers of the message, and ends on TLS, authenticated, greeted with the client's name and an
empty transaction. The client reads exactly these replies, writes exactly what the session reads, ends on TLS with the
extensions of the new `EHLO` reply, and returns `nil` exactly when the reply that ends the message is `250`, and
otherwise that reply. -/
theorem submitMessage_starttls_delivers (srv : Server) (hs : srv.Sendable) (o o' oa om od : Outcomes)
    (ors : List Outcomes) (w : World) (hmacMD5 : Bytes → Bytes → Bytes) (n : Nat)
    (identity username password fromAddr : Bytes) (m : Mailbox) (ts : List Bytes) (ms : List Mailbox)
    (ps : List Bytes) (rest after later later' : Bytes) (e e' : ReadErr) (cl : Client) (ct : BufReader)
    (htls : srv.tlsConfig = true) (hh : srv.authHandler = true) (hnt : w.s.tls = false)
    (hna : w.s.authenticated = false) (hsd : o.shutdown = false ∧ o'.shutdown = false)
    (hho : srv.heloHandler = true → o'.helo = none) (hoa : oa.shutdown = false ∧ oa.auth = none)
    (hname : cl.localName ≠ [] ∧ Byte.lf ∉ cl.localName ∧ Byte.nul ∉ cl.localName ∧ cl.localName.length ≤ 505)
    (hnul : Byte.nul ∉ identity ∧ Byte.nul ∉ username ∧ Byte.nul ∉ password)
    (hplen : (base64Encode (identity ++ [Byte.nul] ++ username ++ [Byte.nul] ++ password)).length ≤ 499)
    (hfrom : ReadsAs fromAddr m) (hts : List.Forall₂ ReadsAs ts ms) (hne : ts ≠ [])
    (hcap : (ts.length : Int) ≤ srv.maxRecipients) (hom : om.shutdown = false ∧ om.mail = none)
    (hlen : ors.length = ts.length) (hors : ∀ o ∈ ors, o.shutdown = false ∧ o.rcpt = none)
    (hod : od.shutdown = false) (hd : ∀ err, od.data = some err → err.Sendable)
    (hw : w.r = ⟨ascii "STARTTLS" ++ crlf ++ rest, e⟩)
    (hhs : o.handshake = some ⟨ascii "EHLO " ++ cl.localName ++ crlf ++ plainWrites identity username password ++
      sendMailWrites fromAddr ts ps ++ after, e'⟩)
    (hdue : cl.tls = false ∧ (cl.exts.getD []).has (ascii "STARTTLS") = true)
    (hc : cl.conn.r.bytes = writeReplies [readyToStartTLS] ++ later)
    (hct : ct.bytes = writeReply replyOK (ehloLines srv { w.s with tls := true } cl.localName) ++
      writeReplies (authReply none :: originatorOk :: ts.map (fun _ => recipientOk) ++
        [startReply, messageReply (if srv.dataHandler then od.data else none)]) ++ later') :
    (run srv (o :: o' :: oa :: om :: ors ++ [od]) w).1.out = w.out ++ writeReplies [readyToStartTLS] ++
      writeReply replyOK (ehloLines srv { w.s with tls := true } cl.localName) ++
      writeReplies (authReply none :: originatorOk :: ts.map (fun _ => recipientOk) ++
        [startReply, messageReply (if srv.dataHandler then od.data else none)]) ∧
    (run srv (o :: o' :: oa :: om :: ors ++ [od]) w).1.calls = w.calls ++
      (if srv.resetHandler then [.reset] else []) ++ (if srv.heloHandler then [.helo cl.localName] else []) ++
      (if srv.resetHandler then [.reset] else []) ++ [.authenticate (ascii "PLAIN") username password] ++
      (if srv.mailHandler then [.mail { mailbox := m }] else []) ++
      (if srv.rcptHandler then ms.map fun m => .rcpt ⟨m⟩ else []) ++
      (if srv.dataHandler then [.data { mailbox := m } (ms.map (⟨·⟩)) (canonicalBody ps)] else []) ++
      (if srv.resetHandler then [.reset] else []) ∧
    (run srv (o :: o' :: oa :: om :: ors ++ [od]) w).1.s = { w.s with
      tls := true, authenticated := true, reversePath := {}, forwardPaths := [], bdatBuffer := [], state := .greeted,
      clientHostname := cl.localName, esmtp := true } ∧
    (run srv (o :: o' :: oa :: om :: ors ++ [od]) w).1.r = ⟨after, e'⟩ ∧
    (run srv (o :: o' :: oa :: om :: ors ++ [od]) w).2 = .next ∧
    Client.submitMessage hmacMD5 (n + 1) (some ct) (.plain identity username password) true fromAddr ts ⟨ps, false⟩ cl =
      some (if (messageReply (if srv.dataHandler then od.data else none)).code ≠ replyOK then
          some (.send (.data (.reply (replyToError (messageReply (if srv.dataHandler then od.data else none))))))
        else none, { cl with
        conn := ⟨⟨later', ct.err⟩, cl.conn.out ++ ascii "STARTTLS" ++ crlf ++ ascii "EHLO " ++ cl.localName ++ crlf ++
          plainWrites identity username password ++ sendMailWrites fromAddr ts ps⟩
        exts := some (advertised srv { w.s with tls := true })
        tls := true }) := by
  obtain ⟨hnm, hl, hn, hnlen⟩ := hname
  -- `STARTTLS` and `EHLO` over TLS
  have hhs' : o.handshake = some ⟨ascii "EHLO " ++ cl.localName ++ crlf ++
      (plainWrites identity username password ++ sendMailWrites fromAddr ts ps ++ after), e'⟩ := by
    rw [hhs]; simp only [List.append_assoc]
  obtain ⟨f1, f2, f3, f4⟩ := ExtensionsAux.startTLS_ehlo srv o o' w cl.localName rest _ e e' hsd.1 htls hnt hnm hho hw
    hhs'
  -- `AUTH PLAIN`
  have hauth := step_authPLAIN_accepted srv oa _ hoa.1 hoa.2 hh (by rw [f2]) (by rw [f2]; exact hna) identity username
    password _ e' hnul hplen (by rw [f3, List.append_assoc])
  -- the message
  have hrun := run_sendMail srv om od ors (step srv oa _).1 fromAddr m ts ms ps after e' hfrom hts hne hcap
    (by rw [hauth, f2]) (by rw [hauth]; simp) hom hlen hors hod (by rw [hauth])
  rw [hauth] at hrun
  obtain ⟨g1, g2, g3, g4, g5⟩ := hrun
  rw [List.cons_append, List.cons_append, List.cons_append,
    ExtensionsAux.run_startTLS srv o o' _ w cl.localName rest _ e e' hsd.1 hsd.2 htls hnt hl hn hnlen hw hhs', run, hauth]
  dsimp only at g1 g2 g3 g4 g5 ⊢
  refine ⟨by rw [g1, f1]; simp [List.append_assoc], by rw [g2, f4], by rw [g3, f2], g4, g5, ?_⟩
  rw [submitMessage_starttls_client hmacMD5 n ct identity username password fromAddr ts ps cl _ _ later later'
    (RepliesAux.ehloLines_final hs ⟨hl, by omega⟩ { w.s with tls := true }).1
    (messageReply_ite_readable srv.dataHandler hd) hdue hc (by rw [hct]; simp [List.append_assoc]),
    ExtensionsAux.parseEHLOResponse_ehloLines]

/-- A submission server with a TLS configuration and every handler, and a client that was told `STARTTLS`: the session
ends on TLS and authenticated, and `SubmitMessage` returns nil. -/
theorem submitMessage_starttls_delivers_submission :
    let srv : Server := { newServer with
      tlsConfig := true, submissionMode := true, authHandler := true, mailHandler := true, rcptHandler := true,
      dataHandler := true, resetHandler := true }
    let tlsWrites := ascii "EHLO me\r\n" ++ plainWrites [] (ascii "u") (ascii "p") ++
      sendMailWrites (ascii "a@b.c") [ascii "d@e.f"] [ascii "hi"]
    let w : World := ⟨{ newSession with state := .greeted, esmtp := true }, ⟨ascii "STARTTLS\r\n", .eof⟩, [], []⟩
    let cl : Client := ⟨⟨⟨writeReplies [readyToStartTLS], .eof⟩, []⟩, ascii "me", some [(ascii "STARTTLS", [])], false⟩
    let ct : BufReader := ⟨writeReply replyOK (ehloLines srv { w.s with tls := true } (ascii "me")) ++
      writeReplies [authReply none, originatorOk, recipientOk, startReply, messageReply none], .eof⟩
    (run srv [{ handshake := some ⟨tlsWrites, .eof⟩ }, {}, {}, {}, {}, {}] w).1.s.authenticated = true ∧
    (run srv [{ handshake := some ⟨tlsWrites, .eof⟩ }, {}, {}, {}, {}, {}] w).1.s.tls = true ∧
    (Client.submitMessage (fun _ _ => []) 1 (some ct) (.plain [] (ascii "u") (ascii "p")) true (ascii "a@b.c")
      [ascii "d@e.f"] ⟨[ascii "hi"], false⟩ cl).map Prod.fst = some none :=
  have h := submitMessage_starttls_delivers
    { newServer with
      tlsConfig := true, submissionMode := true, authHandler := true, mailHandler := true, rcptHandler := true,
      dataHandler := true, resetHandler := true } ⟨by decide, by decide, by decide⟩
    { handshake := some ⟨ascii "EHLO " ++ ascii "me" ++ crlf ++ plainWrites [] (ascii "u") (ascii "p") ++
      sendMailWrites (ascii "a@b.c") [ascii "d@e.f"] [ascii "hi"] ++ [], .eof⟩ } {} {} {} {} [{}]
    ⟨{ newSession with state := .greeted, esmtp := true }, ⟨ascii "STARTTLS" ++ crlf ++ [], .eof⟩, [], []⟩
    (fun _ _ => []) 0 [] (ascii "u") (ascii "p") (ascii "a@b.c") ⟨ascii "a", ascii "b.c"⟩ [ascii "d@e.f"]
    [⟨ascii "d", ascii "e.f"⟩] [ascii "hi"] [] [] [] [] .eof .eof
    ⟨⟨⟨writeReplies [readyToStartTLS] ++ [], .eof⟩, []⟩, ascii "me", some [(ascii "STARTTLS", [])], false⟩
    ⟨writeReply replyOK (ehloLines { newServer with
      tlsConfig := true, submissionMode := true, authHandler := true, mailHandler := true, rcptHandler := true,
      dataHandler := true, resetHandler := true } { newSession with state := .greeted, esmtp := true, tls := true }
      (ascii "me")) ++ writeReplies [authReply none, originatorOk, recipientOk, startReply, messageReply none] ++ [],
      .eof⟩
    rfl rfl rfl rfl ⟨rfl, rfl⟩ (fun _ => rfl) ⟨rfl, rfl⟩ ⟨by decide, by decide, by decide, by decide⟩
    ⟨by decide, by decide, by decide⟩ (by decide) ⟨by decide, by decide, by decide, by decide, by decide⟩
    (.cons ⟨by decide, by decide, by decide, by decide, by decide⟩ .nil) (by simp) (by decide) ⟨rfl, rfl⟩ rfl
    (by simp) rfl nofun rfl rfl ⟨rfl, by decide⟩ rfl rfl
  ⟨by simpa using congrArg (·.authenticated) h.2.2.1, by simpa using congrArg (·.tls) h.2.2.1,
    by simpa using congrArg (Option.map Prod.fst) h.2.2.2.2.2⟩

end Smtp
