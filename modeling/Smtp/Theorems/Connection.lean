import Smtp.Theorems.SendMail
import Smtp.Theorems.Extensions

/-!
# A whole connection: `NewClient`, `SendMail` and `Close` against `handleConn`

The client of the repository and its server, each reading what the other writes, over one connection from the
greeting to `QUIT`: `NewClient` reads the greeting and sends `EHLO`, `SendMail` sends one message, and `Close` sends
`QUIT`. The session greets, answers every command, makes the handler calls of the message, and ends the connection at
`QUIT` with the bytes after it unread. The client reads exactly what the session writes and writes exactly what the
session reads (`connection_delivers`).

The session's run is cut where each part ends (`handleConn_ehlo`, `run_sendMail`, `step_quit`), and the client's
calls follow the same cuts.
-/

namespace Smtp

/-- What `NewClient`, `SendMail` and `Close` write on one connection, in order: `EHLO`, the message, `QUIT`. -/
def connectionWrites (localName fromAddr : Bytes) (ts ps : List Bytes) : Bytes :=
  ascii "EHLO " ++ localName ++ crlf ++ sendMailWrites fromAddr ts ps ++ ascii "QUIT" ++ crlf

/-- `221`, the session's answer to `QUIT`. -/
def closingReply (srv : Server) : Reply :=
  lineReply replyServiceClosing enhancedCodeOK (srv.hostname ++ ascii " closing connection")

namespace ConnectionAux
open ClientAux RepliesAux

/-- The turn over `QUIT`: `221`, and the end of the connection. -/
theorem step_quit (srv : Server) (o : Outcomes) (w : World) (after : Bytes) (e : ReadErr) (hsd : o.shutdown = false)
    (hw : w.r = ⟨ascii "QUIT" ++ crlf ++ after, e⟩) :
    step srv o w = ({ w with r := ⟨after, e⟩, out := w.out ++ writeReplies [closingReply srv] }, .close) := by
  rw [CommandsAux.step_line srv o w _ after e hsd (by decide) (by decide) hw,
    CommandsAux.command_word srv o _ _ (by decide) (by decide), dispatch,
    show Verb.ofKeyword (toUpper (ascii "QUIT")) = some .quit by decide]
  simp [handleQUIT, World.reply, closingReply, lineReply]

/-- The answer to `QUIT` of a server whose texts fit is a reply the client reads. -/
theorem closingReply_readable (srv : Server) (hs : srv.Sendable) : (closingReply srv).Readable := by
  refine (final_ok_line (by decide) ?_ ?_).1
  · simp only [List.mem_append, not_or]; exact ⟨hs.hostname, by decide⟩
  · simp only [List.length_append, show (ascii " closing connection").length = 19 from rfl]
    have := hs.hostnameLength; omega

/-- `Close` against a readable reply: `QUIT`, and that reply read. -/
theorem close_client (c : Conn) (f : Reply) (later : Bytes) (hf : f.Readable)
    (hc : c.r.bytes = writeReplies [f] ++ later) :
    Client.close c = ⟨⟨later, c.r.err⟩, c.out ++ ascii "QUIT" ++ crlf⟩ := by
  have h1 := readReply_readable hf later c.r.err
  rw [← hc] at h1
  rw [Client.close, cmd_eq, h1]

end ConnectionAux

open ConnectionAux ExtensionsAux SendMailAux ClientAux RejectionsAux BdatAux RepliesAux

/-- `NewClient`, `Client.SendMail` with a body whose reader does not fail, and `Client.Close`, on one connection
against `handleConn`, each reading what the other writes. The server's texts fit, it is not in submission mode, and
`OnConnect` does not refuse. The client's name fits an `EHLO` line and `OnHelo` returns `nil` if it is set, and the
message is one `SendMail` delivers (`sendMail_delivers`). The session greets, answers `EHLO`, takes the message, and
ends the connection at `QUIT` with the bytes after it unread. Its calls are `OnHelo` and `OnReset` for `EHLO`, then
those of the message. `NewClient` returns a client; `SendMail` on its connection returns `nil` exactly when the reply
that ends the message is `250`, and otherwise that reply. After `Close`, the client has read every byte the session
wrote and written every byte the session read. -/
theorem connection_delivers (srv : Server) (hs : srv.Sendable) (hsub : srv.submissionMode = false)
    (oe om od oq : Outcomes) (ors : List Outcomes) (localName fromAddr : Bytes) (m : Mailbox) (ts : List Bytes)
    (ms : List Mailbox) (ps : List Bytes) (after later : Bytes) (e : ReadErr) (c : Conn)
    (hname : localName ≠ [] ∧ Byte.lf ∉ localName ∧ Byte.nul ∉ localName ∧ localName.length ≤ 505)
    (hoe : oe.shutdown = false ∧ (srv.heloHandler = true → oe.helo = none))
    (hfrom : ReadsAs fromAddr m) (hts : List.Forall₂ ReadsAs ts ms) (hne : ts ≠ [])
    (hcap : (ts.length : Int) ≤ srv.maxRecipients) (hom : om.shutdown = false ∧ om.mail = none)
    (hlen : ors.length = ts.length) (hors : ∀ o ∈ ors, o.shutdown = false ∧ o.rcpt = none)
    (hod : od.shutdown = false) (hd : ∀ err, od.data = some err → err.Sendable) (hoq : oq.shutdown = false)
    (hc : c.r.bytes = (handleConn srv none (oe :: om :: ors ++ [od, oq])
      ⟨connectionWrites localName fromAddr ts ps ++ after, e⟩).1.out ++ later) :
    (handleConn srv none (oe :: om :: ors ++ [od, oq]) ⟨connectionWrites localName fromAddr ts ps ++ after, e⟩).2 =
      .close ∧
    (handleConn srv none (oe :: om :: ors ++ [od, oq]) ⟨connectionWrites localName fromAddr ts ps ++ after, e⟩).1.r =
      ⟨after, e⟩ ∧
    (handleConn srv none (oe :: om :: ors ++ [od, oq])
      ⟨connectionWrites localName fromAddr ts ps ++ after, e⟩).1.calls =
      (if srv.heloHandler then [.helo localName] else []) ++ (if srv.resetHandler then [.reset] else []) ++
      (if srv.mailHandler then [.mail { mailbox := m }] else []) ++
      (if srv.rcptHandler then ms.map fun m => .rcpt ⟨m⟩ else []) ++
      (if srv.dataHandler then [.data { mailbox := m } (ms.map (⟨·⟩)) (canonicalBody ps)] else []) ++
      (if srv.resetHandler then [.reset] else []) ∧
    ∃ cl : Client, newClient localName c = .ok cl ∧
      (Client.sendMail fromAddr ts ⟨ps, false⟩ cl.conn).1 =
        (if (messageReply (if srv.dataHandler then od.data else none)).code ≠ replyOK then
          some (.data (.reply (replyToError (messageReply (if srv.dataHandler then od.data else none))))) else none) ∧
      Client.close (Client.sendMail fromAddr ts ⟨ps, false⟩ cl.conn).2 =
        ⟨⟨later, c.r.err⟩, c.out ++ connectionWrites localName fromAddr ts ps⟩ := by
  obtain ⟨hnm, hl, hn, hnlen⟩ := hname
  -- the greeting and `EHLO`
  set w0 : World :=
    ⟨newSession, ⟨sendMailWrites fromAddr ts ps ++ (ascii "QUIT" ++ crlf ++ after), e⟩, writeReplies [greeting srv], []⟩
  set w1 := handleEHLO srv oe localName w0
  obtain ⟨h1, h2, h3, h4⟩ := handleEHLO_accepts srv oe localName w0 hnm hoe.2
  have hconn : handleConn srv none (oe :: om :: ors ++ [od, oq]) ⟨connectionWrites localName fromAddr ts ps ++ after, e⟩ =
      run srv ((om :: ors ++ [od]) ++ [oq]) w1 := by
    rw [show connectionWrites localName fromAddr ts ps ++ after =
        ascii "EHLO " ++ localName ++ crlf ++ (sendMailWrites fromAddr ts ps ++ (ascii "QUIT" ++ crlf ++ after)) by
      simp only [connectionWrites, List.append_assoc], List.cons_append,
      handleConn_ehlo srv oe _ localName _ e hoe.1 hl hn hnlen,
      show (om :: ors ++ [od]) ++ [oq] = om :: ors ++ [od, oq] by simp]
  -- the message
  obtain ⟨g1, g2, g3, g4, g5⟩ := run_sendMail srv om od ors w1 fromAddr m ts ms ps (ascii "QUIT" ++ crlf ++ after) e
    hfrom hts hne hcap (by rw [h2]) (by simp [hsub]) hom hlen hors hod h3
  -- `QUIT`
  have hrun : handleConn srv none (oe :: om :: ors ++ [od, oq])
      ⟨connectionWrites localName fromAddr ts ps ++ after, e⟩ =
      ({ (run srv (om :: ors ++ [od]) w1).1 with
        r := ⟨after, e⟩, out := (run srv (om :: ors ++ [od]) w1).1.out ++ writeReplies [closingReply srv] }, .close) := by
    rw [hconn, run_append_of_next srv [oq] _ w1 _ (Prod.ext rfl g5), run, step_quit srv oq _ after e hoq g4]
  rw [hrun]
  refine ⟨rfl, rfl, by rw [g2, h4]; simp [List.append_assoc], ?_⟩
  -- the client
  rw [hrun, g1, h1] at hc
  have hcl := newClient_accepted localName c (greeting srv) (ehloLines srv newSession localName)
    (writeReplies (originatorOk :: ts.map (fun _ => recipientOk) ++
      [startReply, messageReply (if srv.dataHandler then od.data else none)]) ++ (writeReplies [closingReply srv] ++ later))
    (greeting_readable srv hs) rfl (ehloLines_final hs ⟨hl, by omega⟩ newSession).1
    (by rw [hc]; simp only [w0, writeReplies_cons, writeReplies_nil, List.append_nil, List.append_assoc])
  refine ⟨_, hcl, ?_⟩
  rw [sendMail_client fromAddr ts ps _ _ _ (messageReply_ite_readable srv.dataHandler hd) rfl,
    close_client _ (closingReply srv) later (closingReply_readable srv hs) rfl]
  simp [connectionWrites, List.append_assoc]

/-- A server with every handler and a client named `me`, one recipient: the message is delivered and the connection
ends at `QUIT` with every byte read on both sides. -/
theorem connection_delivers_hi :
    let srv : Server := { newServer with
      heloHandler := true, mailHandler := true, rcptHandler := true, dataHandler := true, resetHandler := true }
    let res := handleConn srv none [{}, {}, {}, {}, {}]
      ⟨connectionWrites (ascii "me") (ascii "a@b.c") [ascii "d@e.f"] [ascii "hi"], .eof⟩
    res.2 = .close ∧ res.1.r = ⟨[], .eof⟩ ∧
    ∃ cl : Client, newClient (ascii "me") ⟨⟨res.1.out, .eof⟩, []⟩ = .ok cl ∧
      (Client.sendMail (ascii "a@b.c") [ascii "d@e.f"] ⟨[ascii "hi"], false⟩ cl.conn).1 = none ∧
      (Client.close (Client.sendMail (ascii "a@b.c") [ascii "d@e.f"] ⟨[ascii "hi"], false⟩ cl.conn).2).r =
        ⟨[], .eof⟩ :=
  have h := connection_delivers
    { newServer with
      heloHandler := true, mailHandler := true, rcptHandler := true, dataHandler := true, resetHandler := true }
    ⟨by decide, by decide, by decide⟩ rfl {} {} {} {} [{}] (ascii "me") (ascii "a@b.c") ⟨ascii "a", ascii "b.c"⟩
    [ascii "d@e.f"] [⟨ascii "d", ascii "e.f"⟩] [ascii "hi"] [] [] .eof
    ⟨⟨(handleConn { newServer with
      heloHandler := true, mailHandler := true, rcptHandler := true, dataHandler := true, resetHandler := true } none
      [{}, {}, {}, {}, {}] ⟨connectionWrites (ascii "me") (ascii "a@b.c") [ascii "d@e.f"] [ascii "hi"] ++ [], .eof⟩).1.out,
      .eof⟩, []⟩
    ⟨by decide, by decide, by decide, by decide⟩ ⟨rfl, fun _ => rfl⟩ ⟨by decide, by decide, by decide, by decide, by decide⟩
    (.cons ⟨by decide, by decide, by decide, by decide, by decide⟩ .nil) (by simp) (by decide) ⟨rfl, rfl⟩ rfl
    (by simp) rfl nofun rfl (List.append_nil _).symm
  let ⟨h1, h2, _, cl, h4, h5, h6⟩ := h
  ⟨by simpa using h1, by simpa using h2, cl, by simpa using h4, h5.trans (by decide), by rw [h6]⟩

end Smtp
