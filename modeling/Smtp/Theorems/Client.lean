import Smtp.Client
import Smtp.Lemmas.Replies
import Smtp.Lemmas.Dot

/-!
# `DATA` between the client and the server

`Client.Data` against the turn of the server's command loop that reads its `DATA` line: the server reads exactly the
bytes `Data` writes, answers `354`, hands `OnData` the body the client's reader gave, canonicalized, and ends the
message with `250` or the reply to `OnData`'s error. When the reader does not fail, `Data` reads both replies and returns
`nil` exactly when the second is `250` (`data_succeeds_iff_accepted`).

When the reader fails, `Data` still closes the `dotWriter`, which writes the terminator: the server takes the bytes
read before the failure as the whole message and accepts it, while `Data` returns the reader's error without reading
the server's reply, which the next command's `ReadReply` reads instead of its own (`data_error_leaves_reply_unread`).
-/

namespace Smtp

/-- The body a `dotReader` reads back for what `dotWriter` was given: the bytes, with `\r\n` added when they are not
empty and do not end a line. -/
def canonicalBody (ps : List Bytes) : Bytes :=
  ps.flatten ++ (if ps.flatten ≠ [] ∧ ps.flatten.getLast? ≠ some Byte.lf then crlf else [])

/-- The `354` that asks for the body. -/
def startReply : Reply := lineReply replyStartMailInput .zero (ascii "Start mail input; end with <CRLF>.<CRLF>")

/-- The reply to `DATA` or `BDAT` before any recipient: `503 5.5.1 Send RCPT first`. -/
def sendRcptFirst : Reply := lineReply replyBadSequence enhancedCodeInvalidCommand (ascii "Send RCPT first")

/-- The reply that ends a message, for the error `OnData` returns: `250`, or the reply to the error. -/
def messageReply : Option HandlerErr → Reply
  | none => lineReply replyOK enhancedCodeOK (ascii "Message accepted")
  | some (.smtp e) => lineReply e.code e.enhancedCode e.message
  | some .other => lineReply internalError.1 internalError.2.1 internalError.2.2

namespace ClientAux
open ConnAux DotAux ReplyAux RepliesAux

/-! ## The server's turn -/

/-- `OnData` reads, from what `dotWriter` wrote, the canonical body, and the reader is left right after the
terminator. -/
theorem dataBody_dotWrite (ps : List Bytes) (R : Bytes) (e : ReadErr) :
    dataBody ⟨(dotWrite ps).out ++ R, e⟩ = (canonicalBody ps, ⟨R, e⟩) := by
  obtain ⟨hrun, -⟩ := specRun_dotWrite ps R
  have h := (read_unbounded ⟨(dotWrite ps).out ++ R, e⟩ _ (Nat.lt_succ_self _)).2.1 R (by rw [hrun])
  have hb : ps.flatten ++ (if endsLine true ps.flatten then [] else crlf) = canonicalBody ps := by
    unfold canonicalBody
    by_cases hc : ps.flatten ≠ [] ∧ ps.flatten.getLast? ≠ some Byte.lf
    · rw [if_pos hc, if_neg (mt (endsLine_true _).1 (not_not.2 hc))]
    · rw [if_neg hc, if_pos ((endsLine_true _).2 hc)]
  simp only [dataBody, h, hrun, hb]

/-- The end of a message writes `messageReply`, calls `OnReset` if it is set, and reads nothing. -/
theorem finishMessage_fields (srv : Server) (w : World) (err : Option HandlerErr) :
    (finishMessage srv (w, err)).out = w.out ++ writeReplies [messageReply err] ∧
    (finishMessage srv (w, err)).calls = w.calls ++ (if srv.resetHandler then [.reset] else []) ∧
    (finishMessage srv (w, err)).r = w.r := by
  rcases err with _ | _ | _ <;> simp [finishMessage, World.replyErr, World.reply, World.setS, messageReply, lineReply]

theorem finishMessage_invoke (srv : Server) (w : World) (b : Bool) (c : Call) (err : Option HandlerErr) :
    (finishMessage srv (w.invoke b c err)).out = w.out ++ writeReplies [messageReply (if b then err else none)] ∧
    (finishMessage srv (w.invoke b c err)).calls =
      w.calls ++ (if b then [c] else []) ++ (if srv.resetHandler then [.reset] else []) ∧
    (finishMessage srv (w.invoke b c err)).r = w.r := by
  cases b
  · simpa [World.invoke] using finishMessage_fields srv w none
  · simpa [World.invoke, World.call] using finishMessage_fields srv (w.call c) err

/-- The turn that reads a `DATA` line runs `handleDATA` on what follows it. -/
theorem step_dataLine (srv : Server) (o : Outcomes) (w : World) (after : Bytes) (e : ReadErr) (hsd : o.shutdown = false)
    (hw : w.r = ⟨ascii "DATA\r\n" ++ after, e⟩) : step srv o w = (handleDATA srv o { w with r := ⟨after, e⟩ }, .next) := by
  have hl : readLine maxCommandLineLen w.r = (.ok (ascii "DATA"), ⟨after, e⟩) := by
    rw [hw, show ascii "DATA\r\n" = ascii "DATA" ++ crlf from rfl]
    exact readLine_line _ _ _ _ (by decide) (by decide) (by decide)
  rw [step, if_neg (by simp [hsd]), hl]
  rfl

/-- The turn that reads `DATA` in `stateRcpt`, followed by what `dotWriter` wrote: `354`, `OnData` with the canonical
body, the reply that ends the message, and the reader right after the terminator. -/
theorem step_data (srv : Server) (o : Outcomes) (w : World) (ps : List Bytes) (after : Bytes) (e : ReadErr)
    (hst : w.s.state = .rcpt) (hsd : o.shutdown = false)
    (hw : w.r = ⟨ascii "DATA\r\n" ++ (dotWrite ps).out ++ after, e⟩) :
    (step srv o w).1.out =
      w.out ++ writeReplies [startReply, messageReply (if srv.dataHandler then o.data else none)] ∧
    (step srv o w).1.calls = w.calls ++
      (if srv.dataHandler then [.data w.s.reversePath w.s.forwardPaths (canonicalBody ps)] else []) ++
      (if srv.resetHandler then [.reset] else []) ∧
    (step srv o w).1.r = ⟨after, e⟩ ∧ (step srv o w).2 = .next := by
  have hstep := step_dataLine srv o w ((dotWrite ps).out ++ after) e hsd (by rw [hw, List.append_assoc])
  have hrank : ¬({ w with r := ⟨(dotWrite ps).out ++ after, e⟩ } : World).s.state.rank < SessionState.rcpt.rank := by
    simp [hst, SessionState.rank]
  rw [hstep]
  refine ⟨?_, ?_, ?_, rfl⟩ <;>
    simp only [handleDATA, hrank, if_false, World.reply, World.setS, dataBody_dotWrite, (finishMessage_invoke ..).1,
      (finishMessage_invoke ..).2.1, (finishMessage_invoke ..).2.2]
  simp [startReply, lineReply]

theorem messageReply_readable {err : Option HandlerErr} (h : ∀ e, err = some e → e.Sendable) :
    (messageReply err).Readable := by
  rcases err with _ | _ | _
  · decide
  · exact (final_of_sendable (h _ rfl)).1
  · exact internalError_final.1

/-- The reply that ends a message when `OnData` is called only if it is set. -/
theorem messageReply_ite_readable (b : Bool) {err : Option HandlerErr} (h : ∀ e, err = some e → e.Sendable) :
    (messageReply (if b then err else none)).Readable :=
  messageReply_readable fun e he => by
    split at he
    · exact h e he
    · nomatch he

/-! ## The client -/

theorem cmd_eq (c : Conn) (line : Bytes) :
    c.cmd line = ((readReply c.r).1, ⟨(readReply c.r).2, c.out ++ line ++ crlf⟩) := rfl

theorem ioCopy_open : ∀ (ps : List Bytes) (d : DotWriter), d.closed = false → ∀ f : Bool,
    ioCopy d ps f = (ps.foldl (fun w p => (w.write p).1) d, f)
  | [], _, _, _ => rfl
  | p :: ps, d, hd, f => by
    have hw : d.write p = ({ d with out := d.out ++ stuff d.beginLine p, beginLine := endsLine d.beginLine p },
        p.length, none) := by
      simp [DotWriter.write, hd, foldl_writeByte]
    rw [ioCopy, hw, List.foldl_cons, hw]
    exact ioCopy_open ps { d with out := d.out ++ stuff d.beginLine p, beginLine := endsLine d.beginLine p } hd f

theorem readReply_readable {r : Reply} (hr : r.Readable) (R : Bytes) (e : ReadErr) :
    readReply ⟨writeReplies [r] ++ R, e⟩ = (.ok r, ⟨R, e⟩) := by
  have h := readReply_writeReply r.code r.lines R e hr.1 hr.2.1 hr.2.2.2
  rw [if_neg hr.2.2.1] at h
  simpa using h

/-- `Data` against `354` and a readable reply `f`: it writes `DATA` and what `dotWriter` writes for the body; when the
body's reader fails it returns its error with `f` unread, else it reads `f` and returns `nil` exactly when it is
`250`. -/
theorem data_client (b : Body) (c : Conn) (f : Reply) (later : Bytes) (hf : f.Readable)
    (hc : c.r.bytes = writeReplies [startReply, f] ++ later) :
    Client.data b c = if b.fails then
        (some .body, ⟨⟨writeReplies [f] ++ later, c.r.err⟩, c.out ++ ascii "DATA\r\n" ++ (dotWrite b.chunks).out⟩)
      else (if f.code ≠ replyOK then some (.reply (replyToError f)) else none,
        ⟨⟨later, c.r.err⟩, c.out ++ ascii "DATA\r\n" ++ (dotWrite b.chunks).out⟩) := by
  have hr : c.r = ⟨writeReplies [startReply] ++ (writeReplies [f] ++ later), c.r.err⟩ := by
    rw [← List.append_assoc, ← writeReplies_append]; exact hc ▸ rfl
  have h1 := readReply_readable (by decide : startReply.Readable) (writeReplies [f] ++ later) c.r.err
  rw [← hr] at h1
  have hout : c.out ++ ascii "DATA" ++ crlf ++ (dotWrite b.chunks).out =
      c.out ++ ascii "DATA\r\n" ++ (dotWrite b.chunks).out := by
    simp only [List.append_assoc]; rfl
  rw [Client.data, cmd_eq, h1]
  dsimp only
  rw [if_neg (show ¬(startReply.code ≠ replyStartMailInput) from not_not.2 rfl), ioCopy_open _ _ rfl]
  cases b.fails
  · rw [if_neg Bool.false_ne_true]
    dsimp only
    rw [readReply_readable hf, ← hout]
    rfl
  · rw [← hout]; rfl

/-- The turn that reads `DATA` before any recipient answers `503` and reads nothing more. -/
theorem step_data_early (srv : Server) (o : Outcomes) (w : World) (after : Bytes) (e : ReadErr)
    (hsd : o.shutdown = false) (hst : w.s.state.rank < SessionState.rcpt.rank)
    (hw : w.r = ⟨ascii "DATA\r\n" ++ after, e⟩) :
    step srv o w = ({ w with r := ⟨after, e⟩, out := w.out ++ writeReplies [sendRcptFirst] }, .next) := by
  rw [step_dataLine srv o w after e hsd hw, handleDATA, if_pos hst]
  simp [World.reply, sendRcptFirst, lineReply]

end ClientAux

open ClientAux RepliesAux ConnAux

/-- `Client.Data` with a body reader that fails after any chunks, against the turn of the server that reads what it
writes, in `stateRcpt`, whatever `OnData` returns. The server reads `DATA` and the body up to the terminator, which
`Data` writes when it closes the `dotWriter` after the failure: it answers `354`, hands `OnData` the chunks read before
the failure as the whole canonical body, and ends the message (with `250` when `OnData` accepts). `Data` returns the
reader's error and leaves that reply unread, so the `ReadReply` of the client's next command, whatever it is, returns
it. -/
theorem data_error_leaves_reply_unread (srv : Server) (o : Outcomes) (w : World) (ps : List Bytes)
    (after later : Bytes) (e : ReadErr) (c : Conn) (hst : w.s.state = .rcpt) (hsd : o.shutdown = false)
    (hd : ∀ err, o.data = some err → err.Sendable)
    (hw : w.r = ⟨ascii "DATA\r\n" ++ (dotWrite ps).out ++ after, e⟩)
    (hc : c.r.bytes = writeReplies [startReply, messageReply (if srv.dataHandler then o.data else none)] ++ later) :
    (step srv o w).1.out =
      w.out ++ writeReplies [startReply, messageReply (if srv.dataHandler then o.data else none)] ∧
    (step srv o w).1.calls = w.calls ++
      (if srv.dataHandler then [.data w.s.reversePath w.s.forwardPaths (canonicalBody ps)] else []) ++
      (if srv.resetHandler then [.reset] else []) ∧
    (step srv o w).1.r = ⟨after, e⟩ ∧ (step srv o w).2 = .next ∧
    Client.data ⟨ps, true⟩ c =
      (some .body, ⟨⟨writeReplies [messageReply (if srv.dataHandler then o.data else none)] ++ later, c.r.err⟩,
        c.out ++ ascii "DATA\r\n" ++ (dotWrite ps).out⟩) ∧
    ∀ line, ((Client.data ⟨ps, true⟩ c).2.cmd line).1 = .ok (messageReply (if srv.dataHandler then o.data else none)) := by
  have hf := messageReply_ite_readable srv.dataHandler hd
  have hdata := data_client ⟨ps, true⟩ c _ later hf hc
  simp only [if_true] at hdata
  obtain ⟨h1, h2, h3, h4⟩ := step_data srv o w ps after e hst hsd hw
  refine ⟨h1, h2, h3, h4, hdata, fun line => ?_⟩
  simp only [hdata, cmd_eq, readReply_readable hf]

/-- The body's reader returns `ab`, then fails; `OnData` accepts. The server hands it `ab\r\n` as the whole message,
`Data` returns the reader's error, and the client's `QUIT` reads `250 2.0.0 Message accepted` as its reply. -/
theorem data_error_leaves_reply_unread_ab :
    (step { newServer with dataHandler := true } {}
        ⟨{ newSession with state := .rcpt }, ⟨ascii "DATA\r\n" ++ (dotWrite [ascii "ab"]).out ++ ascii "QUIT\r\n", .eof⟩,
          [], []⟩).1.calls = [.data {} [] (ascii "ab\r\n")] ∧
    (Client.data ⟨[ascii "ab"], true⟩ ⟨⟨writeReplies [startReply, messageReply none], .eof⟩, []⟩).1 = some .body ∧
    ((Client.data ⟨[ascii "ab"], true⟩ ⟨⟨writeReplies [startReply, messageReply none], .eof⟩, []⟩).2.cmd
        (ascii "QUIT")).1 = .ok ⟨250, [ascii "2.0.0 Message accepted"]⟩ :=
  have h := data_error_leaves_reply_unread { newServer with dataHandler := true } {}
    ⟨{ newSession with state := .rcpt }, ⟨ascii "DATA\r\n" ++ (dotWrite [ascii "ab"]).out ++ ascii "QUIT\r\n", .eof⟩, [], []⟩
    [ascii "ab"] (ascii "QUIT\r\n") [] .eof ⟨⟨writeReplies [startReply, messageReply none], .eof⟩, []⟩ rfl rfl nofun
    rfl (by simp)
  ⟨h.2.1.trans (by decide), congrArg Prod.fst h.2.2.2.2.1, h.2.2.2.2.2 _⟩

/-- `Client.Data` with a body reader that does not fail, against the turn of the server that reads what it writes, in
`stateRcpt`, whatever `OnData` returns. The server hands `OnData` the whole canonical body; `Data` reads the `354` and the
reply that ends the message, leaves nothing of the server's unread, and returns `nil` exactly when that reply is
`250`. -/
theorem data_succeeds_iff_accepted (srv : Server) (o : Outcomes) (w : World) (ps : List Bytes)
    (after later : Bytes) (e : ReadErr) (c : Conn) (hst : w.s.state = .rcpt) (hsd : o.shutdown = false)
    (hd : ∀ err, o.data = some err → err.Sendable)
    (hw : w.r = ⟨ascii "DATA\r\n" ++ (dotWrite ps).out ++ after, e⟩)
    (hc : c.r.bytes = writeReplies [startReply, messageReply (if srv.dataHandler then o.data else none)] ++ later) :
    (step srv o w).1.out =
      w.out ++ writeReplies [startReply, messageReply (if srv.dataHandler then o.data else none)] ∧
    (step srv o w).1.calls = w.calls ++
      (if srv.dataHandler then [.data w.s.reversePath w.s.forwardPaths (canonicalBody ps)] else []) ++
      (if srv.resetHandler then [.reset] else []) ∧
    (step srv o w).1.r = ⟨after, e⟩ ∧ (step srv o w).2 = .next ∧
    (Client.data ⟨ps, false⟩ c).2 = ⟨⟨later, c.r.err⟩, c.out ++ ascii "DATA\r\n" ++ (dotWrite ps).out⟩ ∧
    ((Client.data ⟨ps, false⟩ c).1 = none ↔
      (messageReply (if srv.dataHandler then o.data else none)).code = replyOK) := by
  have hf := messageReply_ite_readable srv.dataHandler hd
  have hdata := data_client ⟨ps, false⟩ c _ later hf hc
  simp only [Bool.false_eq_true, if_false] at hdata
  obtain ⟨h1, h2, h3, h4⟩ := step_data srv o w ps after e hst hsd hw
  refine ⟨h1, h2, h3, h4, by rw [hdata], ?_⟩
  rw [hdata]
  by_cases hok : (messageReply (if srv.dataHandler then o.data else none)).code = replyOK <;> simp [hok]

/-- The body `ab` read in full, and `OnData` accepts: `Data` returns `nil`. -/
theorem data_succeeds_iff_accepted_ab :
    (Client.data ⟨[ascii "ab"], false⟩ ⟨⟨writeReplies [startReply, messageReply none], .eof⟩, []⟩).1 = none :=
  (data_succeeds_iff_accepted { newServer with dataHandler := true } {}
    ⟨{ newSession with state := .rcpt }, ⟨ascii "DATA\r\n" ++ (dotWrite [ascii "ab"]).out, .eof⟩, [], []⟩
    [ascii "ab"] [] [] .eof ⟨⟨writeReplies [startReply, messageReply none], .eof⟩, []⟩ rfl rfl nofun
    (by simp) (by simp)).2.2.2.2.2.2 rfl

end Smtp
