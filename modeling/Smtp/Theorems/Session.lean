import Smtp.Lemmas.Session

/-!
# The session between two commands

Every session the command loop reaches keeps the invariant of the transaction (`reachable_session_invariant`): each
turn of the loop is a move of `Trans` (`Lemmas/Session.lean`), and each move keeps `Inv` (`Trans.inv`).

Three runs on fixed inputs show what the invariant leaves open. A `DATA` after an accepted `BDAT` chunk delivers the
`DATA` body alone and the reset drops the chunk (`data_after_bdat_drops_chunks`). `STARTTLS` keeps `authenticated`
and `invalidCmds` (`starttls_keeps_authentication`). No `BDAT` size is compared with `maxMessageSize`, and a size
beyond what the runtime allocates panics (`bdat_size_unchecked`).
-/

namespace Smtp
open SessionAux

/-- The session state invariant: in every session the command loop reaches between two commands, the state is not
`stateData`; before a `MAIL` there is no transaction; after it, no recipient and no chunk until a `RCPT`; after a
`RCPT`, between one and `maxRecipients` recipients; chunks only in `stateRcpt`; and in submission mode a transaction
only once authenticated. -/
theorem reachable_session_invariant {srv : Server} {w : World} (h : Reachable srv w) : Inv srv w.s := by
  induction h with
  | start oc r _ => rw [greet_s]; exact newSession_inv srv
  | step o _ _ ih => exact (step_trans srv o _ ih.notData).inv ih

/-- A session after its greeting and an `EHLO`. -/
theorem reachable_session_invariant_ehlo :
    Reachable newServer (step newServer {} (greet newServer none ⟨ascii "EHLO x\r\n", .eof⟩).1).1 ∧
      Inv newServer (step newServer {} (greet newServer none ⟨ascii "EHLO x\r\n", .eof⟩).1).1.s :=
  have h : Reachable newServer _ := .step {} (.start none ⟨ascii "EHLO x\r\n", .eof⟩ rfl) (by decide)
  ⟨h, reachable_session_invariant h⟩

/-! ## Runs on fixed inputs -/

set_option maxRecDepth 4000 in
/-- `BDAT 3` is answered `250`, then `DATA` delivers its own body alone: the three bytes of the chunk are dropped by the
reset that ends the message. -/
theorem data_after_bdat_drops_chunks :
    (handleConn { newServer with dataHandler := true } none (List.replicate 6 {})
      ⟨ascii "HELO x\r\nMAIL FROM:<a@b.c>\r\nRCPT TO:<d@e.f>\r\nBDAT 3\r\nabcDATA\r\nhi\r\n.\r\n", .eof⟩).1.calls =
      [.data { mailbox := ⟨ascii "a", ascii "b.c"⟩ } [⟨⟨ascii "d", ascii "e.f"⟩⟩] (ascii "hi\r\n")] ∧
    (handleConn { newServer with dataHandler := true } none (List.replicate 6 {})
      ⟨ascii "HELO x\r\nMAIL FROM:<a@b.c>\r\nRCPT TO:<d@e.f>\r\nBDAT 3\r\nabcDATA\r\nhi\r\n.\r\n", .eof⟩).1.out =
      ascii "220 localhost ESMTP ready\r\n250 2.0.0 localhost Hello x\r\n250 2.1.0 Originator ok\r\n" ++
        ascii "250 2.1.5 Recipient ok\r\n250 2.0.0 3 bytes received\r\n" ++
        ascii "354 Start mail input; end with <CRLF>.<CRLF>\r\n250 2.0.0 Message accepted\r\n" := by
  decide

/-- In submission mode, a client that authenticated in plaintext and then upgraded with `STARTTLS` has its `MAIL`
accepted, where a session that starts on TLS answers the same commands with `530`. -/
theorem starttls_keeps_authentication :
    let srv : Server := { newServer with tlsConfig := true, authHandler := true, submissionMode := true }
    let c : BufReader := ⟨ascii "HELO y\r\nMAIL FROM:<a@b.c>\r\n", .eof⟩
    let h := (run srv [{}, {}, { handshake := some c }]
      (greet srv none ⟨ascii "HELO x\r\nAUTH PLAIN AHUAcA==\r\nSTARTTLS\r\n", .eof⟩).1).1
    (run srv [{}, {}] h).1.out.drop h.out.length =
        ascii "250 2.0.0 localhost Hello y\r\n250 2.1.0 Originator ok\r\n" ∧
      (run srv [{}, {}] ⟨{ newSession with tls := true }, c, [], []⟩).1.out =
        ascii "250 2.0.0 localhost Hello y\r\n530 5.7.0 Authentication required\r\n" := by
  decide

/-- With `maxMessageSize` 4, `BDAT 5 LAST` delivers a body of five bytes; and `BDAT 9223372036854775807` makes the
session panic at `make([]byte, size)`. -/
theorem bdat_size_unchecked :
    let srv : Server := { newServer with maxMessageSize := 4, dataHandler := true }
    (handleConn srv none (List.replicate 4 {})
      ⟨ascii "HELO x\r\nMAIL FROM:<a@b.c>\r\nRCPT TO:<d@e.f>\r\nBDAT 5 LAST\r\nabcde", .eof⟩).1.calls =
        [.data { mailbox := ⟨ascii "a", ascii "b.c"⟩ } [⟨⟨ascii "d", ascii "e.f"⟩⟩] (ascii "abcde")] ∧
      (handleConn srv none (List.replicate 4 {})
        ⟨ascii "HELO x\r\nMAIL FROM:<a@b.c>\r\nRCPT TO:<d@e.f>\r\nBDAT 9223372036854775807\r\n", .eof⟩).2 = .crash := by
  decide

end Smtp
