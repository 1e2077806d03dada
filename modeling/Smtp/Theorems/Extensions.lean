import Smtp.Theorems.Rejections

/-!
# What the client learns from `EHLO`

`NewClient` reads the greeting, which has to be `220`, and sends `EHLO`. The session answers with the lines of
`ehloLines`: its name, then one extension per line, and `ParseEHLOResponse` turns the lines after the first into the
client's `Extensions`, keyword before the first space, parameters after it. Against `handleConn`, each side reading what
the other writes, `NewClient` returns a client that has `STARTTLS` exactly when the server has a TLS configuration and
`AUTH`, with `PLAIN LOGIN CRAM-MD5`, exactly when it has an `AuthHandler`; it always has the six extensions the session
lists whatever its configuration, and its `ServerMaxSize` is the server's `maxMessageSize` when that is positive and
`0` otherwise (`newClient_learns_extensions`).

The list the client reads back is `advertised`, stated once from `ehloLines` (`parseEHLOResponse_ehloLines`); each
property is then a short computation on it.
-/

namespace Smtp

/-- The extensions of the session's `EHLO` reply, in its order: `SIZE` when `maxMessageSize` is positive, six
extensions always, `STARTTLS` while the session may start TLS, and `AUTH` while it may authenticate. -/
def advertised (srv : Server) (s : Session) : List (Bytes × Bytes) :=
  (if srv.maxMessageSize > 0 then [(ascii "SIZE", formatInt srv.maxMessageSize)] else []) ++
    [(ascii "PIPELINING", []), (ascii "8BITMIME", []), (ascii "ENHANCEDSTATUSCODES", []), (ascii "DSN", []),
      (ascii "SMTPUTF8", []), (ascii "CHUNKING", [])] ++
    (if srv.tlsConfig ∧ ¬s.tls then [(ascii "STARTTLS", [])] else []) ++
    (if srv.authHandler ∧ ¬s.authenticated then [(ascii "AUTH", ascii "PLAIN LOGIN CRAM-MD5")] else [])

/-- `220 Ready to start TLS`, the session's answer to `STARTTLS` before the handshake. -/
def readyToStartTLS : Reply := lineReply replyServiceReady .zero (ascii "Ready to start TLS")

/-- The greeting of `handleConn`: `220 <hostname> ESMTP ready`. -/
def greeting (srv : Server) : Reply := ⟨replyServiceReady, [srv.hostname ++ ascii " ESMTP ready"]⟩

namespace ExtensionsAux
open ConnAux StringsAux ClientAux RepliesAux RejectionsAux

variable (srv : Server) (s : Session)

/-! ## The extensions the client reads back -/

/-- `ParseEHLOResponse` reads back, from the session's `EHLO` lines, the list `advertised`. -/
theorem parseEHLOResponse_ehloLines (args : Bytes) : parseEHLOResponse (ehloLines srv s args) = advertised srv s := by
  have hsize : (toUpper (cut Byte.sp (ascii "SIZE " ++ formatInt srv.maxMessageSize)).1,
      (cut Byte.sp (ascii "SIZE " ++ formatInt srv.maxMessageSize)).2.1) = (ascii "SIZE", formatInt srv.maxMessageSize) := by
    rw [show ascii "SIZE " ++ formatInt srv.maxMessageSize = ascii "SIZE" ++ Byte.sp :: formatInt srv.maxMessageSize
      from rfl, cut_append _ _ _ (by decide)]
    rfl
  unfold parseEHLOResponse ehloLines advertised
  split_ifs <;> simp only [List.append_assoc, List.singleton_append, List.drop_one, List.tail_cons, List.map_cons,
    List.map_append, List.map_nil, List.nil_append, List.cons_append, hsize] <;> rfl

theorem advertised_has_starttls :
    Extensions.has (advertised srv s) (ascii "STARTTLS") = decide (srv.tlsConfig ∧ ¬s.tls) := by
  unfold advertised
  by_cases h : srv.tlsConfig ∧ ¬s.tls
  · rw [if_pos h, decide_eq_true h]; split_ifs <;> rfl
  · rw [if_neg h, decide_eq_false h]; split_ifs <;> rfl

theorem advertised_has_auth : Extensions.has (advertised srv s) (ascii "AUTH") = decide (srv.authHandler ∧ ¬s.authenticated) := by
  unfold advertised
  by_cases h : srv.authHandler ∧ ¬s.authenticated
  · rw [if_pos h, decide_eq_true h]; split_ifs <;> rfl
  · rw [if_neg h, decide_eq_false h]; split_ifs <;> rfl

theorem advertised_param_auth :
    Extensions.param (advertised srv s) (ascii "AUTH") =
      if srv.authHandler ∧ ¬s.authenticated then ascii "PLAIN LOGIN CRAM-MD5" else [] := by
  unfold advertised
  split_ifs <;> rfl

theorem advertised_param_size :
    Extensions.param (advertised srv s) (ascii "SIZE") = if srv.maxMessageSize > 0 then formatInt srv.maxMessageSize else [] := by
  unfold advertised
  split_ifs <;> rfl

/-- The six extensions the session lists whatever its configuration. -/
theorem advertised_has_fixed (ext : Bytes)
    (h : ext ∈ [ascii "PIPELINING", ascii "8BITMIME", ascii "ENHANCEDSTATUSCODES", ascii "DSN", ascii "SMTPUTF8",
      ascii "CHUNKING"]) : Extensions.has (advertised srv s) ext := by
  have hf : List.any [(ascii "PIPELINING", ([] : Bytes)), (ascii "8BITMIME", []), (ascii "ENHANCEDSTATUSCODES", []),
      (ascii "DSN", []), (ascii "SMTPUTF8", []), (ascii "CHUNKING", [])] (·.1 = ext) = true := by
    simp only [List.mem_cons, List.mem_singleton, List.not_mem_nil, or_false] at h
    rcases h with rfl | rfl | rfl | rfl | rfl | rfl <;> rfl
  simp only [advertised, Extensions.has, List.any_append, hf, Bool.or_true, Bool.true_or]

/-- `ServerMaxSize` of a client with these extensions: `maxMessageSize` when it is positive, else `0`. -/
theorem serverMaxSize_advertised (hs : srv.Sendable) (c : Conn) (localName : Bytes) (tls : Bool) :
    Client.serverMaxSize ⟨c, localName, some (advertised srv s), tls⟩ = max srv.maxMessageSize 0 := by
  have hlt := hs.maxMessageSize
  rw [Client.serverMaxSize]
  dsimp only
  rw [advertised_param_size]
  by_cases h1 : srv.maxMessageSize > 0
  · obtain ⟨n, hn⟩ := Int.eq_ofNat_of_zero_le (Int.le_of_lt h1)
    have hne : formatInt srv.maxMessageSize ≠ [] := fun h => by
      have h' := parseInt_formatInt_int64 _ (by omega) hlt
      simp [h, parseInt] at h'
    rw [if_pos h1, if_neg hne, hn, formatInt_natCast, sscanInt_decimal n (by omega), Option.getD_some]
    omega
  · rw [if_neg h1, if_pos rfl]
    omega

/-! ## The two ends -/

/-- `handleEHLO` with a name, when `OnHelo` returns `nil` if it is set: `OnHelo` and `OnReset` called if they are set,
the transaction reset, the session greeted in ESMTP, and the `EHLO` lines, which depend on the session only through
`tls` and `authenticated`. -/
theorem handleEHLO_accepts (o : Outcomes) (args : Bytes) (w : World) (hne : args ≠ [])
    (ho : srv.heloHandler = true → o.helo = none) :
    (handleEHLO srv o args w).out = w.out ++ writeReply replyOK (ehloLines srv w.s args) ∧
    (handleEHLO srv o args w).s = { w.s with
      reversePath := {}, forwardPaths := [], bdatBuffer := [], clientHostname := args, esmtp := true,
      state := .greeted } ∧
    (handleEHLO srv o args w).r = w.r ∧
    (handleEHLO srv o args w).calls = w.calls ++ (if srv.heloHandler then [.helo args] else []) ++
      (if srv.resetHandler then [.reset] else []) := by
  unfold handleEHLO handleHello
  rw [if_neg hne]
  cases hb : srv.heloHandler <;> cases hr : srv.resetHandler <;>
    simp [World.invoke, hb, hr, ho, World.replyMulti, World.setS, World.call, World.resetTransaction, ehloLines]

/-- The turn over `STARTTLS`, with a TLS configuration, outside TLS, when the handshake succeeds with the stream `r`:
`220`, then the session reads `r`, has `tls` set, its transaction reset and its greeting forgotten, and keeps
`authenticated`. -/
theorem step_starttls (o : Outcomes) (w : World) (rest : Bytes) (e : ReadErr) (r : BufReader) (hsd : o.shutdown = false)
    (htls : srv.tlsConfig = true) (hnt : w.s.tls = false) (hh : o.handshake = some r)
    (hw : w.r = ⟨ascii "STARTTLS" ++ crlf ++ rest, e⟩) :
    (step srv o w).1.out = w.out ++ writeReplies [readyToStartTLS] ∧
    (step srv o w).1.s = { w.s with
      tls := true, reversePath := {}, forwardPaths := [], bdatBuffer := [], state := .new, clientHostname := [],
      esmtp := false } ∧
    (step srv o w).1.r = r ∧ (step srv o w).2 = .next ∧
    (step srv o w).1.calls = w.calls ++ if srv.resetHandler then [.reset] else [] := by
  rw [CommandsAux.step_line srv o w _ rest e hsd (by decide) (by decide) hw,
    CommandsAux.command_word srv o _ _ (by decide) (by decide), dispatch,
    show Verb.ofKeyword (toUpper (ascii "STARTTLS")) = some .starttls by decide]
  cases hr : srv.resetHandler <;>
    simp [handleSTARTTLS, htls, hnt, hh, hr, World.reply, World.setS, World.resetTransaction, World.call,
      readyToStartTLS, lineReply]

/-- `ehlo` against a `250` reply that reads back: the extensions of its lines after the first. -/
theorem ehlo_accepted (localName : Bytes) (c : Conn) (lines : List Bytes) (later : Bytes)
    (hr : (Reply.mk replyOK lines).Readable) (hc : c.r.bytes = writeReplies [⟨replyOK, lines⟩] ++ later) :
    Client.ehlo localName c =
      (.ok (some (parseEHLOResponse lines)), ⟨⟨later, c.r.err⟩, c.out ++ ascii "EHLO " ++ localName ++ crlf⟩) := by
  have h1 := readReply_readable hr later c.r.err
  rw [← hc] at h1
  rw [Client.ehlo, cmd_eq, h1]
  dsimp only
  rw [if_pos rfl]
  simp only [List.append_assoc]

/-- The greeting of a server whose texts fit is a reply the client reads. -/
theorem greeting_readable (hs : srv.Sendable) : (greeting srv).Readable := by
  refine ⟨(by decide : (100 : Int) ≤ replyServiceReady), (by decide : replyServiceReady ≤ 999), List.cons_ne_nil _ _, ?_⟩
  simp only [greeting, List.mem_singleton, forall_eq, List.mem_append, not_or, List.length_append]
  exact ⟨⟨hs.hostname, by decide⟩, by have := hs.hostnameLength; simp [ascii]; omega⟩

/-- `handleConn` with no `OnConnect` refusal over a stream that starts with an `EHLO` line: the greeting, that turn,
and the loop over the rest. -/
theorem handleConn_ehlo (o : Outcomes) (os : List Outcomes) (localName after : Bytes) (e : ReadErr)
    (hsd : o.shutdown = false) (hl : Byte.lf ∉ localName) (hn : Byte.nul ∉ localName) (hlen : localName.length ≤ 505) :
    handleConn srv none (o :: os) ⟨ascii "EHLO " ++ localName ++ crlf ++ after, e⟩ =
      run srv os (handleEHLO srv o localName ⟨newSession, ⟨after, e⟩, writeReplies [greeting srv], []⟩) := by
  have hgreet : greet srv none ⟨ascii "EHLO " ++ localName ++ crlf ++ after, e⟩ =
      (⟨newSession, ⟨ascii "EHLO " ++ localName ++ crlf ++ after, e⟩, writeReplies [greeting srv], []⟩, .next) := by
    simp [greet, greeting]
  rw [handleConn, hgreet]
  dsimp only
  rw [run, step_ehlo srv o _ localName after e hsd hl hn hlen rfl]

/-- `NewClient` against a `220` greeting and a `250` reply to its `EHLO`, both readable. -/
theorem newClient_accepted (localName : Bytes) (c : Conn) (g : Reply) (lines : List Bytes) (later : Bytes)
    (hg : g.Readable) (h220 : g.code = replyServiceReady) (hr : (Reply.mk replyOK lines).Readable)
    (hc : c.r.bytes = writeReplies [g, ⟨replyOK, lines⟩] ++ later) :
    newClient localName c = .ok
      ⟨⟨⟨later, c.r.err⟩, c.out ++ ascii "EHLO " ++ localName ++ crlf⟩, localName, some (parseEHLOResponse lines),
        false⟩ := by
  have h1 := readReply_readable hg (writeReplies [⟨replyOK, lines⟩] ++ later) c.r.err
  rw [← List.append_assoc, ← writeReplies_append, List.singleton_append, ← hc] at h1
  rw [newClient, h1]
  dsimp only
  rw [if_neg (not_not.2 h220), ehlo_accepted localName _ lines later hr rfl]

/-- The turns over `STARTTLS` and the `EHLO` the client sends over TLS, then the loop over the rest. -/
theorem run_startTLS (o o' : Outcomes) (os : List Outcomes) (w : World) (localName rest after : Bytes) (e e' : ReadErr)
    (hsd : o.shutdown = false) (hsd' : o'.shutdown = false) (htls : srv.tlsConfig = true) (hnt : w.s.tls = false)
    (hl : Byte.lf ∉ localName) (hn : Byte.nul ∉ localName) (hlen : localName.length ≤ 505)
    (hw : w.r = ⟨ascii "STARTTLS" ++ crlf ++ rest, e⟩)
    (hhs : o.handshake = some ⟨ascii "EHLO " ++ localName ++ crlf ++ after, e'⟩) :
    run srv (o :: o' :: os) w = run srv os (handleEHLO srv o' localName { (step srv o w).1 with r := ⟨after, e'⟩ }) := by
  obtain ⟨-, -, h3, h4, -⟩ := step_starttls srv o w rest e _ hsd htls hnt hhs hw
  rw [run, show step srv o w = ((step srv o w).1, .next) from Prod.ext rfl h4]
  dsimp only
  rw [run, step_ehlo srv o' _ localName after e' hsd' hl hn hlen h3]

/-- The session after `STARTTLS` and the `EHLO` sent over TLS: `220` and the `EHLO` lines of a session on TLS, greeted
again with the client's name, `OnReset` for the upgrade and `OnHelo` and `OnReset` for `EHLO`. -/
theorem startTLS_ehlo (o o' : Outcomes) (w : World) (localName rest after : Bytes) (e e' : ReadErr)
    (hsd : o.shutdown = false) (htls : srv.tlsConfig = true) (hnt : w.s.tls = false) (hne : localName ≠ [])
    (hho : srv.heloHandler = true → o'.helo = none) (hw : w.r = ⟨ascii "STARTTLS" ++ crlf ++ rest, e⟩)
    (hhs : o.handshake = some ⟨ascii "EHLO " ++ localName ++ crlf ++ after, e'⟩) :
    (handleEHLO srv o' localName { (step srv o w).1 with r := ⟨after, e'⟩ }).out =
      w.out ++ writeReplies [readyToStartTLS] ++ writeReply replyOK (ehloLines srv { w.s with tls := true } localName) ∧
    (handleEHLO srv o' localName { (step srv o w).1 with r := ⟨after, e'⟩ }).s = { w.s with
      tls := true, reversePath := {}, forwardPaths := [], bdatBuffer := [], state := .greeted,
      clientHostname := localName, esmtp := true } ∧
    (handleEHLO srv o' localName { (step srv o w).1 with r := ⟨after, e'⟩ }).r = ⟨after, e'⟩ ∧
    (handleEHLO srv o' localName { (step srv o w).1 with r := ⟨after, e'⟩ }).calls =
      w.calls ++ (if srv.resetHandler then [.reset] else []) ++ (if srv.heloHandler then [.helo localName] else []) ++
        (if srv.resetHandler then [.reset] else []) := by
  obtain ⟨h1, h2, -, -, h5⟩ := step_starttls srv o w rest e _ hsd htls hnt hhs hw
  obtain ⟨g1, g2, g3, g4⟩ := handleEHLO_accepts srv o' localName { (step srv o w).1 with r := ⟨after, e'⟩ } hne hho
  have hlines : ehloLines srv (step srv o w).1.s localName = ehloLines srv { w.s with tls := true } localName := by
    rw [h2]; rfl
  exact ⟨by rw [g1]; dsimp only; rw [h1, hlines], by rw [g2]; dsimp only; rw [h2], g3, by rw [g4]; dsimp only; rw [h5]⟩

/-- `StartTLS` against `220` and, over the TLS stream `ct`, a `250` reply to its `EHLO`: `nil`, on TLS, with the
extensions of that reply. -/
theorem startTLS_client (cl : Client) (ct : BufReader) (lines : List Bytes) (later later' : Bytes)
    (hr : (Reply.mk replyOK lines).Readable) (hc : cl.conn.r.bytes = writeReplies [readyToStartTLS] ++ later)
    (hct : ct.bytes = writeReplies [⟨replyOK, lines⟩] ++ later') :
    Client.startTLS (some ct) cl = (none, { cl with
      conn := ⟨⟨later', ct.err⟩, cl.conn.out ++ ascii "STARTTLS" ++ crlf ++ ascii "EHLO " ++ cl.localName ++ crlf⟩
      exts := some (parseEHLOResponse lines)
      tls := true }) := by
  have hcmd : cl.conn.cmd (ascii "STARTTLS") =
      (.ok readyToStartTLS, ⟨⟨later, cl.conn.r.err⟩, cl.conn.out ++ ascii "STARTTLS" ++ crlf⟩) := by
    rw [cmd_eq, show cl.conn.r = ⟨writeReplies [readyToStartTLS] ++ later, cl.conn.r.err⟩ by rw [← hc],
      readReply_readable (by decide)]
  rw [Client.startTLS, hcmd]
  dsimp only
  rw [if_neg (show ¬(readyToStartTLS.code ≠ replyServiceReady) from not_not.2 rfl),
    ehlo_accepted cl.localName _ _ later' hr hct]

end ExtensionsAux

open ExtensionsAux RejectionsAux RepliesAux ClientAux

/-- `NewClient` against `handleConn`, each reading what the other writes, with no `OnConnect` refusal and `OnHelo`
returning `nil` if it is set. The server greets, reads exactly the `EHLO` line, and is left greeted in ESMTP with the
client's name. `NewClient` reads the greeting and the `EHLO` reply and returns a client on the connection as it is left,
not on TLS, with the extensions of that reply: `STARTTLS` exactly when the server has a TLS configuration, `AUTH`
exactly when it has an `AuthHandler`, with the parameters `PLAIN LOGIN CRAM-MD5`, the six extensions the session
always lists, and a `ServerMaxSize` that is `maxMessageSize` when it is positive and `0` otherwise. -/
theorem newClient_learns_extensions (srv : Server) (hs : srv.Sendable) (o : Outcomes) (localName after later : Bytes)
    (e : ReadErr) (c : Conn) (hsd : o.shutdown = false) (hho : srv.heloHandler = true → o.helo = none)
    (hname : localName ≠ [] ∧ Byte.lf ∉ localName ∧ Byte.nul ∉ localName ∧ localName.length ≤ 505)
    (hc : c.r.bytes = (handleConn srv none [o] ⟨ascii "EHLO " ++ localName ++ crlf ++ after, e⟩).1.out ++ later) :
    (handleConn srv none [o] ⟨ascii "EHLO " ++ localName ++ crlf ++ after, e⟩).1.r = ⟨after, e⟩ ∧
    (handleConn srv none [o] ⟨ascii "EHLO " ++ localName ++ crlf ++ after, e⟩).1.s =
      { newSession with clientHostname := localName, esmtp := true, state := .greeted } ∧
    ∃ cl : Client, newClient localName c = .ok cl ∧
      cl.conn = ⟨⟨later, c.r.err⟩, c.out ++ ascii "EHLO " ++ localName ++ crlf⟩ ∧ cl.tls = false ∧
      ((cl.exts.getD []).has (ascii "STARTTLS") ↔ srv.tlsConfig) ∧
      ((cl.exts.getD []).has (ascii "AUTH") ↔ srv.authHandler) ∧
      (srv.authHandler → (cl.exts.getD []).param (ascii "AUTH") = ascii "PLAIN LOGIN CRAM-MD5") ∧
      (∀ ext ∈ [ascii "PIPELINING", ascii "8BITMIME", ascii "ENHANCEDSTATUSCODES", ascii "DSN", ascii "SMTPUTF8",
        ascii "CHUNKING"], (cl.exts.getD []).has ext) ∧
      cl.serverMaxSize = max srv.maxMessageSize 0 := by
  obtain ⟨hne, hl, hn, hlen⟩ := hname
  set w0 : World := ⟨newSession, ⟨after, e⟩, writeReplies [greeting srv], []⟩
  obtain ⟨h1, h2, h3, -⟩ := handleEHLO_accepts srv o localName w0 hne hho
  have hconn : handleConn srv none [o] ⟨ascii "EHLO " ++ localName ++ crlf ++ after, e⟩ =
      (handleEHLO srv o localName w0, .next) :=
    handleConn_ehlo srv o [] localName after e hsd hl hn hlen
  rw [hconn]
  refine ⟨h3, h2, ?_⟩
  have hr := (ehloLines_final hs ⟨hl, by omega⟩ newSession).1
  rw [hconn, h1] at hc
  refine ⟨_, newClient_accepted localName c (greeting srv) _ later (greeting_readable srv hs) rfl hr
    (by rw [hc]; simp [w0]), rfl, rfl, ?_⟩
  simp only [Option.getD_some, parseEHLOResponse_ehloLines]
  refine ⟨?_, ?_, fun ha => ?_, advertised_has_fixed srv _, serverMaxSize_advertised srv _ hs _ _ _⟩
  · simp [advertised_has_starttls, newSession]
  · simp [advertised_has_auth, newSession]
  · simp [advertised_param_auth, newSession, ha]

/-- A server with a TLS configuration and no other option, and a client named `me`: the client has `STARTTLS`, no `AUTH`,
and a `ServerMaxSize` of 10485760, the default `maxMessageSize`. -/
theorem newClient_learns_extensions_tls :
    ∃ cl : Client, newClient (ascii "me") ⟨⟨(handleConn { newServer with tlsConfig := true } none [{}]
        ⟨ascii "EHLO me\r\n", .eof⟩).1.out, .eof⟩, []⟩ = .ok cl ∧
      Extensions.has (cl.exts.getD []) (ascii "STARTTLS") ∧ ¬Extensions.has (cl.exts.getD []) (ascii "AUTH") ∧
      cl.serverMaxSize = 10485760 :=
  have h := newClient_learns_extensions { newServer with tlsConfig := true } ⟨by decide, by decide, by decide⟩ {}
    (ascii "me") [] [] .eof ⟨⟨(handleConn { newServer with tlsConfig := true } none [{}]
      ⟨ascii "EHLO me\r\n", .eof⟩).1.out, .eof⟩, []⟩ rfl nofun ⟨by decide, by decide, by decide, by decide⟩
    (List.append_nil _).symm
  let ⟨cl, h1, _, _, h4, h5, _, _, h8⟩ := h.2.2
  ⟨cl, h1, h4.2 rfl, fun h => absurd (h5.1 h) (by decide), h8.trans (by decide)⟩

/-- `Client.StartTLS` against the turns of the server that read what it writes: `STARTTLS` in a session outside TLS on a
server with a TLS configuration, a handshake that succeeds on both ends, and the `EHLO` it sends over TLS, with `OnHelo`
returning `nil` if it is set. The session answers `220`, goes on over the TLS stream, and answers `EHLO` greeted again,
with `tls` set and `authenticated` as it was. `StartTLS` reads both replies, returns `nil`, and its client is on TLS
with the extensions of the new `EHLO` reply: `STARTTLS` no longer, and `AUTH` exactly when the server has an
`AuthHandler` and the session was not authenticated before the upgrade, since `STARTTLS` keeps that flag. -/
theorem startTLS_refreshes_extensions (srv : Server) (hs : srv.Sendable) (o o' : Outcomes) (w : World) (cl : Client)
    (rest after later later' : Bytes) (e e' : ReadErr) (ct : BufReader) (htls : srv.tlsConfig = true)
    (hnt : w.s.tls = false) (hsd : o.shutdown = false) (hsd' : o'.shutdown = false)
    (hho : srv.heloHandler = true → o'.helo = none)
    (hname : cl.localName ≠ [] ∧ Byte.lf ∉ cl.localName ∧ Byte.nul ∉ cl.localName ∧ cl.localName.length ≤ 505)
    (hw : w.r = ⟨ascii "STARTTLS" ++ crlf ++ rest, e⟩)
    (hhs : o.handshake = some ⟨ascii "EHLO " ++ cl.localName ++ crlf ++ after, e'⟩)
    (hc : cl.conn.r.bytes = writeReplies [readyToStartTLS] ++ later)
    (hct : ct.bytes = writeReply replyOK (ehloLines srv { w.s with tls := true } cl.localName) ++ later') :
    (run srv [o, o'] w).1.out = w.out ++ writeReplies [readyToStartTLS] ++
      writeReply replyOK (ehloLines srv { w.s with tls := true } cl.localName) ∧
    (run srv [o, o'] w).1.s = { w.s with
      tls := true, reversePath := {}, forwardPaths := [], bdatBuffer := [], state := .greeted,
      clientHostname := cl.localName, esmtp := true } ∧
    (run srv [o, o'] w).1.r = ⟨after, e'⟩ ∧ (run srv [o, o'] w).2 = .next ∧
    ∃ exts, Client.startTLS (some ct) cl = (none, { cl with
        conn := ⟨⟨later', ct.err⟩, cl.conn.out ++ ascii "STARTTLS" ++ crlf ++ ascii "EHLO " ++ cl.localName ++ crlf⟩
        exts := some exts
        tls := true }) ∧
      Extensions.has exts (ascii "STARTTLS") = false ∧
      (Extensions.has exts (ascii "AUTH") ↔ srv.authHandler ∧ w.s.authenticated = false) := by
  obtain ⟨hne, hl, hn, hlen⟩ := hname
  obtain ⟨h1, h2, h3, -⟩ := startTLS_ehlo srv o o' w cl.localName rest after e e' hsd htls hnt hne hho hw hhs
  rw [run_startTLS srv o o' [] w cl.localName rest after e e' hsd hsd' htls hnt hl hn hlen hw hhs]
  refine ⟨h1, h2, h3, rfl, advertised srv { w.s with tls := true }, ?_, ?_, ?_⟩
  · rw [startTLS_client cl ct _ later later' (ehloLines_final hs ⟨hl, by omega⟩ { w.s with tls := true }).1 hc
      (hct.trans (by simp)), parseEHLOResponse_ehloLines]
  · rw [advertised_has_starttls]; simp
  · rw [advertised_has_auth]; simp

/-- A submission server with a TLS configuration and an `AuthHandler`, and a session that authenticated before
`STARTTLS`: after the upgrade the client's `EHLO` reply offers no `AUTH`, although the session may still send mail. -/
theorem startTLS_refreshes_extensions_authenticated :
    (Client.startTLS (some ⟨writeReply replyOK (ehloLines { newServer with tlsConfig := true, authHandler := true }
        { newSession with state := .greeted, authenticated := true, tls := true } (ascii "me")), .eof⟩)
        ⟨⟨⟨writeReplies [readyToStartTLS], .eof⟩, []⟩, ascii "me", none, false⟩).1 = none ∧
    Extensions.has ((Client.startTLS (some ⟨writeReply replyOK (ehloLines
        { newServer with tlsConfig := true, authHandler := true }
        { newSession with state := .greeted, authenticated := true, tls := true } (ascii "me")), .eof⟩)
        ⟨⟨⟨writeReplies [readyToStartTLS], .eof⟩, []⟩, ascii "me", none, false⟩).2.exts.getD []) (ascii "AUTH") =
      false := by
  obtain ⟨exts, heq, -, hauth⟩ := (startTLS_refreshes_extensions { newServer with tlsConfig := true, authHandler := true }
    ⟨by decide, by decide, by decide⟩ { handshake := some ⟨ascii "EHLO " ++ ascii "me" ++ crlf ++ [], .eof⟩ } {}
    ⟨{ newSession with state := .greeted, authenticated := true }, ⟨ascii "STARTTLS" ++ crlf ++ [], .eof⟩, [], []⟩
    ⟨⟨⟨writeReplies [readyToStartTLS], .eof⟩, []⟩, ascii "me", none, false⟩ [] [] [] [] .eof .eof
    ⟨writeReply replyOK (ehloLines { newServer with tlsConfig := true, authHandler := true }
      { newSession with state := .greeted, authenticated := true, tls := true } (ascii "me")), .eof⟩
    rfl rfl rfl rfl nofun ⟨by decide, by decide, by decide, by decide⟩ rfl rfl (by simp) (by simp)).2.2.2.2
  rw [heq]
  exact ⟨rfl, Bool.eq_false_iff.2 fun h => absurd (hauth.1 h).2 (by decide)⟩

end Smtp
