import Smtp.Address
import Smtp.Base64
import Smtp.Textproto.Conn
import Smtp.Textproto.Dot

/-!
# The server session

`smtpserver/session.go`: the state of one connection, its command handlers, and the command loop of `handleConn`.

What the handlers and the environment answer during one turn of the loop is an `Outcomes` record: the error each
configured handler returns, the result of `OnVrfy`, the TLS handshake (on success, the stream the TLS connection
decrypts), the clock `CRAM-MD5` reads, and whether the server is shutting down. The handler calls the session makes are
recorded as `Call`s, with their arguments; the bytes it writes are kept in order.

| Go | Lean |
|---|---|
| `session` | `Session`, with the connection in `World` |
| `session.reply`, `replyMulti` | `World.reply`, `World.replyMulti` |
| `session.resetTransaction` | `World.resetTransaction` |
| `session.handleEHLO` ... `handleSTARTTLS` | `handleEHLO` ... `handleSTARTTLS` |
| `parseCommand` and the `switch` | `command`, `dispatch` |
| the start of `handleConn`, and one turn of its `for` loop | `greet`, `step` |
| `handleConn` | `handleConn` |
-/

namespace Smtp

/-! ## The session -/

/-- `sessionState`. -/
inductive SessionState
  | new
  | greeted
  | mail
  | rcpt
  | data
  deriving DecidableEq, Repr

/-- The `iota` value of a state, by which the handlers compare states. -/
def SessionState.rank : SessionState → Nat
  | .new => 0
  | .greeted => 1
  | .mail => 2
  | .rcpt => 3
  | .data => 4

/-- `session`, without its server and connection. -/
structure Session where
  state : SessionState
  clientHostname : Bytes
  esmtp : Bool
  tls : Bool
  authenticated : Bool
  invalidCmds : Int
  reversePath : ReversePath
  forwardPaths : List ForwardPath
  bdatBuffer : Bytes
  deriving DecidableEq, Repr

/-- `&session{state: stateNew}`. -/
def newSession : Session := ⟨.new, [], false, false, false, 0, {}, [], []⟩

/-- The fields of `Server` a session reads. A handler field says whether that handler is set, `tlsConfig` whether a TLS
configuration is. -/
structure Server where
  hostname : Bytes
  maxMessageSize : Int
  maxRecipients : Int
  maxInvalidCmds : Int
  tlsConfig : Bool
  submissionMode : Bool
  connHandler : Bool
  heloHandler : Bool
  mailHandler : Bool
  rcptHandler : Bool
  dataHandler : Bool
  resetHandler : Bool
  vrfyHandler : Bool
  authHandler : Bool
  deriving DecidableEq, Repr

/-- `NewServer()` with no options. -/
def newServer : Server :=
  ⟨ascii "localhost", 10 * 1024 * 1024, 100, 10, false, false, false, false, false, false, false, false, false, false⟩

/-- The error a handler returns. -/
inductive HandlerErr
  /-- An `*smtp.SMTPError`, whose code, enhanced code and message the session replies with. -/
  | smtp (e : SMTPError)
  /-- Any other error. -/
  | other
  deriving DecidableEq, Repr

/-- What the handlers and the environment answer during one turn of the command loop. -/
structure Outcomes where
  helo : Option HandlerErr := none
  mail : Option HandlerErr := none
  rcpt : Option HandlerErr := none
  data : Option HandlerErr := none
  vrfy : Except HandlerErr Bytes := .ok []
  auth : Option HandlerErr := none
  /-- `tlsConn.Handshake()`: the stream of the TLS connection, or `none` when it fails. -/
  handshake : Option BufReader := none
  /-- `time.Now().UnixNano()` and `time.Now().Unix()`. -/
  clock : Int × Int := (0, 0)
  /-- The server's `quit` channel is closed: the watcher goroutine has cancelled `ctx` and closed `nc`. -/
  shutdown : Bool := false
  deriving DecidableEq

/-- A handler call, with its arguments. -/
inductive Call
  | helo (hostname : Bytes)
  | mail (sender : ReversePath)
  | rcpt (rcpt : ForwardPath)
  /-- `OnData` with the reverse path, the forward paths and the body. -/
  | data (sender : ReversePath) (rcpts : List ForwardPath) (body : Bytes)
  | reset
  | vrfy (param : Bytes)
  | authenticate (mechanism username password : Bytes)
  deriving DecidableEq, Repr

/-- A session as it runs: its fields, the connection's reader, the bytes written so far, and the handler calls made. -/
structure World where
  s : Session
  r : BufReader
  out : Bytes
  calls : List Call
  deriving DecidableEq

/-- How a turn of the command loop ends. -/
inductive Flow
  /-- The loop reads the next command. -/
  | next
  /-- `handleConn` returns and the connection is closed. -/
  | close
  /-- A run-time panic: `make([]byte, size)` with `size` beyond what the runtime can allocate. -/
  | crash
  deriving DecidableEq, Repr

namespace World

/-- `session.reply`: one reply line, `"<enhanced> <msg>"` when the enhanced code is not zero. -/
def reply (w : World) (code : Int) (e : EnhancedCode) (msg : Bytes) : World :=
  { w with out := w.out ++ writeReply code [enhancedText e msg] }

/-- `session.replyMulti`. -/
def replyMulti (w : World) (code : Int) (lines : List Bytes) : World :=
  { w with out := w.out ++ writeReply code lines }

/-- A handler called. -/
def call (w : World) (c : Call) : World := { w with calls := w.calls ++ [c] }

/-- A handler called if it is set: the session after, and the handler's error (`none` when it is not set). -/
def invoke (w : World) (set : Bool) (c : Call) (err : Option HandlerErr) : World × Option HandlerErr :=
  if set then (w.call c, err) else (w, none)

/-- The reply to a handler's error: the `SMTPError`'s own, or the default reply `dflt` for any other error. -/
def replyErr (w : World) (dflt : Int × EnhancedCode × Bytes) : HandlerErr → World
  | .smtp e => w.reply e.code e.enhancedCode e.message
  | .other => w.reply dflt.1 dflt.2.1 dflt.2.2

/-- The session's fields updated. -/
def setS (w : World) (f : Session → Session) : World := { w with s := f w.s }

/-- `session.resetTransaction`. -/
def resetTransaction (srv : Server) (w : World) : World :=
  let w := w.setS fun s => { s with reversePath := {}, forwardPaths := [], bdatBuffer := [] }
  if srv.resetHandler then w.call .reset else w

/-- A rejected command: `500`, one more invalid command, and `421` with the end of the session at the limit. -/
def invalidCommand (srv : Server) (w : World) (msg : Bytes) : World × Flow :=
  let w := (w.reply replySyntaxError enhancedCodeInvalidCommand msg).setS fun s => { s with invalidCmds := s.invalidCmds + 1 }
  if srv.maxInvalidCmds > 0 ∧ w.s.invalidCmds ≥ srv.maxInvalidCmds then
    (w.reply replyServiceNotAvailable enhancedCodeOtherNetwork (ascii "Too many errors, closing connection"), .close)
  else (w, .next)

end World

/-- The reply to an error of a handler other than `Authenticate`. -/
def internalError : Int × EnhancedCode × Bytes := (replyLocalError, enhancedCodeOtherNetwork, ascii "Internal error")

/-- The reply to an error of `Authenticate`. -/
def authFailed : Int × EnhancedCode × Bytes :=
  (replyAuthFailed, enhancedCodeAuthCredentials, ascii "Authentication failed")

/-! ## Greeting and transaction commands -/

/-- The lines of the `EHLO` reply. -/
def ehloLines (srv : Server) (s : Session) (args : Bytes) : List Bytes :=
  [srv.hostname ++ ascii " Hello " ++ args] ++
    (if srv.maxMessageSize > 0 then [ascii "SIZE " ++ formatInt srv.maxMessageSize] else []) ++
    [ascii "PIPELINING", ascii "8BITMIME", ascii "ENHANCEDSTATUSCODES", ascii "DSN", ascii "SMTPUTF8",
      ascii "CHUNKING"] ++
    (if srv.tlsConfig ∧ ¬s.tls then [ascii "STARTTLS"] else []) ++
    (if srv.authHandler ∧ ¬s.authenticated then [ascii "AUTH PLAIN LOGIN CRAM-MD5"] else [])

/-- `handleEHLO` and `handleHELO`, which differ in `esmtp`, the text of the missing-hostname reply, and the success
reply: the `EHLO` lines, or one `"<hostname> Hello <args>"` line. -/
def handleHello (esmtp : Bool) (missing : Bytes) (srv : Server) (o : Outcomes) (args : Bytes) (w : World) : World :=
  if args = [] then w.reply replySyntaxParamError enhancedCodeSyntaxError missing
  else
    match w.invoke srv.heloHandler (.helo args) o.helo with
    | (w, some e) => w.replyErr internalError e
    | (w, none) =>
      let w := (w.resetTransaction srv).setS fun s => { s with clientHostname := args, esmtp := esmtp, state := .greeted }
      if esmtp then w.replyMulti replyOK (ehloLines srv w.s args)
      else w.reply replyOK enhancedCodeOK (srv.hostname ++ ascii " Hello " ++ args)

/-- `handleEHLO`. -/
def handleEHLO : Server → Outcomes → Bytes → World → World := handleHello true (ascii "EHLO requires a hostname")

/-- `handleHELO`. -/
def handleHELO : Server → Outcomes → Bytes → World → World := handleHello false (ascii "HELO requires a hostname")

/-- The path of `MAIL FROM:` and `RCPT TO:`: what follows the keyword up to the first space, trimmed. -/
def pathArg (keyword : Nat) (args : Bytes) : Bytes := trimSpace (cut Byte.sp (args.drop keyword)).1

/-- `handleMAIL`. -/
def handleMAIL (srv : Server) (o : Outcomes) (args : Bytes) (w : World) : World :=
  if w.s.state.rank < SessionState.greeted.rank then
    w.reply replyBadSequence enhancedCodeInvalidCommand (ascii "Send EHLO/HELO first")
  else if w.s.state.rank ≥ SessionState.mail.rank then
    w.reply replyBadSequence enhancedCodeInvalidCommand (ascii "MAIL already specified")
  else if srv.submissionMode ∧ ¬w.s.authenticated then
    w.reply replyAuthRequired enhancedCodeAuthRequired (ascii "Authentication required")
  else if ¬(ascii "FROM:").isPrefixOf (toUpper args) then
    w.reply replySyntaxParamError enhancedCodeSyntaxError (ascii "Syntax: MAIL FROM:<address>")
  else match parseReversePath (pathArg 5 args) with
    | none => w.reply replySyntaxParamError enhancedCodeBadSenderSyntax (ascii "Invalid sender address")
    | some rp =>
      match w.invoke srv.mailHandler (.mail rp) o.mail with
      | (w, some e) => w.replyErr internalError e
      | (w, none) =>
        (w.setS fun s => { s with reversePath := rp, forwardPaths := [], state := .mail }).reply replyOK
          enhancedCodeOtherAddress (ascii "Originator ok")

/-- `handleRCPT`. -/
def handleRCPT (srv : Server) (o : Outcomes) (args : Bytes) (w : World) : World :=
  if w.s.state.rank < SessionState.mail.rank then
    w.reply replyBadSequence enhancedCodeInvalidCommand (ascii "Send MAIL first")
  else if (w.s.forwardPaths.length : Int) ≥ srv.maxRecipients then
    w.reply replyInsufficientStorage enhancedCodeTooManyRecipients (ascii "Too many recipients")
  else if ¬(ascii "TO:").isPrefixOf (toUpper args) then
    w.reply replySyntaxParamError enhancedCodeSyntaxError (ascii "Syntax: RCPT TO:<address>")
  else match parseForwardPath (pathArg 3 args) with
    | none => w.reply replySyntaxParamError enhancedCodeBadDestSyntax (ascii "Invalid recipient address")
    | some fp =>
      match w.invoke srv.rcptHandler (.rcpt fp) o.rcpt with
      | (w, some e) => w.replyErr internalError e
      | (w, none) =>
        let w := w.setS fun s =>
          { s with
            forwardPaths := s.forwardPaths ++ [fp]
            state := if s.state.rank < SessionState.rcpt.rank then .rcpt else s.state }
        w.reply replyOK enhancedCodeDestValid (ascii "Recipient ok")

/-- The end of a message: the reply to the `OnData` error or `250`, the transaction reset, and the state back to
`stateGreeted`. -/
def finishMessage (srv : Server) : World × Option HandlerErr → World
  | (w, err) =>
    let w := match err with
      | some e => w.replyErr internalError e
      | none => w.reply replyOK enhancedCodeOK (ascii "Message accepted")
    (w.resetTransaction srv).setS fun s => { s with state := .greeted }

/-- The body `OnData` reads from the dot reader, taken to read it in one call with a buffer longer than the input, and
the `bufio.Reader` once `io.Copy(io.Discard, reader)` has drained the rest. -/
def dataBody (r : BufReader) : Bytes × BufReader :=
  let c := (newDotReader r).read (r.bytes.length + 1)
  (c.out, c.next.r)

/-- `handleDATA`. -/
def handleDATA (srv : Server) (o : Outcomes) (w : World) : World :=
  if w.s.state.rank < SessionState.rcpt.rank then
    w.reply replyBadSequence enhancedCodeInvalidCommand (ascii "Send RCPT first")
  else
    let w := (w.reply replyStartMailInput .zero (ascii "Start mail input; end with <CRLF>.<CRLF>")).setS
      fun s => { s with state := .data }
    finishMessage srv ({ w with r := (dataBody w.r).2 }.invoke srv.dataHandler
      (.data w.s.reversePath w.s.forwardPaths (dataBody w.r).1) o.data)

/-- The largest `make([]byte, n)` the Go runtime allows on a 64-bit Linux host (`maxAlloc`, `1 << 48`); a larger `n`
panics. Memory is not modelled: an allocation within the limit is taken to succeed, where a host without the memory
ends the process. -/
def maxAlloc : Int := 281474976710656

/-- `handleBDAT`. -/
def handleBDAT (srv : Server) (o : Outcomes) (args : Bytes) (w : World) : World × Flow :=
  if w.s.state.rank < SessionState.rcpt.rank then
    (w.reply replyBadSequence enhancedCodeInvalidCommand (ascii "Send RCPT first"), .next)
  else match fields args with
    | [] => (w.reply replySyntaxParamError enhancedCodeSyntaxError (ascii "Syntax: BDAT <size> [LAST]"), .next)
    | p0 :: ps =>
      match sscanInt p0 with
      | none => (w.reply replySyntaxParamError enhancedCodeSyntaxError (ascii "Invalid BDAT size"), .next)
      | some size =>
        if size < 0 then (w.reply replySyntaxParamError enhancedCodeSyntaxError (ascii "Invalid BDAT size"), .next)
        else if size > maxAlloc then (w, .crash)
        else if 0 < size ∧ (w.r.bytes.length : Int) < size then ({ w with r := ⟨[], w.r.err⟩ }, .next)
        else
          let w := { w with r := ⟨w.r.bytes.drop size.toNat, w.r.err⟩ }.setS
            fun s => { s with bdatBuffer := s.bdatBuffer ++ w.r.bytes.take size.toNat }
          if ps.head?.map toUpper = some (ascii "LAST") then
            (finishMessage srv (w.invoke srv.dataHandler (.data w.s.reversePath w.s.forwardPaths w.s.bdatBuffer) o.data),
              .next)
          else (w.reply replyOK enhancedCodeOK (formatInt size ++ ascii " bytes received"), .next)

/-- `handleRSET`. -/
def handleRSET (srv : Server) (w : World) : World :=
  ((w.resetTransaction srv).setS fun s =>
    { s with state := if s.state.rank > SessionState.greeted.rank then .greeted else s.state }).reply replyOK
    enhancedCodeOK (ascii "Reset ok")

/-- `handleNOOP`. -/
def handleNOOP (w : World) : World := w.reply replyOK enhancedCodeOK (ascii "OK")

/-- `handleQUIT`. -/
def handleQUIT (srv : Server) (w : World) : World :=
  w.reply replyServiceClosing enhancedCodeOK (srv.hostname ++ ascii " closing connection")

/-- `handleVRFY`. -/
def handleVRFY (srv : Server) (o : Outcomes) (args : Bytes) (w : World) : World :=
  if srv.vrfyHandler then
    match o.vrfy with
    | .error e => (w.call (.vrfy args)).replyErr internalError e
    | .ok result => (w.call (.vrfy args)).reply replyOK enhancedCodeOK result
  else w.reply replyCannotVRFY enhancedCodeOK (ascii "Cannot VRFY user, but will accept message")

/-! ## Authentication -/

/-- The end of an exchange: `Authenticate`, then its error's reply, or `authenticated` and `235`. -/
def World.authenticate (o : Outcomes) (w : World) (mechanism username password : Bytes) : World :=
  match o.auth with
  | some e => (w.call (.authenticate mechanism username password)).replyErr authFailed e
  | none =>
    ((w.call (.authenticate mechanism username password)).setS fun s => { s with authenticated := true }).reply
      replyAuthOK enhancedCodeOK (ascii "Authentication successful")

/-- One answer of the client in an exchange: `ReadLine`, `"*"` to cancel, base64. The decoded bytes, or the session
where the handler returns: with no reply when the line cannot be read. -/
def World.authResponse (w : World) : Except World (Bytes × World) :=
  match readLine maxCommandLineLen w.r with
  | (.error _, r) => .error { w with r := r }
  | (.ok line, r) =>
    if line = [42] then
      .error ({ w with r := r }.reply replySyntaxParamError enhancedCodeInvalidCommand (ascii "Authentication cancelled"))
    else match base64Decode line with
      | none => .error ({ w with r := r }.reply replySyntaxParamError enhancedCodeSyntaxError (ascii "Invalid base64"))
      | some d => .ok (d, { w with r := r })

/-- The response `PLAIN` works on: the initial response, or, when there is none (or it is `"="`), one asked for with an
empty `334`. -/
def plainResponse (initialResp : Bytes) (w : World) : Except World (Bytes × World) :=
  if initialResp ≠ [] ∧ initialResp ≠ ascii "=" then
    match base64Decode initialResp with
    | none => .error (w.reply replySyntaxParamError enhancedCodeSyntaxError (ascii "Invalid base64"))
    | some d => .ok (d, w)
  else (w.reply replyAuthContinue .zero []).authResponse

/-- `authPLAIN`: the response is `[authzid] NUL authcid NUL passwd`. -/
def authPLAIN (o : Outcomes) (initialResp : Bytes) (w : World) : World :=
  match plainResponse initialResp w with
  | .error w => w
  | .ok (d, w) =>
    match split Byte.nul d with
    | [_, username, password] => w.authenticate o (ascii "PLAIN") username password
    | _ => w.reply replySyntaxParamError enhancedCodeSyntaxError (ascii "Invalid PLAIN data")

/-- `authLOGIN`: the user name, then the password, each asked for with a base64 `334`. -/
def authLOGIN (o : Outcomes) (w : World) : World :=
  match (w.reply replyAuthContinue .zero (base64Encode (ascii "Username:"))).authResponse with
  | .error w => w
  | .ok (user, w) =>
    match (w.reply replyAuthContinue .zero (base64Encode (ascii "Password:"))).authResponse with
    | .error w => w
    | .ok (pass, w) => w.authenticate o (ascii "LOGIN") user pass

/-- The `CRAM-MD5` challenge `"<%d.%d@%s>"`. -/
def cramChallenge (srv : Server) (o : Outcomes) : Bytes :=
  [60] ++ formatInt o.clock.1 ++ [Byte.dot] ++ formatInt o.clock.2 ++ [64] ++ srv.hostname ++ [62]

/-- `authCRAMMD5`: the answer `"username digest"` is split at its last space, and `Authenticate` gets
`"challenge:digest"` as the password. -/
def authCRAMMD5 (srv : Server) (o : Outcomes) (w : World) : World :=
  match (w.reply replyAuthContinue .zero (base64Encode (cramChallenge srv o))).authResponse with
  | .error w => w
  | .ok (resp, w) =>
    match lastIndexByte Byte.sp resp with
    | none => w.reply replySyntaxParamError enhancedCodeSyntaxError (ascii "Invalid CRAM-MD5 response")
    | some i => w.authenticate o (ascii "CRAM-MD5") (resp.take i) (cramChallenge srv o ++ [58] ++ resp.drop (i + 1))

/-- `handleAUTH`. -/
def handleAUTH (srv : Server) (o : Outcomes) (args : Bytes) (w : World) : World :=
  if ¬srv.authHandler then w.reply replyCommandNotImpl enhancedCodeInvalidCommand (ascii "AUTH not available")
  else if w.s.state.rank < SessionState.greeted.rank then
    w.reply replyBadSequence enhancedCodeInvalidCommand (ascii "Send EHLO/HELO first")
  else if w.s.state.rank ≥ SessionState.mail.rank then
    w.reply replyBadSequence enhancedCodeInvalidCommand (ascii "AUTH not allowed during mail transaction")
  else if w.s.authenticated then w.reply replyBadSequence enhancedCodeInvalidCommand (ascii "Already authenticated")
  else if toUpper (cut Byte.sp args).1 = ascii "PLAIN" then authPLAIN o (cut Byte.sp args).2.1 w
  else if toUpper (cut Byte.sp args).1 = ascii "LOGIN" then authLOGIN o w
  else if toUpper (cut Byte.sp args).1 = ascii "CRAM-MD5" then authCRAMMD5 srv o w
  else w.reply replySyntaxParamError enhancedCodeInvalidParams (ascii "Unrecognized authentication mechanism")

/-! ## STARTTLS -/

/-- `handleSTARTTLS`. On a failed handshake the session goes on over the connection as it was. -/
def handleSTARTTLS (srv : Server) (o : Outcomes) (w : World) : World :=
  if ¬srv.tlsConfig then w.reply replyCommandNotImpl enhancedCodeInvalidCommand (ascii "STARTTLS not available")
  else if w.s.tls then w.reply replyBadSequence enhancedCodeInvalidCommand (ascii "Already running TLS")
  else
    let w := w.reply replyServiceReady .zero (ascii "Ready to start TLS")
    match o.handshake with
    | none => w
    | some r =>
      (({ w with r := r }.setS fun s => { s with tls := true }).resetTransaction srv).setS
        fun s => { s with state := .new, clientHostname := [], esmtp := false }

/-! ## The command loop -/

/-- The cases of the `switch` of `handleConn`. -/
inductive Verb
  | ehlo | helo | mail | rcpt | data | rset | noop | quit | vrfy | expn | starttls | auth | bdat
  deriving DecidableEq, Repr

/-- The keyword of each case. -/
def Verb.keyword : Verb → Bytes
  | .ehlo => ascii "EHLO"
  | .helo => ascii "HELO"
  | .mail => ascii "MAIL"
  | .rcpt => ascii "RCPT"
  | .data => ascii "DATA"
  | .rset => ascii "RSET"
  | .noop => ascii "NOOP"
  | .quit => ascii "QUIT"
  | .vrfy => ascii "VRFY"
  | .expn => ascii "EXPN"
  | .starttls => ascii "STARTTLS"
  | .auth => ascii "AUTH"
  | .bdat => ascii "BDAT"

/-- The case the upper-cased verb selects; `none` is the `default` case. -/
def Verb.ofKeyword (verb : Bytes) : Option Verb :=
  [Verb.ehlo, .helo, .mail, .rcpt, .data, .rset, .noop, .quit, .vrfy, .expn, .starttls, .auth, .bdat].find?
    (·.keyword = verb)

/-- The `switch` of `handleConn` over the verb. -/
def dispatch (srv : Server) (o : Outcomes) (verb args : Bytes) (w : World) : World × Flow :=
  match Verb.ofKeyword verb with
  | some .ehlo => (handleEHLO srv o args w, .next)
  | some .helo => (handleHELO srv o args w, .next)
  | some .mail => (handleMAIL srv o args w, .next)
  | some .rcpt => (handleRCPT srv o args w, .next)
  | some .data => (handleDATA srv o w, .next)
  | some .rset => (handleRSET srv w, .next)
  | some .noop => (handleNOOP w, .next)
  | some .quit => (handleQUIT srv w, .close)
  | some .vrfy => (handleVRFY srv o args w, .next)
  | some .expn => (w.reply replyCommandNotImpl enhancedCodeInvalidCommand (ascii "EXPN not implemented"), .next)
  | some .starttls => (handleSTARTTLS srv o w, .next)
  | some .auth => (handleAUTH srv o args w, .next)
  | some .bdat => handleBDAT srv o args w
  | none => w.invalidCommand srv (ascii "Command not recognized")

/-- A command line: the NUL check, then `parseCommand` and the `switch`. -/
def command (srv : Server) (o : Outcomes) (line : Bytes) (w : World) : World × Flow :=
  if Byte.nul ∈ line then w.invalidCommand srv (ascii "NUL not allowed in commands")
  else dispatch srv o (toUpper (cut Byte.sp line).1) (cut Byte.sp line).2.1 w

/-- One turn of the command loop of `handleConn`: the shutdown check, `ReadLine`, the command. At shutdown the
watcher has closed `nc` once it cancelled `ctx`, so the `421 Server shutting down` the loop then writes is lost. -/
def step (srv : Server) (o : Outcomes) (w : World) : World × Flow :=
  if o.shutdown then (w, .close)
  else match readLine maxCommandLineLen w.r with
    | (.error _, r) => ({ w with r := r }, .close)
    | (.ok line, r) => command srv o line { w with r := r }

/-- The command loop over the outcomes of its successive turns, until it returns. -/
def run (srv : Server) : List Outcomes → World → World × Flow
  | [], w => (w, .next)
  | o :: os, w =>
    match step srv o w with
    | (w, .next) => run srv os w
    | res => res

/-- The start of `handleConn`: the refusal of `OnConnect` (`onConnect` is its error), or the greeting. -/
def greet (srv : Server) (onConnect : Option HandlerErr) (r : BufReader) : World × Flow :=
  match (if srv.connHandler then onConnect else none) with
  | some (.smtp e) => (⟨newSession, r, writeReply e.code [e.message], []⟩, .close)
  | some .other => (⟨newSession, r, writeReply replyServiceNotAvailable [ascii "Connection refused"], []⟩, .close)
  | none => (⟨newSession, r, writeReply replyServiceReady [srv.hostname ++ ascii " ESMTP ready"], []⟩, .next)

/-- `handleConn`: the greeting, then the command loop over the outcomes of its turns. -/
def handleConn (srv : Server) (onConnect : Option HandlerErr) (os : List Outcomes) (r : BufReader) : World × Flow :=
  match greet srv onConnect r with
  | (w, .next) => run srv os w
  | res => res

end Smtp
