import Smtp.Textproto.Conn
import Smtp.Textproto.Dot
import Smtp.Base64
import Smtp.Sasl

/-!
# The client's commands

`smtpclient/client.go`: `Client.Data` and `Client.Bdat`, `Client.Mail` and `Client.Rcpt` with their options
(`smtpclient/options.go`), `Client.ehlo` with `ParseEHLOResponse`, and `Client.Auth`, over the client's
`textproto.Conn`, with `Conn.WriteLine` and `Conn.Cmd` (`internal/textproto/conn.go`), `io.Copy` into the
`dotWriter`, and `replyToError`. Over them, the calls that put them together: `SendMail`, `Reset`, `Noop` and `Close`,
`NewClient` with the `Extensions` it learns and `ServerMaxSize`, `StartTLS`, and `SubmitMessage`.

The loop of `Client.Auth` has no bound of its own: it is modelled with fuel, one unit a reply it reads, and `none` when
the fuel runs out before it returns.

The body `Data` streams is an `io.Reader`, given by what its `Read` calls return: its chunks in order, then `io.EOF`, or
an error. Writes to the connection are taken to succeed, as in the server's model.
-/

namespace Smtp

/-- A `textproto.Conn` as the client sees it: the reader over what the server writes, and the bytes the client wrote. -/
structure Conn where
  r : BufReader
  out : Bytes
  deriving DecidableEq

namespace Conn

/-- `Conn.WriteLine`: the line, then `\r\n`. -/
def writeLine (c : Conn) (line : Bytes) : Conn := { c with out := c.out ++ line ++ crlf }

/-- `Conn.Cmd`: the command line, then `ReadReply`. -/
def cmd (c : Conn) (line : Bytes) : Except ReplyErr Reply × Conn :=
  let c := c.writeLine line
  ((readReply c.r).1, { c with r := (readReply c.r).2 })

end Conn

/-- The body `Data` streams: the chunks successive `Read` calls return, then `io.EOF`, or an error when `fails`. -/
structure Body where
  chunks : List Bytes
  fails : Bool
  deriving DecidableEq

/-- `io.Copy(dw, r)` over the chunks `ps`, each written in turn: the writer after, and whether `Copy` returns an error
(a `Write` that fails, or the reader's error at the end). -/
def ioCopy (dw : DotWriter) : List Bytes → Bool → DotWriter × Bool
  | [], fails => (dw, fails)
  | p :: ps, fails =>
    match dw.write p with
    | (dw, _, some _) => (dw, true)
    | (dw, _, none) => ioCopy dw ps fails

/-- `replyToError`: the reply's code, the enhanced code at the start of its first line, and its lines joined by `\n`,
or only the text after the enhanced code when there is one line. -/
def replyToError (reply : Reply) : SMTPError :=
  match reply.lines with
  | l :: rest =>
    if (parseEnhancedCode l).1.cls ≠ 0 then
      ⟨reply.code, (parseEnhancedCode l).1, if rest = [] then (parseEnhancedCode l).2 else join Byte.lf reply.lines⟩
    else ⟨reply.code, .zero, join Byte.lf reply.lines⟩
  | [] => ⟨reply.code, .zero, join Byte.lf reply.lines⟩

/-- The errors of `Client.Data`. -/
inductive DataErr
  /-- `"smtp: DATA: %w"`: the reply to `DATA` could not be read. -/
  | cmd (e : ReplyErr)
  /-- `replyToError`: a reply other than the one expected. -/
  | reply (e : SMTPError)
  /-- `"smtp: writing DATA body: %w"`: `io.Copy` failed. -/
  | body
  /-- `"smtp: reading DATA reply: %w"`. -/
  | read (e : ReplyErr)
  deriving DecidableEq

/-- `Client.Data(ctx, r)` over the client's connection: `DATA`, then, on `354`, the body through a `dotWriter`, which
is closed also when `io.Copy` fails, then the final reply. The error (`none` for `nil`), and the connection after. -/
def Client.data (b : Body) (c : Conn) : Option DataErr × Conn :=
  match c.cmd (ascii "DATA") with
  | (.error e, c) => (some (.cmd e), c)
  | (.ok reply, c) =>
    if reply.code ≠ replyStartMailInput then (some (.reply (replyToError reply)), c)
    else
      match ioCopy newDotWriter b.chunks b.fails with
      | (dw, true) => (some .body, { c with out := c.out ++ dw.close.out })
      | (dw, false) =>
        let c := { c with out := c.out ++ dw.close.out }
        match readReply c.r with
        | (.error e, r) => (some (.read e), { c with r := r })
        | (.ok reply, r) =>
          (if reply.code ≠ replyOK then some (.reply (replyToError reply)) else none, { c with r := r })

/-- The errors of `Client.Bdat`. -/
inductive BdatErr
  /-- `"smtp: BDAT reply: %w"`: the reply could not be read. -/
  | read (e : ReplyErr)
  /-- `replyToError`: a reply other than `250`. -/
  | reply (e : SMTPError)
  deriving DecidableEq

/-- The command line of `Client.Bdat`: `fmt.Sprintf("BDAT %d", len(data))`, then ` LAST` for the last chunk. -/
def bdatCommand (data : Bytes) (last : Bool) : Bytes :=
  ascii "BDAT " ++ formatInt data.length ++ if last then ascii " LAST" else []

/-- `Client.Bdat(ctx, data, last)`: the command line, then the chunk as it is, with no dot-stuffing, then the reply,
which has to be `250`. The error (`none` for `nil`), and the connection after. -/
def Client.bdat (data : Bytes) (last : Bool) (c : Conn) : Option BdatErr × Conn :=
  let c := c.writeLine (bdatCommand data last)
  let c := { c with out := c.out ++ data }
  match readReply c.r with
  | (.error e, r) => (some (.read e), { c with r := r })
  | (.ok reply, r) => (if reply.code ≠ replyOK then some (.reply (replyToError reply)) else none, { c with r := r })

/-! ## `MAIL`, `RCPT` and `EHLO` -/

/-- The errors of `Client.Mail`, `Client.Rcpt` and `Client.ehlo`. -/
inductive CmdErr
  /-- `"smtp: <command>: %w"`, with `MAIL FROM`, `RCPT TO`, `EHLO`, `HELO`, `RSET` or `NOOP`: the reply could not be
  read. -/
  | read (command : Bytes) (e : ReplyErr)
  /-- `replyToError`: a reply other than the one expected. -/
  | reply (e : SMTPError)
  deriving DecidableEq

/-- The parameters that the options of `Client.Mail` set, each at its zero value to start with. -/
structure MailOptions where
  size : Int := 0
  body : Bytes := []
  smtpUTF8 : Bool := false
  dsnRet : Bytes := []
  dsnEnvID : Bytes := []
  deriving DecidableEq

/-- `MailOption`: a function that sets fields of the options. -/
def MailOption := MailOptions → MailOptions

/-- The options of a call set in turn on the zero options: `var mo mailOptions; for _, opt := range opts { opt(&mo) }`.
-/
def MailOptions.ofList (opts : List MailOption) : MailOptions := opts.foldl (fun mo opt => opt mo) {}

/-- `WithSize(n)`. -/
def withSize (n : Int) : MailOption := fun o => { o with size := n }

/-- `WithBody(body)`. -/
def withBody (body : Bytes) : MailOption := fun o => { o with body := body }

/-- `WithSMTPUTF8()`. -/
def withSMTPUTF8 : MailOption := fun o => { o with smtpUTF8 := true }

/-- `WithDSNReturn(ret)`. -/
def withDSNReturn (ret : Bytes) : MailOption := fun o => { o with dsnRet := ret }

/-- `WithDSNEnvelopeID(envid)`. -/
def withDSNEnvelopeID (envid : Bytes) : MailOption := fun o => { o with dsnEnvID := envid }

/-- The parameters `Client.Mail` appends to its command, each when its option is set. -/
def mailParams (mo : MailOptions) : Bytes :=
  (if mo.size > 0 then ascii " SIZE=" ++ formatInt mo.size else []) ++
  (if mo.body ≠ [] then ascii " BODY=" ++ mo.body else []) ++
  (if mo.smtpUTF8 then ascii " SMTPUTF8" else []) ++
  (if mo.dsnRet ≠ [] then ascii " RET=" ++ mo.dsnRet else []) ++
  (if mo.dsnEnvID ≠ [] then ascii " ENVID=" ++ mo.dsnEnvID else [])

/-- `Client.Mail(ctx, from, opts...)`: `fmt.Sprintf("MAIL FROM:<%s>", from)` and the parameters, with no check of
`from` (here `fromAddr`) or of the values, written by `WriteLine`, then the reply, which has to be `250`. -/
def Client.mail (fromAddr : Bytes) (opts : List MailOption) (c : Conn) : Option CmdErr × Conn :=
  let c := c.writeLine (ascii "MAIL FROM:<" ++ fromAddr ++ ascii ">" ++ mailParams (.ofList opts))
  match readReply c.r with
  | (.error e, r) => (some (.read (ascii "MAIL FROM") e), { c with r := r })
  | (.ok reply, r) => (if reply.code ≠ replyOK then some (.reply (replyToError reply)) else none, { c with r := r })

/-- The parameters that the options of `Client.Rcpt` set. -/
structure RcptOptions where
  dsnNotify : Bytes := []
  dsnOrcpt : Bytes := []
  deriving DecidableEq

/-- `RcptOption`: a function that sets fields of the options. -/
def RcptOption := RcptOptions → RcptOptions

/-- The options of a call set in turn on the zero options. -/
def RcptOptions.ofList (opts : List RcptOption) : RcptOptions := opts.foldl (fun ro opt => opt ro) {}

/-- `WithDSNNotify(notify)`. -/
def withDSNNotify (notify : Bytes) : RcptOption := fun o => { o with dsnNotify := notify }

/-- `WithDSNOriginalRecipient(orcpt)`. -/
def withDSNOriginalRecipient (orcpt : Bytes) : RcptOption := fun o => { o with dsnOrcpt := orcpt }

/-- The parameters `Client.Rcpt` appends to its command, each when its option is set. -/
def rcptParams (ro : RcptOptions) : Bytes :=
  (if ro.dsnNotify ≠ [] then ascii " NOTIFY=" ++ ro.dsnNotify else []) ++
  (if ro.dsnOrcpt ≠ [] then ascii " ORCPT=" ++ ro.dsnOrcpt else [])

/-- `Client.Rcpt(ctx, to, opts...)`: `fmt.Sprintf("RCPT TO:<%s>", to)` and the parameters, with no check of `to`
(here `toAddr`) or of the values, written by `WriteLine`, then the reply, which has to be `250`. -/
def Client.rcpt (toAddr : Bytes) (opts : List RcptOption) (c : Conn) : Option CmdErr × Conn :=
  let c := c.writeLine (ascii "RCPT TO:<" ++ toAddr ++ ascii ">" ++ rcptParams (.ofList opts))
  match readReply c.r with
  | (.error e, r) => (some (.read (ascii "RCPT TO") e), { c with r := r })
  | (.ok reply, r) => (if reply.code ≠ replyOK then some (.reply (replyToError reply)) else none, { c with r := r })

/-- `Extensions`, the map from keyword to parameters, as the pairs in the order they were set: a later pair of a
keyword replaces an earlier one. -/
def Extensions := List (Bytes × Bytes)

instance : DecidableEq Extensions := inferInstanceAs (DecidableEq (List (Bytes × Bytes)))

/-- `ParseEHLOResponse(lines)`: every line after the first, cut at its first space, keyword in upper case. -/
def parseEHLOResponse (lines : List Bytes) : Extensions :=
  (lines.drop 1).map fun line => (toUpper (cut Byte.sp line).1, (cut Byte.sp line).2.1)

/-- `Client.ehlo`: `EHLO` with `localName` as it is, and on `500` or `502` the same with `HELO`. On success, the
extensions to set (`none` for `nil`, after `HELO`). -/
def Client.ehlo (localName : Bytes) (c : Conn) : Except CmdErr (Option Extensions) × Conn :=
  match c.cmd (ascii "EHLO " ++ localName) with
  | (.error e, c) => (.error (.read (ascii "EHLO") e), c)
  | (.ok reply, c) =>
    if reply.code = replyOK then (.ok (some (parseEHLOResponse reply.lines)), c)
    else if reply.code = replySyntaxError ∨ reply.code = replyCommandNotImpl then
      match c.cmd (ascii "HELO " ++ localName) with
      | (.error e, c) => (.error (.read (ascii "HELO") e), c)
      | (.ok reply, c) => (if reply.code ≠ replyOK then .error (.reply (replyToError reply)) else .ok none, c)
    else (.error (.reply (replyToError reply)), c)

/-- `Extensions.Has`: the keyword is set. -/
def Extensions.has (exts : Extensions) (ext : Bytes) : Bool := List.any exts (·.1 = ext)

/-- `Extensions.Param`: the parameters the keyword was set to last, `""` when it is not set. -/
def Extensions.param (exts : Extensions) (ext : Bytes) : Bytes :=
  List.foldl (fun acc (kv : Bytes × Bytes) => if kv.1 = ext then kv.2 else acc) [] exts

/-! ## `SendMail`, `Reset`, `Noop` and `Close` -/

/-- The errors of `Client.SendMail`: that of `Mail` or of a `Rcpt`, or that of `Data`, returned as they are. -/
inductive SendErr
  | cmd (e : CmdErr)
  | data (e : DataErr)
  deriving DecidableEq

/-- The loop of `Client.SendMail` over the recipients: `Rcpt` with no option for each in turn, up to the first error. -/
def rcptAll : List Bytes → Conn → Option CmdErr × Conn
  | [], c => (none, c)
  | t :: rcpts, c =>
    match Client.rcpt t [] c with
    | (none, c) => rcptAll rcpts c
    | res => res

/-- `Client.SendMail(ctx, from, to, r)`: `Mail` with no option, `Rcpt` for each recipient, then `Data`, up to the first
error, which it returns. -/
def Client.sendMail (fromAddr : Bytes) (toAddrs : List Bytes) (b : Body) (c : Conn) : Option SendErr × Conn :=
  match Client.mail fromAddr [] c with
  | (some e, c) => (some (.cmd e), c)
  | (none, c) =>
    match rcptAll toAddrs c with
    | (some e, c) => (some (.cmd e), c)
    | (none, c) => ((Client.data b c).1.map .data, (Client.data b c).2)

/-- `Client.Reset` and `Client.Noop`, which differ only in their command: the command, then its reply, which has to be
`250`. -/
def Client.checkedCmd (command : Bytes) (c : Conn) : Option CmdErr × Conn :=
  match c.cmd command with
  | (.error e, c) => (some (.read command e), c)
  | (.ok reply, c) => (if reply.code ≠ replyOK then some (.reply (replyToError reply)) else none, c)

/-- `Client.Reset(ctx)`. -/
def Client.reset : Conn → Option CmdErr × Conn := Client.checkedCmd (ascii "RSET")

/-- `Client.Noop(ctx)`. -/
def Client.noop : Conn → Option CmdErr × Conn := Client.checkedCmd (ascii "NOOP")

/-- `Client.Close()`: `QUIT`, whose reply is read and ignored; the error of closing the connection is not modelled. -/
def Client.close (c : Conn) : Conn := (c.cmd (ascii "QUIT")).2

/-! ## `AUTH` -/

/-- The errors of `Client.Auth` once `AUTH` is written. -/
inductive AuthErr
  /-- `"smtp: auth read: %w"`: a reply could not be read. -/
  | read (e : ReplyErr)
  /-- `replyToError`: a reply other than `235` and `334`. -/
  | reply (e : SMTPError)
  /-- `"smtp: auth decode challenge: %w"`: the challenge is not base64. -/
  | decode
  /-- `"smtp: auth mechanism: %w"`: `Next` failed, with its error's text; `*` has been sent and a reply read. -/
  | mechanism (msg : Bytes)
  deriving DecidableEq

/-- The command `Client.Auth` writes: `AUTH`, the mechanism's name and, when `Start` gives one, the initial response
in base64. -/
def authCommand (mech : SASLMechanism) : Bytes :=
  match mech.start with
  | some initialResp => ascii "AUTH " ++ mech.name ++ Byte.sp :: base64Encode initialResp
  | none => ascii "AUTH " ++ mech.name

/-- The challenge-response loop of `Client.Auth`, for at most `fuel` replies: `235` ends it, `334` carries a base64
challenge that `Next` answers, anything else is an error. `none` when the fuel runs out first. -/
def authLoop (hmacMD5 : Bytes → Bytes → Bytes) : Nat → SASLMechanism → Conn → Option (Option AuthErr × Conn)
  | 0, _, _ => none
  | fuel + 1, mech, c =>
    match readReply c.r with
    | (.error e, r) => some (some (.read e), { c with r := r })
    | (.ok reply, r) =>
      if reply.code = replyAuthOK then some (none, { c with r := r })
      else if reply.code ≠ replyAuthContinue then some (some (.reply (replyToError reply)), { c with r := r })
      else match base64Decode (reply.lines.headD []) with
        | none => some (some .decode, { c with r := r })
        | some challenge =>
          match mech.next hmacMD5 challenge with
          | .error msg =>
            let c := { c with r := r }.writeLine [42]
            some (some (.mechanism msg), { c with r := (readReply c.r).2 })
          | .ok (resp, mech) => authLoop hmacMD5 fuel mech ({ c with r := r }.writeLine (base64Encode resp))

/-- `Client.Auth(ctx, mech)` with fuel for `fuel` replies of its loop: the error (`none` for `nil`) and the connection
after, or `none` when the loop has not returned. -/
def Client.auth (hmacMD5 : Bytes → Bytes → Bytes) (fuel : Nat) (mech : SASLMechanism) (c : Conn) :
    Option (Option AuthErr × Conn) :=
  authLoop hmacMD5 fuel mech (c.writeLine (authCommand mech))

/-! ## The client and its connection's setup -/

/-- `Client`, with the fields its methods read: the connection, the name `ehlo` sends, the extensions of the last
`EHLO` reply (`none` for `nil`), and whether the connection is TLS. -/
structure Client where
  conn : Conn
  localName : Bytes
  exts : Option Extensions
  tls : Bool
  deriving DecidableEq

/-- The errors of `NewClient`. -/
inductive NewClientErr
  /-- `"smtp: reading greeting: %w"`. -/
  | greeting (e : ReplyErr)
  /-- `replyToError`: a greeting other than `220`. -/
  | reply (e : SMTPError)
  /-- The error of `ehlo`. -/
  | ehlo (e : CmdErr)
  deriving DecidableEq

/-- `NewClient(nc, localName)`: the greeting, which has to be `220`, then `ehlo`; the client, or the error. The first line
of the greeting, which the client keeps and never reads, is left out. -/
def newClient (localName : Bytes) (c : Conn) : Except NewClientErr Client :=
  match readReply c.r with
  | (.error e, _) => .error (.greeting e)
  | (.ok reply, r) =>
    if reply.code ≠ replyServiceReady then .error (.reply (replyToError reply))
    else match Client.ehlo localName { c with r := r } with
      | (.error e, _) => .error (.ehlo e)
      | (.ok exts, c) => .ok ⟨c, localName, exts, false⟩

/-- `Client.ServerMaxSize()`: the parameters of `SIZE` read by `fmt.Sscanf` into an `int64` that stays `0` when the
scan fails; `0` with no extensions or with empty parameters. -/
def Client.serverMaxSize (cl : Client) : Int :=
  match cl.exts with
  | none => 0
  | some exts => if exts.param (ascii "SIZE") = [] then 0 else (sscanInt (exts.param (ascii "SIZE"))).getD 0

/-- The errors of `Client.StartTLS`. -/
inductive StartTLSErr
  /-- `"smtp: STARTTLS: %w"`: the reply could not be read. -/
  | read (e : ReplyErr)
  /-- `replyToError`: a reply other than `220`. -/
  | reply (e : SMTPError)
  /-- `"smtp: TLS handshake: %w"`. -/
  | handshake
  /-- The error of `ehlo` after the handshake. -/
  | ehlo (e : CmdErr)
  deriving DecidableEq

/-- `Client.StartTLS(ctx, config)`: `STARTTLS`, which has to be answered `220`, then the handshake, whose result is
`handshake`: on success the stream the TLS connection decrypts, which the connection reads from then on, and `ehlo`
again, whose extensions replace the old ones when it succeeds. -/
def Client.startTLS (handshake : Option BufReader) (cl : Client) : Option StartTLSErr × Client :=
  match cl.conn.cmd (ascii "STARTTLS") with
  | (.error e, c) => (some (.read e), { cl with conn := c })
  | (.ok reply, c) =>
    if reply.code ≠ replyServiceReady then (some (.reply (replyToError reply)), { cl with conn := c })
    else match handshake with
      | none => (some .handshake, { cl with conn := c })
      | some r =>
        match Client.ehlo cl.localName { c with r := r } with
        | (.error e, c) => (some (.ehlo e), { cl with conn := c, tls := true })
        | (.ok exts, c) => (none, { cl with conn := c, exts := exts, tls := true })

/-- The errors of `Client.SubmitMessage`. -/
inductive SubmitErr
  /-- `"smtp: submission STARTTLS: %w"`. -/
  | starttls (e : StartTLSErr)
  /-- `"smtp: submission AUTH: %w"`. -/
  | auth (e : AuthErr)
  /-- The error of `SendMail`. -/
  | send (e : SendErr)
  deriving DecidableEq

/-- `Client.SubmitMessage(ctx, mech, tlsConfig, from, to, r)`: `StartTLS` when the connection is not TLS, the server
has `STARTTLS` and a configuration is given (`tlsConfig`), then `Auth`, then `SendMail`. `Auth` runs with fuel for
`fuel` replies, and the result is `none` when it has not returned. -/
def Client.submitMessage (hmacMD5 : Bytes → Bytes → Bytes) (fuel : Nat) (handshake : Option BufReader)
    (mech : SASLMechanism) (tlsConfig : Bool) (fromAddr : Bytes) (toAddrs : List Bytes) (b : Body) (cl : Client) :
    Option (Option SubmitErr × Client) :=
  let step1 : Option StartTLSErr × Client :=
    if ¬cl.tls ∧ (cl.exts.getD []).has (ascii "STARTTLS") ∧ tlsConfig then cl.startTLS handshake else (none, cl)
  match step1 with
  | (some e, cl) => some (some (.starttls e), cl)
  | (none, cl) =>
    (Client.auth hmacMD5 fuel mech cl.conn).map fun
      | (some e, c) => (some (.auth e), { cl with conn := c })
      | (none, c) => ((Client.sendMail fromAddr toAddrs b c).1.map .send,
        { cl with conn := (Client.sendMail fromAddr toAddrs b c).2 })

end Smtp
