import Mathlib.Data.List.Forall2
import Smtp.Theorems.Rejections
import Smtp.Theorems.Bdat

/-!
# A whole message: `SendMail` against the session

`Client.SendMail` runs `Mail`, one `Rcpt` per recipient and `Data` in turn, and stops at the first error. Against the
turns of the server's command loop that read what it writes, from a greeted session, with addresses that the session
reads back (`ReadsAs`), at most `maxRecipients` of them, and handlers that accept: the session calls `OnMail` with the
sender, `OnRcpt` with each recipient in order and `OnData` with the whole envelope and the canonical body, answers
every command, and ends greeted with an empty transaction. The client reads exactly those replies, writes exactly what
the session read, and returns `nil` exactly when the reply that ends the message is `250`
(`sendMail_delivers`).

`SendMail` sends no `RSET` when it stops early. When the recipients are more than `maxRecipients`, the session answers
the first extra one `452` and the client writes nothing more: no further `RCPT` and no `DATA`
(`sendMail_stops_at_cap`).
-/

namespace Smtp

/-- An address as `Client.Mail` and `Client.Rcpt` write it and the session reads it back: `ParseMailbox` accepts it as
`m`, and it has no space, `\n` or NUL and fits a command line after `MAIL FROM:<`. -/
structure ReadsAs (a : Bytes) (m : Mailbox) : Prop where
  parse : parseMailbox a = some m
  sp : Byte.sp ∉ a
  lf : Byte.lf ∉ a
  nul : Byte.nul ∉ a
  length : a.length ≤ 498

/-- `250 2.1.0 Originator ok`, the session's answer to an accepted `MAIL`. -/
def originatorOk : Reply := lineReply replyOK enhancedCodeOtherAddress (ascii "Originator ok")

/-- `250 2.1.5 Recipient ok`, its answer to an accepted `RCPT`. -/
def recipientOk : Reply := lineReply replyOK enhancedCodeDestValid (ascii "Recipient ok")

/-- What the `Mail` call of `SendMail` writes. -/
def mailWrites (fromAddr : Bytes) : Bytes := ascii "MAIL FROM:<" ++ fromAddr ++ ascii ">" ++ crlf

/-- What the `Rcpt` calls of `SendMail` write for the recipients `ts`. -/
def rcptWrites (ts : List Bytes) : Bytes := (ts.map fun t => ascii "RCPT TO:<" ++ t ++ ascii ">" ++ crlf).flatten

/-- What `SendMail` writes when every command is accepted: `MAIL`, one `RCPT` per recipient, `DATA`, and the body
through a `dotWriter`. -/
def sendMailWrites (fromAddr : Bytes) (ts ps : List Bytes) : Bytes :=
  mailWrites fromAddr ++ rcptWrites ts ++ ascii "DATA\r\n" ++ (dotWrite ps).out

/-- `452 5.5.3 Too many recipients`, the answer to a `RCPT` beyond the cap. -/
def tooManyRecipients : Reply :=
  lineReply replyInsufficientStorage enhancedCodeTooManyRecipients (ascii "Too many recipients")

namespace SendMailAux
open ClientAux RepliesAux AddressAux BdatAux SessionAux

variable (srv : Server) (o : Outcomes)

/-! ## The session's turns -/

/-- `handleMAIL` in a greeted session, with a path that parses as `rp` and `OnMail` returning `nil` when it is set:
the path starts the transaction, and `250`. -/
theorem handleMAIL_accepts (args : Bytes) (w : World) (rp : ReversePath) (hst : w.s.state = .greeted)
    (hsub : ¬(srv.submissionMode ∧ ¬w.s.authenticated)) (hkw : (ascii "FROM:").isPrefixOf (toUpper args))
    (hp : parseReversePath (pathArg 5 args) = some rp) (ho : o.mail = none) :
    handleMAIL srv o args w = { w with
      s := { w.s with reversePath := rp, forwardPaths := [], state := .mail }
      out := w.out ++ writeReplies [originatorOk]
      calls := w.calls ++ if srv.mailHandler then [.mail rp] else [] } := by
  rw [handleMAIL, hst, if_neg (by decide), if_neg (by decide), if_neg hsub, if_neg (not_not.2 hkw), hp]
  cases hb : srv.mailHandler <;>
    simp [World.invoke, hb, ho, World.call, World.setS, World.reply, originatorOk, lineReply]

/-- `handleRCPT` during a transaction, below the recipient cap, with a path that parses as `fp` and `OnRcpt` returning
`nil` when it is set: the path joins the recipients, and `250`. -/
theorem handleRCPT_accepts (args : Bytes) (w : World) (fp : ForwardPath) (hst : w.s.state = .mail ∨ w.s.state = .rcpt)
    (hcap : (w.s.forwardPaths.length : Int) < srv.maxRecipients) (hkw : (ascii "TO:").isPrefixOf (toUpper args))
    (hp : parseForwardPath (pathArg 3 args) = some fp) (ho : o.rcpt = none) :
    handleRCPT srv o args w = { w with
      s := { w.s with forwardPaths := w.s.forwardPaths ++ [fp], state := .rcpt }
      out := w.out ++ writeReplies [recipientOk]
      calls := w.calls ++ if srv.rcptHandler then [.rcpt fp] else [] } := by
  have hr : ¬w.s.state.rank < SessionState.mail.rank := by rcases hst with h | h <;> simp [h, SessionState.rank]
  rw [handleRCPT, if_neg hr, if_neg (Int.not_le.2 hcap), if_neg (not_not.2 hkw), hp]
  cases hb : srv.rcptHandler <;> rcases hst with h | h <;>
    simp [World.invoke, hb, ho, h, World.call, World.setS, World.reply, recipientOk, lineReply, SessionState.rank]

/-- The line of `MAIL FROM:<a>` or `RCPT TO:<a>` is a command line when `a` has no `\n` or NUL and fits. -/
theorem line_fits {a : Bytes} (hl : Byte.lf ∉ a) (hn : Byte.nul ∉ a) (hlen : a.length ≤ 498) (kw : Bytes)
    (hk : Byte.lf ∉ kw ∧ Byte.nul ∉ kw) (hkl : kw.length ≤ 11) :
    Byte.lf ∉ kw ++ a ++ ascii ">" ++ [] ∧ Byte.nul ∉ kw ++ a ++ ascii ">" ++ [] ∧
      (kw ++ a ++ ascii ">" ++ []).length ≤ 510 := by
  simp only [List.append_nil, List.mem_append, not_or, List.length_append]
  exact ⟨⟨⟨hk.1, hl⟩, by decide⟩, ⟨⟨hk.2, hn⟩, by decide⟩, by simp [ascii]; omega⟩

/-- The turn over the `MAIL` line of an address that reads back, in a greeted session that may take it. -/
theorem step_mail_accepts (w : World) {a : Bytes} {m : Mailbox} (ha : ReadsAs a m) (after : Bytes) (e : ReadErr)
    (hsd : o.shutdown = false) (hm : o.mail = none) (hst : w.s.state = .greeted)
    (hsub : ¬(srv.submissionMode ∧ ¬w.s.authenticated))
    (hw : w.r = ⟨mailWrites a ++ after, e⟩) :
    step srv o w = ({ w with
      s := { w.s with reversePath := { mailbox := m }, forwardPaths := [], state := .mail }
      r := ⟨after, e⟩
      out := w.out ++ writeReplies [originatorOk]
      calls := w.calls ++ if srv.mailHandler then [.mail { mailbox := m }] else [] }, .next) := by
  obtain ⟨hl, hn, hlen⟩ := line_fits ha.lf ha.nul ha.length (ascii "MAIL FROM:<") (by decide) (by decide)
  have hkw : (ascii "FROM:").isPrefixOf (toUpper (ascii "FROM:" ++ ascii "<" ++ a ++ ascii ">" ++ [])) := by
    simp only [List.append_assoc]; exact isPrefixOf_toUpper _ _ (by decide) (by decide)
  have hp : parseReversePath (pathArg 5 (ascii "FROM:" ++ ascii "<" ++ a ++ ascii ">" ++ [])) = some { mailbox := m } := by
    rw [show 5 = (ascii "FROM:").length from rfl, pathArg_bracketed _ a _ ha.sp (.inl rfl), parseReversePath_bracketed ha.parse]
  rw [step_mail srv o w a [] after e hsd hl hn hlen (by rw [hw, mailWrites, List.append_nil]),
    handleMAIL_accepts srv o _ { w with r := ⟨after, e⟩ } _ hst hsub hkw hp hm]

/-- The turn over the `RCPT` line of an address that reads back, during a transaction below the cap. -/
theorem step_rcpt_accepts (w : World) {a : Bytes} {m : Mailbox} (ha : ReadsAs a m) (after : Bytes) (e : ReadErr)
    (hsd : o.shutdown = false) (hr : o.rcpt = none) (hst : w.s.state = .mail ∨ w.s.state = .rcpt)
    (hcap : (w.s.forwardPaths.length : Int) < srv.maxRecipients)
    (hw : w.r = ⟨ascii "RCPT TO:<" ++ a ++ ascii ">" ++ crlf ++ after, e⟩) :
    step srv o w = ({ w with
      s := { w.s with forwardPaths := w.s.forwardPaths ++ [⟨m⟩], state := .rcpt }
      r := ⟨after, e⟩
      out := w.out ++ writeReplies [recipientOk]
      calls := w.calls ++ if srv.rcptHandler then [.rcpt ⟨m⟩] else [] }, .next) := by
  obtain ⟨hl, hn, hlen⟩ := line_fits ha.lf ha.nul ha.length (ascii "RCPT TO:<") (by decide) (by decide)
  have hkw : (ascii "TO:").isPrefixOf (toUpper (ascii "TO:" ++ ascii "<" ++ a ++ ascii ">" ++ [])) := by
    simp only [List.append_assoc]; exact isPrefixOf_toUpper _ _ (by decide) (by decide)
  have hp : parseForwardPath (pathArg 3 (ascii "TO:" ++ ascii "<" ++ a ++ ascii ">" ++ [])) = some ⟨m⟩ := by
    rw [show 3 = (ascii "TO:").length from rfl, pathArg_bracketed _ a _ ha.sp (.inl rfl), parseForwardPath_bracketed ha.parse]
  rw [step_rcpt srv o w a [] after e hsd hl hn hlen (by rw [hw, List.append_nil]),
    handleRCPT_accepts srv o _ { w with r := ⟨after, e⟩ } _ hst hcap hkw hp hr]

/-- The turns over the `RCPT` lines of recipients that read back, as many as the cap leaves room for: each joins the
recipients, in order, and is answered `250`. -/
theorem run_rcpts (R : Bytes) (e : ReadErr) {ts : List Bytes} {ms : List Mailbox} (h : List.Forall₂ ReadsAs ts ms) :
    ∀ (os : List Outcomes) (w : World), os.length = ts.length → (∀ o ∈ os, o.shutdown = false ∧ o.rcpt = none) →
      (w.s.state = .mail ∨ w.s.state = .rcpt) →
      ((w.s.forwardPaths.length + ts.length : Nat) : Int) ≤ srv.maxRecipients → w.r = ⟨rcptWrites ts ++ R, e⟩ →
      run srv os w = ({ w with
        s := { w.s with
          forwardPaths := w.s.forwardPaths ++ ms.map (⟨·⟩)
          state := if ts = [] then w.s.state else .rcpt }
        r := ⟨R, e⟩
        out := w.out ++ writeReplies (ts.map fun _ => recipientOk)
        calls := w.calls ++ if srv.rcptHandler then ms.map fun m => .rcpt ⟨m⟩ else [] }, .next) := by
  induction h with
  | nil =>
    rintro (_ | _) ⟨s, r, out, calls⟩ hl - - - hw
    · simp only [rcptWrites, List.map_nil, List.flatten_nil, List.nil_append] at hw
      simp [run, hw]
    · simp at hl
  | @cons t m ts ms ha _ ih =>
    rintro (_ | ⟨o, os⟩) w hl ho hst hcap hw
    · simp at hl
    have hcap' : (w.s.forwardPaths.length : Int) < srv.maxRecipients := by
      simp only [List.length_cons] at hcap; omega
    rw [run, step_rcpt_accepts srv o w ha (rcptWrites ts ++ R) e (ho o (.head _)).1 (ho o (.head _)).2 hst hcap'
      (by rw [hw]; simp only [rcptWrites, List.map_cons, List.flatten_cons, List.append_assoc])]
    dsimp only
    rw [ih os _ (by simpa using hl) (fun o h => ho o (.tail _ h)) (.inr rfl)
      (by simp only [List.length_append, List.length_cons, List.length_nil] at hcap ⊢; omega) rfl]
    cases hb : srv.rcptHandler <;> simp [hb]

/-- The turns over `MAIL` and the `RCPT` lines of recipients within the cap, every one accepted: the transaction
holds the sender and the recipients in order. -/
theorem run_mail_rcpts (w : World) {a : Bytes} {m : Mailbox} {ts : List Bytes} {ms : List Mailbox} (ha : ReadsAs a m)
    (hts : List.Forall₂ ReadsAs ts ms) (os : List Outcomes) (R : Bytes) (e : ReadErr)
    (hcap : (ts.length : Int) ≤ srv.maxRecipients) (hst : w.s.state = .greeted)
    (hsub : ¬(srv.submissionMode ∧ ¬w.s.authenticated)) (hom : o.shutdown = false ∧ o.mail = none)
    (hlen : os.length = ts.length) (hos : ∀ o ∈ os, o.shutdown = false ∧ o.rcpt = none)
    (hw : w.r = ⟨mailWrites a ++ rcptWrites ts ++ R, e⟩) :
    run srv (o :: os) w = ({ w with
      s := { w.s with
        reversePath := { mailbox := m }, forwardPaths := ms.map (⟨·⟩), state := if ts = [] then .mail else .rcpt }
      r := ⟨R, e⟩
      out := w.out ++ writeReplies [originatorOk] ++ writeReplies (ts.map fun _ => recipientOk)
      calls := w.calls ++ (if srv.mailHandler then [.mail { mailbox := m }] else []) ++
        if srv.rcptHandler then ms.map fun m => .rcpt ⟨m⟩ else [] }, .next) := by
  have hmail := step_mail_accepts srv o w ha (rcptWrites ts ++ R) e hom.1 hom.2 hst hsub (by rw [hw, List.append_assoc])
  rw [run, hmail]
  refine (run_rcpts srv R e hts os _ hlen hos (.inl rfl) (by simpa using hcap) rfl).trans ?_
  simp

/-- At the end of a message the transaction is emptied and the session is greeted again. -/
theorem handleDATA_s (w : World) (hst : w.s.state = .rcpt) :
    (handleDATA srv o w).s = { w.s with reversePath := {}, forwardPaths := [], bdatBuffer := [], state := .greeted } := by
  rw [handleDATA, if_neg (by simp [hst, SessionState.rank])]
  cases srv.dataHandler <;> simp [World.invoke, finishMessage_s]

/-- The turn over a `RCPT` line when the session holds `maxRecipients` recipients or more: `452`, and nothing else. -/
theorem step_rcpt_full (w : World) {a : Bytes} {m : Mailbox} (ha : ReadsAs a m) (after : Bytes) (e : ReadErr)
    (hsd : o.shutdown = false) (hst : w.s.state = .mail ∨ w.s.state = .rcpt)
    (hcap : srv.maxRecipients ≤ w.s.forwardPaths.length)
    (hw : w.r = ⟨ascii "RCPT TO:<" ++ a ++ ascii ">" ++ crlf ++ after, e⟩) :
    step srv o w = ({ w with r := ⟨after, e⟩, out := w.out ++ writeReplies [tooManyRecipients] }, .next) := by
  obtain ⟨hl, hn, hlen⟩ := line_fits ha.lf ha.nul ha.length (ascii "RCPT TO:<") (by decide) (by decide)
  have hr : ¬w.s.state.rank < SessionState.mail.rank := by rcases hst with h | h <;> simp [h, SessionState.rank]
  rw [step_rcpt srv o w a [] after e hsd hl hn hlen (by rw [hw, List.append_nil])]
  simp [handleRCPT, hr, hcap, World.reply, tooManyRecipients, lineReply]

/-! ## The client -/

@[simp] theorem mailParams_nil : mailParams (.ofList []) = [] := rfl

@[simp] theorem rcptParams_nil : rcptParams (.ofList []) = [] := rfl

/-- `Client.Mail` against a readable reply: it writes its line, reads the reply, and returns `nil` exactly when it is
`250`. -/
theorem mail_client (a : Bytes) (opts : List MailOption) (c : Conn) (f : Reply) (later : Bytes) (hf : f.Readable)
    (hc : c.r.bytes = writeReplies [f] ++ later) :
    Client.mail a opts c = (if f.code ≠ replyOK then some (.reply (replyToError f)) else none,
      ⟨⟨later, c.r.err⟩, c.out ++ (ascii "MAIL FROM:<" ++ a ++ ascii ">" ++ mailParams (.ofList opts)) ++ crlf⟩) := by
  have h1 := readReply_readable hf later c.r.err
  rw [← hc] at h1
  rw [Client.mail]
  dsimp only [Conn.writeLine]
  rw [h1]

theorem rcpt_client (a : Bytes) (opts : List RcptOption) (c : Conn) (f : Reply) (later : Bytes) (hf : f.Readable)
    (hc : c.r.bytes = writeReplies [f] ++ later) :
    Client.rcpt a opts c = (if f.code ≠ replyOK then some (.reply (replyToError f)) else none,
      ⟨⟨later, c.r.err⟩, c.out ++ (ascii "RCPT TO:<" ++ a ++ ascii ">" ++ rcptParams (.ofList opts)) ++ crlf⟩) := by
  have h1 := readReply_readable hf later c.r.err
  rw [← hc] at h1
  rw [Client.rcpt]
  dsimp only [Conn.writeLine]
  rw [h1]

/-- The loop over the recipients against a `250` for each: it writes their lines and reads their replies. -/
theorem rcptAll_accepted (later : Bytes) : ∀ (ts : List Bytes) (c : Conn),
    c.r.bytes = writeReplies (ts.map fun _ => recipientOk) ++ later →
    rcptAll ts c = (none, ⟨⟨later, c.r.err⟩, c.out ++ rcptWrites ts⟩)
  | [], ⟨⟨b, e⟩, out⟩, hc => by
    simp only [List.map_nil, writeReplies_nil, List.nil_append] at hc
    simp [rcptAll, rcptWrites, hc]
  | t :: ts, c, hc => by
    rw [rcptAll, rcpt_client t [] c recipientOk (writeReplies (ts.map fun _ => recipientOk) ++ later) (by decide)
      (by rw [hc, List.map_cons, writeReplies_cons, writeReplies_cons, writeReplies_nil, List.append_nil,
        List.append_assoc]), if_neg (show ¬(recipientOk.code ≠ replyOK) from not_not.2 rfl)]
    dsimp only
    rw [rcptAll_accepted later ts _ rfl]
    simp [rcptWrites, List.append_assoc]

/-- `SendMail` against `250` for `MAIL` and each `RCPT`, `354`, and a readable reply `f` that ends the message: it
writes every command and the body, reads every reply, and returns `nil` exactly when `f` is `250`. -/
theorem sendMail_client (a : Bytes) (ts ps : List Bytes) (c : Conn) (f : Reply) (later : Bytes) (hf : f.Readable)
    (hc : c.r.bytes = writeReplies (originatorOk :: ts.map (fun _ => recipientOk) ++ [startReply, f]) ++ later) :
    Client.sendMail a ts ⟨ps, false⟩ c = (if f.code ≠ replyOK then some (.data (.reply (replyToError f))) else none,
      ⟨⟨later, c.r.err⟩, c.out ++ sendMailWrites a ts ps⟩) := by
  rw [Client.sendMail, mail_client a [] c originatorOk
    (writeReplies (ts.map fun _ => recipientOk) ++ (writeReplies [startReply, f] ++ later)) (by decide)
    (by rw [hc]; simp only [List.cons_append, writeReplies_cons, writeReplies_append, writeReplies_nil,
      List.append_nil, List.append_assoc]),
    if_neg (show ¬(originatorOk.code ≠ replyOK) from not_not.2 rfl)]
  dsimp only
  rw [rcptAll_accepted _ ts _ rfl]
  dsimp only
  rw [data_client ⟨ps, false⟩ _ f later hf rfl]
  by_cases hok : f.code = replyOK <;>
    simp [hok, sendMailWrites, mailWrites, List.append_assoc]

/-- The loop over the recipients against `250` for each of `ts`, then a refusal for `t`: it returns the refusal and
writes no recipient after `t`. -/
theorem rcptAll_refused (t : Bytes) (rest : List Bytes) (f : Reply) (later : Bytes) (hf : f.Readable)
    (hok : f.code ≠ replyOK) : ∀ (ts : List Bytes) (c : Conn),
    c.r.bytes = writeReplies (ts.map (fun _ => recipientOk) ++ [f]) ++ later →
    rcptAll (ts ++ t :: rest) c = (some (.reply (replyToError f)), ⟨⟨later, c.r.err⟩, c.out ++ rcptWrites (ts ++ [t])⟩)
  | [], c, hc => by
    rw [List.nil_append, rcptAll, rcpt_client t [] c f later hf (by simpa using hc), if_pos hok]
    simp [rcptWrites, List.append_assoc]
  | t' :: ts, c, hc => by
    rw [List.cons_append, rcptAll, rcpt_client t' [] c recipientOk
      (writeReplies (ts.map (fun _ => recipientOk) ++ [f]) ++ later) (by decide)
      (by rw [hc]; simp only [List.map_cons, List.cons_append, writeReplies_cons, writeReplies_nil, List.append_nil,
        List.append_assoc]), if_neg (show ¬(recipientOk.code ≠ replyOK) from not_not.2 rfl)]
    dsimp only
    rw [rcptAll_refused t rest f later hf hok ts _ rfl]
    simp [rcptWrites, List.append_assoc]

/-- `SendMail` against `250` for `MAIL` and for each of `ts`, then a refusal for `t`: it returns the refusal, and writes
neither the recipients after `t` nor `DATA`. -/
theorem sendMail_rcpt_refused (a t : Bytes) (ts rest : List Bytes) (b : Body) (c : Conn) (f : Reply) (later : Bytes)
    (hf : f.Readable) (hok : f.code ≠ replyOK)
    (hc : c.r.bytes = writeReplies (originatorOk :: ts.map (fun _ => recipientOk) ++ [f]) ++ later) :
    Client.sendMail a (ts ++ t :: rest) b c = (some (.cmd (.reply (replyToError f))),
      ⟨⟨later, c.r.err⟩, c.out ++ mailWrites a ++ rcptWrites (ts ++ [t])⟩) := by
  rw [Client.sendMail, mail_client a [] c originatorOk (writeReplies (ts.map (fun _ => recipientOk) ++ [f]) ++ later)
    (by decide) (by rw [hc]; simp only [List.cons_append, writeReplies_cons, writeReplies_nil, List.append_nil,
      List.append_assoc]), if_neg (show ¬(originatorOk.code ≠ replyOK) from not_not.2 rfl)]
  dsimp only
  rw [rcptAll_refused t rest f later hf hok ts _ rfl]
  simp [mailWrites, List.append_assoc]

/-- The session's side of `SendMail` when every command is accepted: the turns that read `MAIL`, each `RCPT`, and
`DATA` with the dot-encoded body. -/
theorem run_sendMail (srv : Server) (om od : Outcomes) (ors : List Outcomes) (w : World) (fromAddr : Bytes)
    (m : Mailbox) (ts : List Bytes) (ms : List Mailbox) (ps : List Bytes) (after : Bytes) (e : ReadErr)
    (hfrom : ReadsAs fromAddr m) (hts : List.Forall₂ ReadsAs ts ms) (hne : ts ≠ [])
    (hcap : (ts.length : Int) ≤ srv.maxRecipients) (hst : w.s.state = .greeted)
    (hsub : ¬(srv.submissionMode ∧ ¬w.s.authenticated)) (hom : om.shutdown = false ∧ om.mail = none)
    (hlen : ors.length = ts.length) (hors : ∀ o ∈ ors, o.shutdown = false ∧ o.rcpt = none)
    (hod : od.shutdown = false) (hw : w.r = ⟨sendMailWrites fromAddr ts ps ++ after, e⟩) :
    (run srv (om :: ors ++ [od]) w).1.out = w.out ++ writeReplies (originatorOk :: ts.map (fun _ => recipientOk) ++
      [startReply, messageReply (if srv.dataHandler then od.data else none)]) ∧
    (run srv (om :: ors ++ [od]) w).1.calls = w.calls ++ (if srv.mailHandler then [.mail { mailbox := m }] else []) ++
      (if srv.rcptHandler then ms.map fun m => .rcpt ⟨m⟩ else []) ++
      (if srv.dataHandler then [.data { mailbox := m } (ms.map (⟨·⟩)) (canonicalBody ps)] else []) ++
      (if srv.resetHandler then [.reset] else []) ∧
    (run srv (om :: ors ++ [od]) w).1.s = { w.s with reversePath := {}, forwardPaths := [], bdatBuffer := [] } ∧
    (run srv (om :: ors ++ [od]) w).1.r = ⟨after, e⟩ ∧ (run srv (om :: ors ++ [od]) w).2 = .next := by
  set W : World := { w with
    s := { w.s with reversePath := { mailbox := m }, forwardPaths := ms.map (⟨·⟩), state := .rcpt }
    r := ⟨ascii "DATA\r\n" ++ (dotWrite ps).out ++ after, e⟩
    out := w.out ++ writeReplies [originatorOk] ++ writeReplies (ts.map fun _ => recipientOk)
    calls := w.calls ++ (if srv.mailHandler then [.mail { mailbox := m }] else []) ++
      if srv.rcptHandler then ms.map fun m => .rcpt ⟨m⟩ else [] } with hW
  have hrun : run srv (om :: ors) w = (W, .next) := by
    rw [run_mail_rcpts srv om w hfrom hts ors (ascii "DATA\r\n" ++ (dotWrite ps).out ++ after) e hcap hst hsub hom hlen
      hors (by rw [hw]; simp only [sendMailWrites, List.append_assoc]), if_neg hne]
  obtain ⟨h1, h2, h3, h4⟩ := step_data srv od W ps after e rfl hod rfl
  have h5 : (step srv od W).1.s = { w.s with reversePath := {}, forwardPaths := [], bdatBuffer := [] } := by
    rw [step_dataLine srv od W _ e hod rfl, handleDATA_s srv od _ rfl]
    simp [hW, ← hst]
  rw [run_append_of_next srv [od] _ w W hrun, run]
  generalize step srv od W = t at h1 h2 h3 h4 h5
  obtain ⟨w', fl⟩ := t
  cases h4
  dsimp only [run] at h1 h2 h3 h5 ⊢
  exact ⟨by rw [h1]; simp [hW], by rw [h2], h5, h3, rfl⟩

end SendMailAux

open SendMailAux ClientAux BdatAux

/-- `Client.SendMail`, with a body whose reader does not fail, against the turns of the server's command loop that
read what it writes, from a greeted session that may take `MAIL`. Its addresses read back as the mailboxes `m` and
`ms`, there is at least one recipient and no more than `maxRecipients`, and `OnMail` and `OnRcpt` return `nil`
whenever they are called; `OnData` returns anything. The session answers `250` to `MAIL` and to each `RCPT`, `354`,
and the reply that ends the message; it calls `OnMail` with `m`, `OnRcpt` with each of `ms` in order, and `OnData`
with the envelope of these paths and the canonical body; it reads exactly what the client writes, and ends greeted,
with an empty transaction and the rest of the session as it was. The client reads exactly these replies and returns
`nil` exactly when the last is `250`, and otherwise that reply as its error. -/
theorem sendMail_delivers (srv : Server) (om od : Outcomes) (ors : List Outcomes) (w : World) (fromAddr : Bytes)
    (m : Mailbox) (ts : List Bytes) (ms : List Mailbox) (ps : List Bytes) (after later : Bytes) (e : ReadErr)
    (c : Conn) (hfrom : ReadsAs fromAddr m) (hts : List.Forall₂ ReadsAs ts ms) (hne : ts ≠ [])
    (hcap : (ts.length : Int) ≤ srv.maxRecipients) (hst : w.s.state = .greeted)
    (hsub : ¬(srv.submissionMode ∧ ¬w.s.authenticated)) (hom : om.shutdown = false ∧ om.mail = none)
    (hlen : ors.length = ts.length) (hors : ∀ o ∈ ors, o.shutdown = false ∧ o.rcpt = none)
    (hod : od.shutdown = false) (hd : ∀ err, od.data = some err → err.Sendable)
    (hw : w.r = ⟨sendMailWrites fromAddr ts ps ++ after, e⟩)
    (hc : c.r.bytes = writeReplies (originatorOk :: ts.map (fun _ => recipientOk) ++
      [startReply, messageReply (if srv.dataHandler then od.data else none)]) ++ later) :
    (run srv (om :: ors ++ [od]) w).1.out = w.out ++ writeReplies (originatorOk :: ts.map (fun _ => recipientOk) ++
      [startReply, messageReply (if srv.dataHandler then od.data else none)]) ∧
    (run srv (om :: ors ++ [od]) w).1.calls = w.calls ++ (if srv.mailHandler then [.mail { mailbox := m }] else []) ++
      (if srv.rcptHandler then ms.map fun m => .rcpt ⟨m⟩ else []) ++
      (if srv.dataHandler then [.data { mailbox := m } (ms.map (⟨·⟩)) (canonicalBody ps)] else []) ++
      (if srv.resetHandler then [.reset] else []) ∧
    (run srv (om :: ors ++ [od]) w).1.s = { w.s with reversePath := {}, forwardPaths := [], bdatBuffer := [] } ∧
    (run srv (om :: ors ++ [od]) w).1.r = ⟨after, e⟩ ∧ (run srv (om :: ors ++ [od]) w).2 = .next ∧
    Client.sendMail fromAddr ts ⟨ps, false⟩ c =
      (if (messageReply (if srv.dataHandler then od.data else none)).code ≠ replyOK then
        some (.data (.reply (replyToError (messageReply (if srv.dataHandler then od.data else none))))) else none,
      ⟨⟨later, c.r.err⟩, c.out ++ sendMailWrites fromAddr ts ps⟩) := by
  have hrun := run_sendMail srv om od ors w fromAddr m ts ms ps after e hfrom hts hne hcap hst hsub hom hlen hors hod hw
  exact ⟨hrun.1, hrun.2.1, hrun.2.2.1, hrun.2.2.2.1, hrun.2.2.2.2,
    sendMail_client fromAddr ts ps c _ later (messageReply_ite_readable srv.dataHandler hd) hc⟩

/-- `a@b.c` sends `hi` to `d@e.f` through a server with every handler set: the server answers `250`, `250`, `354`
and `250`, `OnData` receives the envelope and `hi\r\n`, and `SendMail`, reading those replies, returns `nil`. -/
theorem sendMail_delivers_hi :
    let srv : Server :=
      { newServer with mailHandler := true, rcptHandler := true, dataHandler := true, resetHandler := true }
    let w : World :=
      ⟨{ newSession with state := .greeted }, ⟨sendMailWrites (ascii "a@b.c") [ascii "d@e.f"] [ascii "hi"], .eof⟩, [], []⟩
    (run srv [{}, {}, {}] w).1.out = writeReplies [originatorOk, recipientOk, startReply, messageReply none] ∧
    (run srv [{}, {}, {}] w).1.calls = [.mail { mailbox := ⟨ascii "a", ascii "b.c"⟩ }, .rcpt ⟨⟨ascii "d", ascii "e.f"⟩⟩,
      .data { mailbox := ⟨ascii "a", ascii "b.c"⟩ } [⟨⟨ascii "d", ascii "e.f"⟩⟩] (ascii "hi\r\n"), .reset] ∧
    (Client.sendMail (ascii "a@b.c") [ascii "d@e.f"] ⟨[ascii "hi"], false⟩
      ⟨⟨writeReplies [originatorOk, recipientOk, startReply, messageReply none], .eof⟩, []⟩).1 = none :=
  have h := sendMail_delivers
    { newServer with mailHandler := true, rcptHandler := true, dataHandler := true, resetHandler := true } {} {} [{}]
    ⟨{ newSession with state := .greeted }, ⟨sendMailWrites (ascii "a@b.c") [ascii "d@e.f"] [ascii "hi"], .eof⟩, [], []⟩
    (ascii "a@b.c") ⟨ascii "a", ascii "b.c"⟩ [ascii "d@e.f"] [⟨ascii "d", ascii "e.f"⟩] [ascii "hi"] [] [] .eof
    ⟨⟨writeReplies [originatorOk, recipientOk, startReply, messageReply none], .eof⟩, []⟩
    ⟨by decide, by decide, by decide, by decide, by decide⟩
    (.cons ⟨by decide, by decide, by decide, by decide, by decide⟩ .nil) (by simp) (by decide) rfl (by decide) ⟨rfl, rfl⟩
    rfl (by simp) rfl nofun (by simp) (by simp)
  ⟨h.1.trans (by simp), h.2.1.trans (by decide), (congrArg Prod.fst h.2.2.2.2.2).trans (by decide)⟩

/-- `Client.SendMail` with more recipients than `maxRecipients`, against the turns of the server's command loop that
read what it writes, from a greeted session that may take `MAIL`. The first `maxRecipients` recipients `ts` read back
as `ms`, and so does the next one, `t`; `OnMail` and `OnRcpt` return `nil`. The session accepts `MAIL` and each of
`ts`, answers `t` with `452`, and is left in its transaction with the paths of `ts`. `SendMail` returns that `452` as
its error, having written neither the recipients after `t` nor `DATA`, and sends no `RSET`; the body's reader is never
read. -/
theorem sendMail_stops_at_cap (srv : Server) (om oc : Outcomes) (ors : List Outcomes) (w : World) (fromAddr : Bytes)
    (m : Mailbox) (ts : List Bytes) (ms : List Mailbox) (t : Bytes) (mt : Mailbox) (rest : List Bytes) (b : Body)
    (after later : Bytes) (e : ReadErr) (c : Conn) (hfrom : ReadsAs fromAddr m) (hts : List.Forall₂ ReadsAs ts ms)
    (ht : ReadsAs t mt) (hcap : (ts.length : Int) = srv.maxRecipients) (hst : w.s.state = .greeted)
    (hsub : ¬(srv.submissionMode ∧ ¬w.s.authenticated)) (hom : om.shutdown = false ∧ om.mail = none)
    (hlen : ors.length = ts.length) (hors : ∀ o ∈ ors, o.shutdown = false ∧ o.rcpt = none) (hoc : oc.shutdown = false)
    (hw : w.r = ⟨mailWrites fromAddr ++ rcptWrites (ts ++ [t]) ++ after, e⟩)
    (hc : c.r.bytes = writeReplies (originatorOk :: ts.map (fun _ => recipientOk) ++ [tooManyRecipients]) ++ later) :
    (run srv (om :: ors ++ [oc]) w).1.out =
      w.out ++ writeReplies (originatorOk :: ts.map (fun _ => recipientOk) ++ [tooManyRecipients]) ∧
    (run srv (om :: ors ++ [oc]) w).1.calls = w.calls ++ (if srv.mailHandler then [.mail { mailbox := m }] else []) ++
      (if srv.rcptHandler then ms.map fun m => .rcpt ⟨m⟩ else []) ∧
    (run srv (om :: ors ++ [oc]) w).1.s = { w.s with
      reversePath := { mailbox := m }, forwardPaths := ms.map (⟨·⟩), state := if ts = [] then .mail else .rcpt } ∧
    (run srv (om :: ors ++ [oc]) w).1.r = ⟨after, e⟩ ∧ (run srv (om :: ors ++ [oc]) w).2 = .next ∧
    Client.sendMail fromAddr (ts ++ t :: rest) b c = (some (.cmd (.reply (replyToError tooManyRecipients))),
      ⟨⟨later, c.r.err⟩, c.out ++ mailWrites fromAddr ++ rcptWrites (ts ++ [t])⟩) := by
  set W : World := { w with
    s := { w.s with
      reversePath := { mailbox := m }, forwardPaths := ms.map (⟨·⟩), state := if ts = [] then .mail else .rcpt }
    r := ⟨ascii "RCPT TO:<" ++ t ++ ascii ">" ++ crlf ++ after, e⟩
    out := w.out ++ writeReplies [originatorOk] ++ writeReplies (ts.map fun _ => recipientOk)
    calls := w.calls ++ (if srv.mailHandler then [.mail { mailbox := m }] else []) ++
      if srv.rcptHandler then ms.map fun m => .rcpt ⟨m⟩ else [] } with hW
  have hrun : run srv (om :: ors) w = (W, .next) :=
    run_mail_rcpts srv om w hfrom hts ors _ e (by omega) hst hsub hom hlen hors
      (by rw [hw]; simp [rcptWrites, List.append_assoc])
  have hfull := step_rcpt_full srv oc W ht after e hoc (by by_cases h : ts = [] <;> simp [hW, h])
    (by simp [hW, ← hcap, hts.length_eq]) rfl
  rw [run_append_of_next srv [oc] _ w W hrun, run, hfull]
  dsimp only [run]
  exact ⟨by simp [hW], rfl, rfl, rfl, rfl,
    sendMail_rcpt_refused fromAddr t ts rest b c _ later (by decide) (by decide) hc⟩

/-- A server that takes one recipient, and `SendMail` to `d@e.f`, `g@h.i` and `j@k.l`: the session answers `g@h.i`
with `452` and keeps `d@e.f`, and `SendMail` returns the `452` having written neither `j@k.l` nor `DATA`. -/
theorem sendMail_stops_at_cap_one :
    let srv : Server := { newServer with maxRecipients := 1 }
    let w : World := ⟨{ newSession with state := .greeted },
      ⟨mailWrites (ascii "a@b.c") ++ rcptWrites [ascii "d@e.f", ascii "g@h.i"], .eof⟩, [], []⟩
    (run srv [{}, {}, {}] w).1.s.forwardPaths = [⟨⟨ascii "d", ascii "e.f"⟩⟩] ∧
    Client.sendMail (ascii "a@b.c") [ascii "d@e.f", ascii "g@h.i", ascii "j@k.l"] ⟨[], false⟩
        ⟨⟨writeReplies [originatorOk, recipientOk, tooManyRecipients], .eof⟩, []⟩ =
      (some (.cmd (.reply (replyToError tooManyRecipients))),
        ⟨⟨[], .eof⟩, mailWrites (ascii "a@b.c") ++ rcptWrites [ascii "d@e.f", ascii "g@h.i"]⟩) :=
  have h := sendMail_stops_at_cap { newServer with maxRecipients := 1 } {} {} [{}]
    ⟨{ newSession with state := .greeted },
      ⟨mailWrites (ascii "a@b.c") ++ rcptWrites [ascii "d@e.f", ascii "g@h.i"], .eof⟩, [], []⟩
    (ascii "a@b.c") ⟨ascii "a", ascii "b.c"⟩ [ascii "d@e.f"] [⟨ascii "d", ascii "e.f"⟩] (ascii "g@h.i")
    ⟨ascii "g", ascii "h.i"⟩ [ascii "j@k.l"] ⟨[], false⟩ [] [] .eof
    ⟨⟨writeReplies [originatorOk, recipientOk, tooManyRecipients], .eof⟩, []⟩
    ⟨by decide, by decide, by decide, by decide, by decide⟩
    (.cons ⟨by decide, by decide, by decide, by decide, by decide⟩ .nil)
    ⟨by decide, by decide, by decide, by decide, by decide⟩ rfl rfl (by decide) ⟨rfl, rfl⟩ rfl (by simp) rfl
    (by simp) (by simp)
  ⟨congrArg (·.forwardPaths) h.2.2.1, h.2.2.2.2.2⟩

end Smtp
