import Smtp.Theorems.Reply
import Smtp.Lemmas.Session
import Smtp.Lemmas.Base64

/-!
# Helpers for replies: what each command writes

What a client needs of the bytes the server writes: replies it reads back as they were written (`Reply.Readable`),
the intermediate ones (`3yz`) before the final one. The session's replies are such when the handlers' results and the
server's own texts fit reply lines (`Outcomes.Sendable`, `Server.Sendable`).

`Wrote is f w w'` says that from `w` to `w'` the session wrote the intermediate replies `is`, then the final reply `f`
if there is one. One lemma per handler says which, and `step_turnOk` assembles them into the replies of a turn of the
command loop (`Turn`), with a final reply unless the turn is `Unanswered`.
-/

namespace Smtp

/-! ## Replies a client reads back -/

/-- A positive intermediate code (`3yz`): the server waits for more from the client, as with `354` after `DATA` and
`334` during `AUTH`. -/
def Intermediate (code : Int) : Prop := 300 ≤ code ∧ code ≤ 399

instance : DecidablePred Intermediate := fun _ => inferInstanceAs (Decidable (_ ∧ _))

/-- A reply that `ReadReply` reads back as it was written: a code of three digits, and one line or more, each without
`\n` and within the client's line limit behind the code. -/
def Reply.Readable (r : Reply) : Prop :=
  100 ≤ r.code ∧ r.code ≤ 999 ∧ r.lines ≠ [] ∧ ∀ l ∈ r.lines, Byte.lf ∉ l ∧ l.length ≤ 2042

instance : DecidablePred Reply.Readable := fun _ => inferInstanceAs (Decidable (_ ∧ _ ∧ _ ∧ _))

/-- A readable reply that ends the server's answer to a command. -/
def Reply.Final (r : Reply) : Prop := r.Readable ∧ ¬Intermediate r.code

instance : DecidablePred Reply.Final := fun _ => inferInstanceAs (Decidable (_ ∧ _))

/-- The reply `session.reply(code, e, msg)` writes: one line, behind the enhanced code when it is not zero. -/
def lineReply (code : Int) (e : EnhancedCode) (msg : Bytes) : Reply := ⟨code, [enhancedText e msg]⟩

/-- Replies written one after the other with `WriteReply`. -/
def writeReplies (rs : List Reply) : Bytes := (rs.map fun r => writeReply r.code r.lines).flatten

/-- `ReadReply` called `n` times, as a client reads the replies to `n` pipelined commands: the replies, or the first
error. -/
def readReplies : Nat → BufReader → Except ReplyErr (List Reply) × BufReader
  | 0, r => (.ok [], r)
  | n + 1, r =>
    match readReply r with
    | (.error e, r') => (.error e, r')
    | (.ok rep, r') =>
      match readReplies n r' with
      | (.error e, r'') => (.error e, r'')
      | (.ok reps, r'') => (.ok (rep :: reps), r'')

/-! ## What handlers and the server give -/

/-- An error a handler returns that the session sends as one final reply a client reads: a code of three digits that
is not `3yz`, and a message without `\n` that fits the client's line limit behind its enhanced code. -/
structure SMTPError.Sendable (e : SMTPError) : Prop where
  code : 100 ≤ e.code ∧ e.code ≤ 999
  final : ¬Intermediate e.code
  message : Byte.lf ∉ e.message
  length : (enhancedText e.enhancedCode e.message).length ≤ 2042

/-- A handler error the session can send: an `SMTPError` as above, or any other error, which gets a reply of the
session's own. -/
def HandlerErr.Sendable : HandlerErr → Prop
  | .smtp e => e.Sendable
  | .other => True

/-- What the handlers answer during a turn fits reply lines, and the clock is in the range of an `int64`. -/
structure Outcomes.Sendable (o : Outcomes) : Prop where
  helo : ∀ e, o.helo = some e → e.Sendable
  mail : ∀ e, o.mail = some e → e.Sendable
  rcpt : ∀ e, o.rcpt = some e → e.Sendable
  data : ∀ e, o.data = some e → e.Sendable
  auth : ∀ e, o.auth = some e → e.Sendable
  vrfy : ∀ e, o.vrfy = .error e → e.Sendable
  /-- The result of `OnVrfy` fits a reply line behind `2.0.0 `. -/
  vrfyResult : ∀ t, o.vrfy = .ok t → Byte.lf ∉ t ∧ t.length ≤ 2036
  clock : o.clock.1.natAbs < 9223372036854775808 ∧ o.clock.2.natAbs < 9223372036854775808

/-- A configuration whose texts fit reply lines: a host name without `\n` of at most 1000 bytes, and a size limit in
the range of an `int64`. -/
structure Server.Sendable (srv : Server) : Prop where
  hostname : Byte.lf ∉ srv.hostname
  hostnameLength : srv.hostname.length ≤ 1000
  maxMessageSize : srv.maxMessageSize < 9223372036854775808

/-! ## The replies of a turn -/

/-- The replies of one turn of the command loop in the order the protocol allows: the intermediate replies, the final
reply to the command, and a `421` that closes the connection. -/
structure Turn where
  intermediates : List Reply
  final : Option Reply
  closing : Option Reply

/-- The replies of a turn in the order they are written. -/
def Turn.replies (t : Turn) : List Reply := t.intermediates ++ t.final.toList ++ t.closing.toList

/-- A turn whose replies a client reads back, in protocol order, ending with the flow `fl`. -/
structure Turn.WellFormed (t : Turn) (fl : Flow) : Prop where
  readable : ∀ r ∈ t.replies, r.Readable
  intermediates : ∀ r ∈ t.intermediates, Intermediate r.code
  final : ∀ r ∈ t.final, ¬Intermediate r.code
  closing : ∀ r ∈ t.closing, r.code = replyServiceNotAvailable ∧ fl = .close

/-- From `r` to `r'`: calls of `ReadLine` that each return a line, then one that fails. -/
inductive ReadsToFailure : BufReader → BufReader → Prop
  | fail {r r' : BufReader} {e : LineErr} : readLine maxCommandLineLen r = (.error e, r') → ReadsToFailure r r'
  | line {r r1 r' : BufReader} {l : Bytes} : readLine maxCommandLineLen r = (.ok l, r1) → ReadsToFailure r1 r' →
      ReadsToFailure r r'

/-- When a turn from `w` may end as `p` without a final reply: it reads no command line, at shutdown or when
`ReadLine` fails; or the command is `AUTH` and a line of its exchange fails to read; or it is `BDAT`, which crashes or
reads the connection to its end. -/
def Unanswered (o : Outcomes) (w : World) (p : World × Flow) : Prop :=
  o.shutdown = true ∨ (∃ e r, readLine maxCommandLineLen w.r = (.error e, r)) ∨
    ∃ line r, readLine maxCommandLineLen w.r = (.ok line, r) ∧
      (Verb.ofKeyword (toUpper (cut Byte.sp line).1) = some .auth ∧ ReadsToFailure r p.1.r ∨
        Verb.ofKeyword (toUpper (cut Byte.sp line).1) = some .bdat ∧ (p.2 = .crash ∨ p.1.r.bytes = []))

namespace RepliesAux
open ConnAux ReplyAux
open SessionAux (ite_of)

/-! ## Lengths of what the session formats -/

theorem base64Encode_length : ∀ s : Bytes, (base64Encode s).length = 4 * ((s.length + 2) / 3)
  | a :: b :: c :: rest => by
    simp only [base64Encode, List.length_append, List.length_cons, List.length_nil, base64Encode_length rest]; omega
  | [_, _] | [_] | [] => by simp [base64Encode]

/-- Base64 has no `\n`, and takes four bytes for every three, the last group padded. -/
theorem base64Encode_lf_length (s : Bytes) :
    Byte.lf ∉ base64Encode s ∧ (base64Encode s).length = 4 * ((s.length + 2) / 3) :=
  ⟨fun h => (Base64Aux.mem_base64Encode h).2.2.2.1 rfl, base64Encode_length s⟩

theorem cut_snd_suffix (sep : UInt8) : ∀ s : Bytes, (cut sep s).2.1 <:+ s
  | [] => List.suffix_refl _
  | b :: s => by
    unfold cut; split
    · exact List.suffix_cons _ _
    · exact (cut_snd_suffix sep s).trans (List.suffix_cons _ _)

/-! ## The session's writes -/

@[simp] theorem writeReplies_nil : writeReplies [] = [] := rfl

@[simp] theorem writeReplies_cons (r : Reply) (rs : List Reply) :
    writeReplies (r :: rs) = writeReply r.code r.lines ++ writeReplies rs := rfl

@[simp] theorem writeReplies_append (rs rs' : List Reply) :
    writeReplies (rs ++ rs') = writeReplies rs ++ writeReplies rs' := by
  simp [writeReplies]

@[simp] theorem call_out (w : World) (c : Call) : (w.call c).out = w.out := rfl
@[simp] theorem setS_out (w : World) (f : Session → Session) : (w.setS f).out = w.out := rfl

@[simp] theorem resetTransaction_out (srv : Server) (w : World) : (w.resetTransaction srv).out = w.out := by
  unfold World.resetTransaction; split <;> rfl

@[simp] theorem resetTransaction_r (srv : Server) (w : World) : (w.resetTransaction srv).r = w.r := by
  unfold World.resetTransaction; split <;> rfl

@[simp] theorem resetTransaction_calls (srv : Server) (w : World) :
    (w.resetTransaction srv).calls = w.calls ++ (if srv.resetHandler then [.reset] else []) := by
  unfold World.resetTransaction; split <;> simp_all [World.call, World.setS]

theorem invoke_out {w w' : World} {b : Bool} {c : Call} {err r : Option HandlerErr}
    (h : w.invoke b c err = (w', r)) : w'.out = w.out := by
  unfold World.invoke at h; split at h <;> cases h <;> rfl

theorem invoke_err {w w' : World} {b : Bool} {c : Call} {err : Option HandlerErr} {e : HandlerErr}
    (h : w.invoke b c err = (w', some e)) : err = some e := by
  unfold World.invoke at h; split at h <;> cases h; rfl

/-- `ReadReply`, called once for each reply, reads back replies written one after the other and leaves what
follows. -/
theorem readReplies_writeReplies (R : Bytes) (e : ReadErr) :
    ∀ rs : List Reply, (∀ r ∈ rs, r.Readable) →
      readReplies rs.length ⟨writeReplies rs ++ R, e⟩ = (.ok rs, ⟨R, e⟩)
  | [], _ => rfl
  | r :: rs, h => by
    obtain ⟨h1, h2, hne, hl⟩ := h r (List.mem_cons_self _ _)
    have ih := readReplies_writeReplies R e rs fun x hx => h x (List.mem_cons_of_mem _ hx)
    have hr := readReply_writeReply r.code r.lines (writeReplies rs ++ R) e h1 h2 hl
    rw [if_neg hne] at hr
    rw [List.length_cons, readReplies, writeReplies_cons, List.append_assoc, hr]
    simp only [ih]

/-! ## Writing replies -/

/-- From `w` to `w'` the session wrote the intermediate replies `is`, then the final reply `f` if there is one, all
readable. -/
structure Wrote (is : List Reply) (f : Option Reply) (w w' : World) : Prop where
  out : w'.out = w.out ++ writeReplies (is ++ f.toList)
  readable : ∀ r ∈ is ++ f.toList, r.Readable
  intermediate : ∀ r ∈ is, Intermediate r.code
  final : ∀ r ∈ f, ¬Intermediate r.code

/-- The session answered: one final reply, after intermediate ones. -/
def Answered (w w' : World) : Prop := ∃ is f, Wrote is (some f) w w'

/-- The session wrote at most one final reply, after intermediate ones, and none only when it stopped at a line that
failed to read. -/
def Replied (w w' : World) : Prop := ∃ is f, Wrote is f w w' ∧ (f = none → ReadsToFailure w.r w'.r)

theorem Answered.replied {w w' : World} : Answered w w' → Replied w w'
  | ⟨is, f, h⟩ => ⟨is, some f, h, nofun⟩

theorem wrote_nil {w w' : World} (h : w'.out = w.out) : Wrote [] none w w' :=
  ⟨by simp [h], by simp, by simp, by simp⟩

theorem wrote_refl {w : World} : Wrote [] none w w := wrote_nil rfl

section
variable {is : List Reply} {f : Option Reply} {w w1 w2 : World}

theorem Wrote.of_out (h : Wrote is f w w1) (h' : w2.out = w1.out) : Wrote is f w w2 :=
  ⟨h'.trans h.out, h.readable, h.intermediate, h.final⟩

theorem Answered.of_out (h : Answered w w1) (h' : w2.out = w1.out) : Answered w w2 :=
  let ⟨is, f, h⟩ := h; ⟨is, f, h.of_out h'⟩

theorem Wrote.write_final {r : Reply} (h : Wrote is none w w1) (hr : r.Final)
    (hout : w2.out = w1.out ++ writeReply r.code r.lines) : Wrote is (some r) w w2 where
  out := by rw [hout, h.out]; simp
  readable x hx := by
    rcases List.mem_append.1 hx with hx | hx
    · exact h.readable x (by simpa using hx)
    · rw [Option.toList_some, List.mem_singleton] at hx; exact hx ▸ hr.1
  intermediate := h.intermediate
  final x hx := Option.some_inj.1 hx ▸ hr.2

theorem Wrote.write_ask {r : Reply} (h : Wrote is none w w1) (hr : r.Readable) (hi : Intermediate r.code)
    (hout : w2.out = w1.out ++ writeReply r.code r.lines) : Wrote (is ++ [r]) none w w2 where
  out := by rw [hout, h.out]; simp
  readable x hx := by
    rcases List.mem_append.1 (List.append_nil (is ++ [r]) ▸ hx) with hx | hx
    · exact h.readable x (by simpa using hx)
    · exact List.mem_singleton.1 hx ▸ hr
  intermediate x hx := by
    rcases List.mem_append.1 hx with hx | hx
    · exact h.intermediate x hx
    · exact List.mem_singleton.1 hx ▸ hi
  final x hx := nomatch hx

theorem Wrote.reply (h : Wrote is none w w1) {c : Int} {e : EnhancedCode} {m : Bytes} (hf : (lineReply c e m).Final) :
    Answered w (w1.reply c e m) :=
  ⟨is, _, h.write_final hf rfl⟩

theorem Wrote.replyMulti (h : Wrote is none w w1) {c : Int} {ls : List Bytes} (hf : (Reply.mk c ls).Final) :
    Answered w (w1.replyMulti c ls) :=
  ⟨is, _, h.write_final hf rfl⟩

theorem Wrote.ask (h : Wrote is none w w1) {c : Int} {e : EnhancedCode} {m : Bytes}
    (hr : (lineReply c e m).Readable) (hi : Intermediate c) : Wrote (is ++ [lineReply c e m]) none w (w1.reply c e m) :=
  h.write_ask hr hi rfl

theorem final_of_sendable {e : SMTPError} (h : e.Sendable) : (lineReply e.code e.enhancedCode e.message).Final := by
  refine ⟨⟨h.code.1, h.code.2, List.cons_ne_nil _ _, ?_⟩, h.final⟩
  simp only [lineReply, List.mem_singleton, forall_eq]
  exact ⟨lf_not_mem_enhancedText _ _ h.message, h.length⟩

theorem Wrote.replyErr (h : Wrote is none w w1) {d : Int × EnhancedCode × Bytes} {e : HandlerErr} (he : e.Sendable)
    (hd : (lineReply d.1 d.2.1 d.2.2).Final) : Answered w (w1.replyErr d e) := by
  cases e with
  | smtp e => exact h.reply (final_of_sendable he)
  | other => exact h.reply hd

end

theorem internalError_final : (lineReply internalError.1 internalError.2.1 internalError.2.2).Final := by decide

theorem authFailed_final : (lineReply authFailed.1 authFailed.2.1 authFailed.2.2).Final := by decide

/-- A final line behind `2.0.0 ` with a text of the session's own. -/
theorem final_ok_line {c : Int} (hc : 100 ≤ c ∧ c ≤ 999 ∧ ¬Intermediate c) {m : Bytes} (hm : Byte.lf ∉ m)
    (hl : m.length ≤ 2036) : (lineReply c enhancedCodeOK m).Final := by
  refine ⟨⟨hc.1, hc.2.1, List.cons_ne_nil _ _, ?_⟩, hc.2.2⟩
  have he : enhancedText enhancedCodeOK m = ascii "2.0.0 " ++ m := rfl
  simp only [lineReply, List.mem_singleton, forall_eq, he, List.mem_append, not_or, List.length_append]
  exact ⟨⟨by decide, hm⟩, by simp only [show (ascii "2.0.0 ").length = 6 from rfl]; omega⟩

/-! ## One lemma per handler -/

section
variable {srv : Server} {o : Outcomes} {args : Bytes} {w : World}

theorem hello_final (hs : srv.Sendable) (ha : Byte.lf ∉ args ∧ args.length ≤ 510) :
    Byte.lf ∉ srv.hostname ++ ascii " Hello " ++ args ∧ (srv.hostname ++ ascii " Hello " ++ args).length ≤ 1517 := by
  simp only [List.mem_append, not_or, List.length_append, show (ascii " Hello ").length = 7 from rfl]
  exact ⟨⟨⟨hs.hostname, by decide⟩, ha.1⟩, by have := hs.hostnameLength; omega⟩

theorem ehloLines_final (hs : srv.Sendable) (ha : Byte.lf ∉ args ∧ args.length ≤ 510) (s : Session) :
    (Reply.mk replyOK (ehloLines srv s args)).Final := by
  refine ⟨⟨(by decide : (100 : Int) ≤ replyOK), (by decide : replyOK ≤ 999), by simp [ehloLines], fun l hl => ?_⟩,
    (by decide : ¬Intermediate replyOK)⟩
  have hfixed : ∀ l ∈ [ascii "PIPELINING", ascii "8BITMIME", ascii "ENHANCEDSTATUSCODES", ascii "DSN",
      ascii "SMTPUTF8", ascii "CHUNKING"], Byte.lf ∉ l ∧ l.length ≤ 2042 := by decide
  simp only [ehloLines, List.mem_append, List.mem_singleton, List.mem_ite_nil_right] at hl
  rcases hl with (((rfl | ⟨hp, rfl⟩) | hl) | ⟨-, rfl⟩) | ⟨-, rfl⟩
  · exact (hello_final hs ha).imp_right (by omega)
  · have := length_formatInt_le srv.maxMessageSize (by have := hs.maxMessageSize; omega)
    simp only [List.mem_append, not_or, List.length_append, show (ascii "SIZE ").length = 5 from rfl]
    exact ⟨⟨by decide, lf_not_mem_formatInt _⟩, by omega⟩
  · exact hfixed l hl
  · decide
  · decide

theorem handleHello_answered (esmtp : Bool) (missing : Bytes) (hs : srv.Sendable) (ho : o.Sendable)
    (hm : (lineReply replySyntaxParamError enhancedCodeSyntaxError missing).Final)
    (ha : Byte.lf ∉ args ∧ args.length ≤ 510) : Answered w (handleHello esmtp missing srv o args w) := by
  unfold handleHello
  refine ite_of (fun _ => wrote_refl.reply hm) fun _ => ?_
  split
  · exact (wrote_nil (invoke_out ‹_›)).replyErr (ho.helo _ (invoke_err ‹_›)) internalError_final
  dsimp only
  split
  · exact (wrote_nil (by simp [invoke_out ‹_›])).replyMulti (ehloLines_final hs ha _)
  · have h := hello_final hs ha
    exact (wrote_nil (by simp [invoke_out ‹_›])).reply (final_ok_line (by decide) h.1 (by omega))

theorem handleMAIL_answered (ho : o.Sendable) : Answered w (handleMAIL srv o args w) := by
  unfold handleMAIL
  refine ite_of (fun _ => wrote_refl.reply (by decide)) fun _ => ?_
  refine ite_of (fun _ => wrote_refl.reply (by decide)) fun _ => ?_
  refine ite_of (fun _ => wrote_refl.reply (by decide)) fun _ => ?_
  refine ite_of (fun _ => wrote_refl.reply (by decide)) fun _ => ?_
  split
  · exact wrote_refl.reply (by decide)
  split
  · exact (wrote_nil (invoke_out ‹_›)).replyErr (ho.mail _ (invoke_err ‹_›)) internalError_final
  · exact (wrote_nil (by simp [invoke_out ‹_›])).reply (by decide)

theorem handleRCPT_answered (ho : o.Sendable) : Answered w (handleRCPT srv o args w) := by
  unfold handleRCPT
  refine ite_of (fun _ => wrote_refl.reply (by decide)) fun _ => ?_
  refine ite_of (fun _ => wrote_refl.reply (by decide)) fun _ => ?_
  refine ite_of (fun _ => wrote_refl.reply (by decide)) fun _ => ?_
  split
  · exact wrote_refl.reply (by decide)
  split
  · exact (wrote_nil (invoke_out ‹_›)).replyErr (ho.rcpt _ (invoke_err ‹_›)) internalError_final
  · exact (wrote_nil (by simp [invoke_out ‹_›])).reply (by decide)

/-- The end of a message, after the intermediate replies `is`: the reply to the error of `OnData`, or `250`. -/
theorem finishMessage_answered {is : List Reply} {w1 : World} {err : Option HandlerErr} (h : Wrote is none w w1)
    (he : ∀ e, err = some e → e.Sendable) : Answered w (finishMessage srv (w1, err)) := by
  cases err with
  | some e => exact (h.replyErr (he e rfl) internalError_final).of_out (by simp [finishMessage])
  | none =>
    have hok : (lineReply replyOK enhancedCodeOK (ascii "Message accepted")).Final := by decide
    exact (h.reply hok).of_out (by simp [finishMessage])

theorem finishMessage_invoke_answered {is : List Reply} {w1 : World} (h : Wrote is none w w1) (ho : o.Sendable)
    (b : Bool) (c : Call) : Answered w (finishMessage srv (w1.invoke b c o.data)) := by
  unfold World.invoke
  split
  · exact finishMessage_answered (h.of_out (by simp)) ho.data
  · exact finishMessage_answered h fun _ h => nomatch h

theorem handleDATA_answered (ho : o.Sendable) : Answered w (handleDATA srv o w) := by
  unfold handleDATA
  refine ite_of (fun _ => wrote_refl.reply (by decide)) fun _ => ?_
  have h : Wrote [lineReply replyStartMailInput .zero (ascii "Start mail input; end with <CRLF>.<CRLF>")] none w
      (w.reply replyStartMailInput .zero (ascii "Start mail input; end with <CRLF>.<CRLF>")) :=
    wrote_refl.ask (by decide) (by decide)
  exact finishMessage_invoke_answered (h.of_out (by simp)) ho _ _

/-- What `BDAT` may do instead of answering: write nothing, and crash or read the connection to its end. -/
def BdatStops (w : World) (p : World × Flow) : Prop := p.1.out = w.out ∧ (p.2 = .crash ∨ p.1.r.bytes = [])

/-- `BDAT` answers, or writes nothing when it stops: on a chunk cut short, or on a size it cannot allocate. -/
theorem handleBDAT_replied (ho : o.Sendable) :
    Answered w (handleBDAT srv o args w).1 ∨ BdatStops w (handleBDAT srv o args w) := by
  unfold handleBDAT
  have hs : ∀ {c : Prop} [Decidable c] {a b : World × Flow}, (c → Answered w a.1 ∨ BdatStops w a) →
      (¬c → Answered w b.1 ∨ BdatStops w b) →
      Answered w (if c then a else b).1 ∨ BdatStops w (if c then a else b) :=
    ite_of (P := fun p : World × Flow => Answered w p.1 ∨ BdatStops w p)
  refine hs (fun _ => .inl (wrote_refl.reply (by decide))) fun _ => ?_
  split
  · exact .inl (wrote_refl.reply (by decide))
  split
  · exact .inl (wrote_refl.reply (by decide))
  rename_i size _
  refine hs (fun _ => .inl (wrote_refl.reply (by decide))) fun h0 => ?_
  refine hs (fun _ => .inr ⟨rfl, .inl rfl⟩) fun hmax => ?_
  refine hs (fun _ => .inr ⟨rfl, .inr rfl⟩) fun _ => ?_
  refine hs (fun _ => .inl (finishMessage_invoke_answered (wrote_nil (by simp)) ho _ _)) fun _ => ?_
  have hlen := length_formatInt_le size (by simp only [maxAlloc] at hmax; omega)
  refine .inl ((wrote_nil (by simp)).reply (final_ok_line (by decide) ?_ ?_))
  · simp only [List.mem_append, not_or]; exact ⟨lf_not_mem_formatInt _, by decide⟩
  · simp only [List.length_append, show (ascii " bytes received").length = 15 from rfl]; omega

theorem handleRSET_answered : Answered w (handleRSET srv w) := by
  unfold handleRSET; exact (wrote_nil (by simp)).reply (by decide)

theorem handleQUIT_answered (hs : srv.Sendable) : Answered w (handleQUIT srv w) := by
  unfold handleQUIT
  refine wrote_refl.reply (final_ok_line (by decide) ?_ ?_)
  · simp only [List.mem_append, not_or]; exact ⟨hs.hostname, by decide⟩
  · simp only [List.length_append, show (ascii " closing connection").length = 19 from rfl]
    have := hs.hostnameLength; omega

theorem handleVRFY_answered (ho : o.Sendable) : Answered w (handleVRFY srv o args w) := by
  unfold handleVRFY
  split
  · split
    · exact (wrote_nil (by simp)).replyErr (ho.vrfy _ ‹_›) internalError_final
    · obtain ⟨h1, h2⟩ := ho.vrfyResult _ ‹_›
      exact (wrote_nil (by simp)).reply (final_ok_line (by decide) h1 h2)
  · exact wrote_refl.reply (by decide)

theorem handleSTARTTLS_answered : Answered w (handleSTARTTLS srv o w) := by
  unfold handleSTARTTLS
  refine ite_of (fun _ => wrote_refl.reply (by decide)) fun _ => ?_
  refine ite_of (fun _ => wrote_refl.reply (by decide)) fun _ => ?_
  have h : Answered w (w.reply replyServiceReady .zero (ascii "Ready to start TLS")) := wrote_refl.reply (by decide)
  split
  · exact h
  · exact h.of_out (by simp)

end

/-! ## Authentication -/

/-- The reads from `w0` to `w` all returned lines: a failure after `w` is one after `w0`. -/
def ReadsOk (w0 w : World) : Prop := ∀ r, ReadsToFailure w.r r → ReadsToFailure w0.r r

/-- Where an exchange stops or goes on: a session that has replied at most once since `w0`, or one that has written
only intermediate replies and read only lines. -/
def RespOk (w0 : World) : Except World (Bytes × World) → Prop
  | .error w' => Replied w0 w'
  | .ok (_, w') => ∃ is, Wrote is none w0 w' ∧ ReadsOk w0 w'

section
variable {srv : Server} {o : Outcomes} {is : List Reply} {w0 w : World}

theorem authResponse_resp (h : Wrote is none w0 w) (hr : ReadsOk w0 w) : RespOk w0 w.authResponse := by
  unfold World.authResponse
  split
  next hl => exact ⟨is, none, h.of_out (by simp), fun _ => hr _ (.fail hl)⟩
  next hl =>
  split
  · exact ((h.of_out (by simp)).reply (by decide)).replied
  split
  · exact ((h.of_out (by simp)).reply (by decide)).replied
  · exact ⟨is, h.of_out (by simp), fun _ h' => hr _ (.line hl h')⟩

theorem RespOk.bind {r : Except World (Bytes × World)} {k : Bytes → World → World}
    (hk : ∀ d w' is, Wrote is none w0 w' → ReadsOk w0 w' → Replied w0 (k d w')) :
    RespOk w0 r → Replied w0 (match r with | .error w' => w' | .ok (d, w') => k d w') := by
  cases r with
  | error w' => exact id
  | ok p => obtain ⟨d, w'⟩ := p; exact fun ⟨is, h, hr⟩ => hk d w' is h hr

theorem authenticate_answered (h : Wrote is none w0 w) (ho : o.Sendable) (m u p : Bytes) :
    Answered w0 (w.authenticate o m u p) := by
  unfold World.authenticate
  split
  · exact (h.of_out (by simp)).replyErr (ho.auth _ ‹_›) authFailed_final
  · exact (h.of_out (by simp)).reply (by decide)

theorem plainResponse_resp (h : Wrote is none w0 w) (hr : ReadsOk w0 w) (i : Bytes) :
    RespOk w0 (plainResponse i w) := by
  unfold plainResponse
  split
  · split
    · exact (h.reply (by decide)).replied
    · exact ⟨is, h, hr⟩
  · exact authResponse_resp (h.ask (by decide) (by decide)) hr

theorem authPLAIN_replied (ho : o.Sendable) (i : Bytes) : Replied w (authPLAIN o i w) :=
  RespOk.bind (fun _ _ _ h _ => by
    split
    · exact (authenticate_answered h ho ..).replied
    · exact (h.reply (by decide)).replied) (plainResponse_resp wrote_refl (fun _ => id) i)

theorem authLOGIN_replied (ho : o.Sendable) : Replied w (authLOGIN o w) := by
  have hu : (lineReply replyAuthContinue .zero (base64Encode (ascii "Username:"))).Readable := by decide
  have hp : (lineReply replyAuthContinue .zero (base64Encode (ascii "Password:"))).Readable := by decide
  exact RespOk.bind (fun _ _ _ h hr => RespOk.bind (fun _ _ _ h' _ => (authenticate_answered h' ho ..).replied)
    (authResponse_resp (h.ask hp (by decide)) hr)) (authResponse_resp (wrote_refl.ask hu (by decide)) fun _ => id)

theorem cramChallenge_readable (hs : srv.Sendable)
    (hclock : o.clock.1.natAbs < 9223372036854775808 ∧ o.clock.2.natAbs < 9223372036854775808) :
    (lineReply replyAuthContinue .zero (base64Encode (cramChallenge srv o))).Readable := by
  obtain ⟨hlf, hlen⟩ := base64Encode_lf_length (cramChallenge srv o)
  have h1 := length_formatInt_le _ hclock.1
  have h2 := length_formatInt_le _ hclock.2
  have hc : (cramChallenge srv o).length ≤ 1044 := by
    simp only [cramChallenge, List.length_append, List.length_singleton]
    have := hs.hostnameLength; omega
  refine ⟨(by decide : (100 : Int) ≤ replyAuthContinue), (by decide : replyAuthContinue ≤ 999), List.cons_ne_nil _ _, ?_⟩
  simp only [lineReply, List.mem_singleton, forall_eq, show ∀ m, enhancedText .zero m = m from fun _ => rfl]
  exact ⟨hlf, by omega⟩

theorem authCRAMMD5_replied (hs : srv.Sendable) (ho : o.Sendable) : Replied w (authCRAMMD5 srv o w) :=
  RespOk.bind (fun _ _ _ h _ => by
    split
    · exact (h.reply (by decide)).replied
    · exact (authenticate_answered h ho ..).replied)
    (authResponse_resp (wrote_refl.ask (cramChallenge_readable hs ho.clock) (by decide)) fun _ => id)

/-- `AUTH` replies at most once: it writes no final reply when a line of the exchange cannot be read. -/
theorem handleAUTH_replied (hs : srv.Sendable) (ho : o.Sendable) (args : Bytes) :
    Replied w (handleAUTH srv o args w) := by
  unfold handleAUTH
  refine ite_of (fun _ => (wrote_refl.reply (by decide)).replied) fun _ => ?_
  refine ite_of (fun _ => (wrote_refl.reply (by decide)).replied) fun _ => ?_
  refine ite_of (fun _ => (wrote_refl.reply (by decide)).replied) fun _ => ?_
  refine ite_of (fun _ => (wrote_refl.reply (by decide)).replied) fun _ => ?_
  refine ite_of (fun _ => authPLAIN_replied ho _) fun _ => ?_
  refine ite_of (fun _ => authLOGIN_replied ho) fun _ => ?_
  exact ite_of (fun _ => authCRAMMD5_replied hs ho) fun _ => (wrote_refl.reply (by decide)).replied

end

/-! ## A turn -/

/-- From `w` the turn `p` wrote the readable replies of a turn in protocol order, with a final reply unless
`exempt p`. -/
def TurnOk (w : World) (p : World × Flow) (exempt : World × Flow → Prop) : Prop :=
  ∃ t : Turn, p.1.out = w.out ++ writeReplies t.replies ∧ t.WellFormed p.2 ∧ (t.final = none → exempt p)

section
variable {srv : Server} {o : Outcomes} {w w' : World} {P : World × Flow → Prop}

theorem Wrote.turnOk {is : List Reply} {f : Option Reply} (h : Wrote is f w w') (fl : Flow) (hf : f = none → P (w', fl)) :
    TurnOk w (w', fl) P :=
  ⟨⟨is, f, none⟩, by simpa [Turn.replies] using h.out, ⟨by simpa [Turn.replies] using h.readable, h.intermediate,
    h.final, fun _ h => nomatch h⟩, hf⟩

theorem Answered.turnOk (h : Answered w w') (fl : Flow) : TurnOk w (w', fl) P :=
  let ⟨_, _, h⟩ := h; h.turnOk fl fun h => nomatch h

theorem invalidCommand_turnOk (msg : Bytes) (hm : (lineReply replySyntaxError enhancedCodeInvalidCommand msg).Final) :
    TurnOk w (w.invalidCommand srv msg) P := by
  have hc : (lineReply replyServiceNotAvailable enhancedCodeOtherNetwork
      (ascii "Too many errors, closing connection")).Final := by decide
  unfold World.invalidCommand
  dsimp only
  split
  · refine ⟨⟨[], some (lineReply replySyntaxError enhancedCodeInvalidCommand msg), some (lineReply
      replyServiceNotAvailable enhancedCodeOtherNetwork (ascii "Too many errors, closing connection"))⟩,
      by simp [Turn.replies, World.reply, lineReply], ⟨?_, nofun, fun r h => Option.some_inj.1 h ▸ hm.2,
        fun r h => ⟨Option.some_inj.1 h ▸ rfl, rfl⟩⟩, nofun⟩
    simp [Turn.replies, hm.1, hc.1]
  · exact (wrote_refl.reply hm).of_out (by simp) |>.turnOk _

/-- What `dispatch` writes for a command with its arguments: a final reply, but for an `AUTH` that stops at a line it
cannot read and a `BDAT` that stops. -/
theorem dispatch_turnOk (hs : srv.Sendable) (ho : o.Sendable) (verb args : Bytes)
    (ha : Byte.lf ∉ args ∧ args.length ≤ 510) :
    TurnOk w (dispatch srv o verb args w) fun p => Verb.ofKeyword verb = some .auth ∧ ReadsToFailure w.r p.1.r ∨
      Verb.ofKeyword verb = some .bdat ∧ (p.2 = .crash ∨ p.1.r.bytes = []) := by
  unfold dispatch
  split
  · exact (handleHello_answered _ _ hs ho (by decide) ha).turnOk _
  · exact (handleHello_answered _ _ hs ho (by decide) ha).turnOk _
  · exact (handleMAIL_answered ho).turnOk _
  · exact (handleRCPT_answered ho).turnOk _
  · exact (handleDATA_answered ho).turnOk _
  · exact handleRSET_answered.turnOk _
  · exact (wrote_refl.reply (by decide)).turnOk _
  · exact (handleQUIT_answered hs).turnOk _
  · exact (handleVRFY_answered ho).turnOk _
  · exact (wrote_refl.reply (by decide)).turnOk _
  · exact handleSTARTTLS_answered.turnOk _
  · obtain ⟨is, f, h, hf⟩ : Replied w (handleAUTH srv o args w) := handleAUTH_replied hs ho args
    exact h.turnOk _ fun h0 => .inl ⟨‹_›, hf h0⟩
  · rcases (handleBDAT_replied ho : Answered w (handleBDAT srv o args w).1 ∨ _) with h | ⟨h, hb⟩
    · exact h.turnOk _
    · exact (wrote_nil h).turnOk _ fun _ => .inr ⟨‹_›, hb⟩
  · exact invalidCommand_turnOk _ (by decide)

end

/-- What a turn of the command loop writes: nothing when it reads no command line, or the replies to the command line
it reads, with a final reply unless it is `Unanswered`. -/
theorem step_turnOk (srv : Server) (o : Outcomes) (w : World) (hs : srv.Sendable) (ho : o.Sendable) :
    TurnOk w (step srv o w) (Unanswered o w) := by
  unfold step
  split
  · exact wrote_refl.turnOk _ fun _ => .inl ‹_›
  split
  · next e r hl => exact (wrote_nil (by simp)).turnOk _ fun _ => .inr (.inl ⟨e, r, hl⟩)
  · rename_i line r hl
    obtain ⟨hlf, hlen, -⟩ := readLine_ok (by decide) hl
    have ha : Byte.lf ∉ (cut Byte.sp line).2.1 ∧ (cut Byte.sp line).2.1.length ≤ 510 :=
      ⟨fun h => hlf ((cut_snd_suffix _ line).subset h),
        by have := (cut_snd_suffix Byte.sp line).length_le; simp only [maxCommandLineLen] at hlen; omega⟩
    unfold command
    split
    · exact invalidCommand_turnOk _ (by decide)
    · obtain ⟨t, h1, h2, h3⟩ : TurnOk { w with r := r } (dispatch srv o _ _ { w with r := r }) _ :=
        dispatch_turnOk hs ho _ _ ha
      exact ⟨t, h1, h2, fun h => .inr (.inr ⟨line, r, hl, h3 h⟩)⟩

end RepliesAux
end Smtp
