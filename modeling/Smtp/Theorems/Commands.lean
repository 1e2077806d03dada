import Smtp.Lemmas.Commands
import Smtp.Theorems.Bdat

/-!
# The command loop: what it counts, what it answers, what it recognizes

`invalidCmds` counts only the lines with a `NUL` and the unknown verbs: each is answered `500`, and the one that brings
the count to `maxInvalidCmds` is answered `421` as well and ends the session (`invalid_commands_close_at_limit`). A
command refused with `503` is answered and not counted, so the session goes on however many there are; a command line
beyond `MaxCommandLineLen` ends the session with no reply at all (`invalid_commands_uncounted`).

The replies the session makes of its own pair each code with an enhanced code, and the recipient cap of `handleRCPT`
pairs `452` (class 4) with `EnhancedCodeTooManyRecipients`, `5.5.3` (class 5) (`rcpt_cap_class_mismatch`).

`strings.ToUpper` maps `ı` (U+0131) to `I` and `ſ` (U+017F) to `S`, so the verbs, the `LAST` of `BDAT` and the
mechanisms of `AUTH` are recognized in spellings that are not ASCII case variants of them
(`toUpper_folds_beyond_ascii`).

`Client.Mail`, `Client.Rcpt` and `Client.ehlo` put their arguments and option values into the command line as they
are. One with `\r\n` in it ends the line there, and what follows is the next command the session reads
(`client_commands_inject`).
-/

namespace Smtp

/-- ASCII case folding: each of `a` to `z` to its capital, every other byte as it is. -/
def asciiUpper (s : Bytes) : Bytes := s.map fun b => if 97 ≤ b ∧ b ≤ 122 then b - 32 else b

/-- The message of the `500` with which the command loop refuses a line before its switch picks a handler: the line
holds a NUL byte, or its verb is of no case of the switch. `none` for a line that reaches a handler. -/
def rejection (line : Bytes) : Option Bytes :=
  if Byte.nul ∈ line then some (ascii "NUL not allowed in commands")
  else if Verb.ofKeyword (toUpper (cut Byte.sp line).1) = none then some (ascii "Command not recognized") else none

/-- A command line that `ReadLine` returns whole and the loop refuses with `msg`. -/
def Refused (line msg : Bytes) : Prop := Byte.lf ∉ line ∧ line.length ≤ 510 ∧ rejection line = some msg

instance (line msg : Bytes) : Decidable (Refused line msg) := inferInstanceAs (Decidable (_ ∧ _ ∧ _))

/-- `421 4.4.0 Too many errors, closing connection`, the reply at the limit of `maxInvalidCmds`. -/
def tooManyErrors : Reply :=
  lineReply replyServiceNotAvailable enhancedCodeOtherNetwork (ascii "Too many errors, closing connection")

namespace CommandsAux
open ClientAux RepliesAux

/-- Commands refused with `503` one after the other: however many, the session answers each and goes on, its fields
as they were. -/
theorem run_data_early (srv : Server) (o : Outcomes) (hsd : o.shutdown = false) :
    ∀ (n : Nat) (w : World) (after : Bytes) (e : ReadErr), w.s.state.rank < SessionState.rcpt.rank →
      w.r = ⟨(List.replicate n (ascii "DATA\r\n")).flatten ++ after, e⟩ →
      run srv (List.replicate n o) w =
        ({ w with r := ⟨after, e⟩, out := w.out ++ writeReplies (List.replicate n sendRcptFirst) }, .next)
  | 0, w, after, e, _, hw => by
    obtain ⟨s, r, out, calls⟩ := w
    simp only [List.replicate, List.flatten_nil, List.nil_append] at hw
    simp [run, hw, writeReplies]
  | n + 1, w, after, e, hst, hw => by
    rw [List.replicate_succ, run, step_data_early srv o w ((List.replicate n (ascii "DATA\r\n")).flatten ++ after) e
      hsd hst (by rw [hw, List.replicate_succ, List.flatten_cons, List.append_assoc])]
    dsimp only
    rw [run_data_early srv o hsd n { w with r := ⟨_, e⟩, out := _ } after e hst rfl, List.replicate_succ]
    simp [writeReplies]

/-! ### What the client writes -/

theorem mail_out (fromAddr : Bytes) (opts : List MailOption) (c : Conn) :
    (Client.mail fromAddr opts c).2.out =
      c.out ++ (ascii "MAIL FROM:<" ++ fromAddr ++ ascii ">" ++ mailParams (.ofList opts)) ++ crlf := by
  simp only [Client.mail]; split <;> rfl

theorem rcpt_out (toAddr : Bytes) (opts : List RcptOption) (c : Conn) :
    (Client.rcpt toAddr opts c).2.out =
      c.out ++ (ascii "RCPT TO:<" ++ toAddr ++ ascii ">" ++ rcptParams (.ofList opts)) ++ crlf := by
  simp only [Client.rcpt]; split <;> rfl

/-- `ehlo` writes `EHLO` first, and then `HELO` or nothing. -/
theorem ehlo_out (localName : Bytes) (c : Conn) :
    ∃ more, (Client.ehlo localName c).2.out = c.out ++ (ascii "EHLO " ++ localName) ++ crlf ++ more := by
  rw [Client.ehlo, cmd_eq]
  rcases readReply c.r with ⟨_ | reply, r⟩
  · exact ⟨[], by simp⟩
  · dsimp only
    split_ifs
    · exact ⟨[], by simp⟩
    · rw [cmd_eq]
      refine ⟨ascii "HELO " ++ localName ++ crlf, ?_⟩
      rcases readReply _ with ⟨_ | _, _⟩ <;> simp
    · exact ⟨[], by simp⟩

/-- `ENVID` is the last parameter of `MAIL`. -/
theorem mailParams_envID (mo : MailOptions) (v : Bytes) (hv : v ≠ []) :
    mailParams (withDSNEnvelopeID v mo) = mailParams { mo with dsnEnvID := [] } ++ ascii " ENVID=" ++ v := by
  simp [withDSNEnvelopeID, mailParams, hv]

/-- `ORCPT` is the last parameter of `RCPT`. -/
theorem rcptParams_orcpt (ro : RcptOptions) (v : Bytes) (hv : v ≠ []) :
    rcptParams (withDSNOriginalRecipient v ro) = rcptParams { ro with dsnOrcpt := [] } ++ ascii " ORCPT=" ++ v := by
  simp [withDSNOriginalRecipient, rcptParams, hv]

/-! ### Refused lines -/

theorem command_rejection (srv : Server) (o : Outcomes) (w : World) (line msg : Bytes) (h : rejection line = some msg) :
    command srv o line w = w.invalidCommand srv msg := by
  unfold rejection at h
  by_cases hn : Byte.nul ∈ line
  · rw [if_pos hn] at h
    cases h
    exact if_pos hn
  · rw [if_neg hn] at h
    split_ifs at h with hv
    cases h
    rw [command, if_neg hn, dispatch, hv]

/-- The turn that reads a refused line: `500`, one more invalid command, and at the limit `421` and the end. -/
theorem step_refused (srv : Server) (o : Outcomes) (w : World) (line msg after : Bytes) (e : ReadErr)
    (hsd : o.shutdown = false) (hl : Refused line msg) (hw : w.r = ⟨line ++ crlf ++ after, e⟩) :
    step srv o w =
      if 0 < srv.maxInvalidCmds ∧ srv.maxInvalidCmds ≤ w.s.invalidCmds + 1 then
        ({ w with
          s := { w.s with invalidCmds := w.s.invalidCmds + 1 }, r := ⟨after, e⟩,
          out := w.out ++ writeReplies [lineReply replySyntaxError enhancedCodeInvalidCommand msg, tooManyErrors] },
          .close)
      else
        ({ w with
          s := { w.s with invalidCmds := w.s.invalidCmds + 1 }, r := ⟨after, e⟩,
          out := w.out ++ writeReplies [lineReply replySyntaxError enhancedCodeInvalidCommand msg] }, .next) := by
  rw [step_line srv o w line after e hsd hl.1 hl.2.1 hw, command_rejection srv o _ line msg hl.2.2]
  simp [World.invalidCommand, World.reply, World.setS, lineReply, tooManyErrors, writeReplies]

/-- Refused lines below the limit of `maxInvalidCmds`, or with no limit: each is answered `500` and counted, and the
loop goes on. -/
theorem run_refused (srv : Server) {ls msgs : List Bytes} (hls : List.Forall₂ Refused ls msgs) :
    ∀ (os : List Outcomes) (w : World) (after : Bytes) (e : ReadErr), os.length = ls.length →
      (∀ o ∈ os, o.shutdown = false) → (srv.maxInvalidCmds ≤ 0 ∨ w.s.invalidCmds + ls.length < srv.maxInvalidCmds) →
      w.r = ⟨(ls.map (· ++ crlf)).flatten ++ after, e⟩ →
      run srv os w = ({ w with
        s := { w.s with invalidCmds := w.s.invalidCmds + ls.length }, r := ⟨after, e⟩,
        out := w.out ++ writeReplies (msgs.map (lineReply replySyntaxError enhancedCodeInvalidCommand)) }, .next) := by
  induction hls with
  | nil =>
    intro os w after e hlen _ _ hw
    rw [List.length_eq_zero.mp hlen]
    obtain ⟨s, r, out, calls⟩ := w
    simp_all [run]
  | @cons l msg ls msgs hl _ ih =>
    rintro (_ | ⟨o, os⟩) w after e hlen hsd hlim hw
    · cases hlen
    have hw' : w.r = ⟨l ++ crlf ++ ((ls.map (· ++ crlf)).flatten ++ after), e⟩ := by rw [hw]; simp
    rw [List.length_cons] at hlim
    rw [run, step_refused srv o w l msg _ e (hsd o (List.mem_cons_self o os)) hl hw', if_neg (by omega)]
    dsimp only
    rw [ih os _ after e (by simpa using hlen) (fun o' h => hsd o' (List.mem_cons_of_mem o h)) (by dsimp only; omega) rfl]
    rw [show w.s.invalidCmds + ((l :: ls).length : Int) = w.s.invalidCmds + 1 + ls.length by
      rw [List.length_cons]; omega]
    simp

end CommandsAux

open CommandsAux ConnAux StringsAux BdatAux

/-! ## Invalid commands -/

/-- Two kinds of error escape the count of `maxInvalidCmds`. From any session, a command line longer than
`MaxCommandLineLen` (within the reader's buffer) ends the session with nothing written and the line consumed. And from
any session before a recipient, any number of `DATA` lines is answered `503` each, and the session goes on with its
fields, `invalidCmds` among them, as they were, whatever `maxInvalidCmds` is. -/
theorem invalid_commands_uncounted (srv : Server) (o : Outcomes) (hsd : o.shutdown = false) :
    (∀ (w : World) (l after : Bytes) (e : ReadErr), Byte.lf ∉ l → maxCommandLineLen < l.length + 2 →
      l.length + 2 ≤ bufSize → w.r = ⟨l ++ crlf ++ after, e⟩ → step srv o w = ({ w with r := ⟨after, e⟩ }, .close)) ∧
    (∀ (n : Nat) (w : World) (after : Bytes) (e : ReadErr), w.s.state.rank < SessionState.rcpt.rank →
      w.r = ⟨(List.replicate n (ascii "DATA\r\n")).flatten ++ after, e⟩ →
      run srv (List.replicate n o) w =
        ({ w with r := ⟨after, e⟩, out := w.out ++ writeReplies (List.replicate n sendRcptFirst) }, .next)) := by
  refine ⟨fun w l after e hl hlen hbuf hw => ?_, run_data_early srv o hsd⟩
  rw [step, if_neg (by simp [hsd]), hw, readLine_tooLong _ _ _ _ hl hlen hbuf]

/-- Eleven `DATA` lines in a greeted session of a server that closes at ten invalid commands: eleven `503`s, and the
session goes on. -/
theorem invalid_commands_uncounted_eleven :
    newServer.maxInvalidCmds = 10 ∧
    run newServer (List.replicate 11 {})
        ⟨{ newSession with state := .greeted }, ⟨(List.replicate 11 (ascii "DATA\r\n")).flatten, .eof⟩, [], []⟩ =
      (⟨{ newSession with state := .greeted }, ⟨[], .eof⟩, writeReplies (List.replicate 11 sendRcptFirst), []⟩,
        .next) :=
  ⟨rfl, (invalid_commands_uncounted newServer {} rfl).2 11
    ⟨{ newSession with state := .greeted }, ⟨(List.replicate 11 (ascii "DATA\r\n")).flatten, .eof⟩, [], []⟩ [] .eof
    (by decide) (by simp)⟩

/-- The limit of `maxInvalidCmds` on the lines the loop refuses itself (a NUL byte, or a verb of no case of the switch),
whatever the session and the handlers. Below the limit, or with no limit (`maxInvalidCmds ≤ 0`), each such line is
answered `500` and counted, and the loop goes on. The line that brings the count to the limit is answered `500` and
`421 4.4.0 Too many errors, closing connection`, and the loop returns: the turns it had left and the bytes after that
line are never read. -/
theorem invalid_commands_close_at_limit (srv : Server) :
    (∀ (ls msgs : List Bytes) (os : List Outcomes) (w : World) (after : Bytes) (e : ReadErr),
      List.Forall₂ Refused ls msgs → os.length = ls.length → (∀ o ∈ os, o.shutdown = false) →
      (srv.maxInvalidCmds ≤ 0 ∨ w.s.invalidCmds + ls.length < srv.maxInvalidCmds) →
      w.r = ⟨(ls.map (· ++ crlf)).flatten ++ after, e⟩ →
      run srv os w = ({ w with
        s := { w.s with invalidCmds := w.s.invalidCmds + ls.length }, r := ⟨after, e⟩,
        out := w.out ++ writeReplies (msgs.map (lineReply replySyntaxError enhancedCodeInvalidCommand)) }, .next)) ∧
    (∀ (ls msgs : List Bytes) (l msg : Bytes) (os more : List Outcomes) (o : Outcomes) (w : World) (after : Bytes)
      (e : ReadErr), List.Forall₂ Refused ls msgs → Refused l msg → os.length = ls.length →
      (∀ o' ∈ os, o'.shutdown = false) → o.shutdown = false →
      0 < srv.maxInvalidCmds → w.s.invalidCmds + ls.length + 1 = srv.maxInvalidCmds →
      w.r = ⟨((ls ++ [l]).map (· ++ crlf)).flatten ++ after, e⟩ →
      run srv (os ++ o :: more) w = ({ w with
        s := { w.s with invalidCmds := srv.maxInvalidCmds }, r := ⟨after, e⟩,
        out := w.out ++ writeReplies ((msgs ++ [msg]).map (lineReply replySyntaxError enhancedCodeInvalidCommand) ++
          [tooManyErrors]) }, .close)) := by
  refine ⟨fun ls msgs os w after e hls => run_refused srv hls os w after e, ?_⟩
  intro ls msgs l msg os more o w after e hls hl hlen hsd ho hpos hcnt hw
  have hrun := run_refused srv hls os w (l ++ crlf ++ after) e hlen hsd (.inr (by omega)) (by rw [hw]; simp)
  rw [run_append_of_next srv (o :: more) os w _ hrun, run, step_refused srv o _ l msg after e ho hl rfl,
    if_pos (by dsimp only; omega)]
  simp [hcnt]

/-- A server that closes at two invalid commands reads `FOO` and `BAR` in a new session: `FOO` is answered `500` and
the loop goes on, `BAR` is answered `500` and `421`, and the loop returns. -/
theorem invalid_commands_close_at_limit_two :
    let srv : Server := { newServer with maxInvalidCmds := 2 }
    let w : World := ⟨newSession, ⟨ascii "FOO\r\nBAR\r\n", .eof⟩, [], []⟩
    (run srv [{}] w).2 = .next ∧ (run srv [{}, {}] w).2 = .close :=
  ⟨congrArg Prod.snd ((invalid_commands_close_at_limit { newServer with maxInvalidCmds := 2 }).1 [ascii "FOO"]
      [ascii "Command not recognized"] [{}] _ (ascii "BAR\r\n") .eof (.cons (by decide) .nil) rfl (by simp)
      (.inr (by decide)) rfl),
    congrArg Prod.snd ((invalid_commands_close_at_limit { newServer with maxInvalidCmds := 2 }).2 [ascii "FOO"]
      [ascii "Command not recognized"] (ascii "BAR") (ascii "Command not recognized") [{}] [] {} _ [] .eof
      (.cons (by decide) .nil) (by decide) rfl (by simp) rfl (by decide) (by decide) rfl)⟩

/-! ## Reply classes -/

/-- The recipient cap of `handleRCPT`: from any session after `MAIL` that holds `maxRecipients` recipients or more,
the turn that reads a `RCPT` line writes `452 5.5.3 Too many recipients` and nothing else, a reply whose code is of
class 4 and whose enhanced code is of class 5. -/
theorem rcpt_cap_class_mismatch (srv : Server) (o : Outcomes) (w : World) (args after : Bytes) (e : ReadErr)
    (hsd : o.shutdown = false) (hst : SessionState.mail.rank ≤ w.s.state.rank)
    (hcap : srv.maxRecipients ≤ w.s.forwardPaths.length) (hargs : Byte.lf ∉ args ∧ Byte.nul ∉ args ∧ args.length ≤ 505)
    (hw : w.r = ⟨ascii "RCPT " ++ args ++ crlf ++ after, e⟩) :
    step srv o w = ({ w with
        r := ⟨after, e⟩
        out := w.out ++ writeReplies [lineReply replyInsufficientStorage enhancedCodeTooManyRecipients
          (ascii "Too many recipients")] }, .next) ∧
    replyInsufficientStorage / 100 ≠ enhancedCodeTooManyRecipients.cls := by
  have hline : ascii "RCPT " ++ args = ascii "RCPT" ++ Byte.sp :: args := by
    rw [show ascii "RCPT " = ascii "RCPT" ++ [Byte.sp] from rfl, List.append_assoc, List.singleton_append]
  have hl : Byte.lf ∉ ascii "RCPT " ++ args := by
    simp only [List.mem_append, not_or]; exact ⟨by decide, hargs.1⟩
  have hn : Byte.nul ∉ ascii "RCPT" ++ Byte.sp :: args := by
    rw [← hline]; simp only [List.mem_append, not_or]; exact ⟨by decide, hargs.2.1⟩
  refine ⟨?_, by decide⟩
  rw [step_line srv o w _ after e hsd hl (by rw [List.length_append, show (ascii "RCPT ").length = 5 from rfl]; omega) hw,
    hline, command_verb srv o _ _ _ (by decide) hn, dispatch_rcpt srv o _ _ _ (by decide)]
  show (handleRCPT srv o args { w with r := ⟨after, e⟩ }, Flow.next) = _
  rw [handleRCPT, if_neg (by simpa using hst), if_pos (by simpa using hcap)]
  simp [World.reply, lineReply, writeReplies]

/-- A server with one recipient allowed: after `HELO`, `MAIL` and an accepted `RCPT`, the second `RCPT` is answered
`452 5.5.3`. -/
theorem rcpt_cap_class_mismatch_second :
    let srv : Server := { newServer with maxRecipients := 1 }
    let w := (run srv [{}, {}, {}] (greet srv none
      ⟨ascii "HELO x\r\nMAIL FROM:<a@b.c>\r\nRCPT TO:<d@e.f>\r\nRCPT TO:<g@h.i>\r\n", .eof⟩).1).1
    ({} : Outcomes).shutdown = false ∧ SessionState.mail.rank ≤ w.s.state.rank ∧
      srv.maxRecipients ≤ w.s.forwardPaths.length ∧
      w.r = ⟨ascii "RCPT " ++ ascii "TO:<g@h.i>" ++ crlf ++ [], .eof⟩ ∧
      step srv {} w = ({ w with
          r := ⟨[], .eof⟩
          out := w.out ++ writeReplies [lineReply replyInsufficientStorage enhancedCodeTooManyRecipients
            (ascii "Too many recipients")] }, .next) :=
  ⟨rfl, by decide, by decide, by decide,
    (rcpt_cap_class_mismatch _ {} _ (ascii "TO:<g@h.i>") [] .eof rfl (by decide) (by decide) (by decide)
      (by decide)).1⟩

/-! ## Case folding -/

/-- `strings.ToUpper` maps `ı` (U+0131, bytes `C4 B1`) to `I` and `ſ` (U+017F, bytes `C5 BF`) to `S`. In every
session, whatever follows, the session takes the line `quıt` as `QUIT`, `BDAT 5 laſt` as `BDAT 5 LAST`, and
`AUTH plaın ...` as `AUTH PLAIN ...`, although none of `quıt`, `laſt`, `plaın` is an ASCII case variant of the keyword. -/
theorem toUpper_folds_beyond_ascii (srv : Server) (o : Outcomes) (w : World) (ir : Bytes) :
    command srv o (ascii "qu" ++ [0xC4, 0xB1] ++ ascii "t") w = command srv o (ascii "QUIT") w ∧
    command srv o (ascii "BDAT 5 la" ++ [0xC5, 0xBF] ++ ascii "t") w = command srv o (ascii "BDAT 5 LAST") w ∧
    command srv o (ascii "AUTH pla" ++ [0xC4, 0xB1] ++ ascii "n" ++ Byte.sp :: ir) w =
      command srv o (ascii "AUTH PLAIN" ++ Byte.sp :: ir) w ∧
    asciiUpper (ascii "qu" ++ [0xC4, 0xB1] ++ ascii "t") ≠ ascii "QUIT" ∧
    asciiUpper (ascii "la" ++ [0xC5, 0xBF] ++ ascii "t") ≠ ascii "LAST" ∧
    asciiUpper (ascii "pla" ++ [0xC4, 0xB1] ++ ascii "n") ≠ ascii "PLAIN" := by
  refine ⟨?_, ?_, ?_, by decide, by decide, by decide⟩
  · rw [command_word srv o w _ (by decide) (by decide), command_word srv o w _ (by decide) (by decide)]
    rfl
  · rw [show ascii "BDAT 5 la" ++ [0xC5, 0xBF] ++ ascii "t" = ascii "BDAT" ++ Byte.sp :: (ascii "5 la" ++ [0xC5, 0xBF] ++
        ascii "t") from rfl, show ascii "BDAT 5 LAST" = ascii "BDAT" ++ Byte.sp :: ascii "5 LAST" from rfl,
      command_verb srv o w _ _ (by decide) (by decide), command_verb srv o w _ _ (by decide) (by decide)]
    simp only [dispatch, show Verb.ofKeyword (toUpper (ascii "BDAT")) = some .bdat by decide, handleBDAT,
      show fields (ascii "5 la" ++ [0xC5, 0xBF] ++ ascii "t") = [ascii "5", ascii "la" ++ [0xC5, 0xBF] ++ ascii "t"] by
        decide,
      show fields (ascii "5 LAST") = [ascii "5", ascii "LAST"] by decide,
      show toUpper (ascii "la" ++ [0xC5, 0xBF] ++ ascii "t") = ascii "LAST" by decide,
      show toUpper (ascii "LAST") = ascii "LAST" by decide, List.head?_cons, Option.map_some']
  · rw [show ascii "AUTH pla" ++ [0xC4, 0xB1] ++ ascii "n" ++ Byte.sp :: ir =
        ascii "AUTH" ++ Byte.sp :: (ascii "pla" ++ [0xC4, 0xB1] ++ ascii "n" ++ Byte.sp :: ir) from rfl,
      show ascii "AUTH PLAIN" ++ Byte.sp :: ir = ascii "AUTH" ++ Byte.sp :: (ascii "PLAIN" ++ Byte.sp :: ir) from rfl]
    by_cases hn : Byte.nul ∈ ir
    · -- the `NUL` check comes first, and both lines fail it
      have h : ∀ a, Byte.nul ∈ ascii "AUTH" ++ Byte.sp :: (a ++ Byte.sp :: ir) := fun a =>
        List.mem_append_right _ (.tail _ (List.mem_append_right _ (.tail _ hn)))
      rw [command, command, if_pos (h _), if_pos (h _)]
    rw [command_verb srv o w _ _ (by decide) (by simp only [List.mem_append, List.mem_cons, hn]; decide),
      command_verb srv o w _ _ (by decide) (by simp only [List.mem_append, List.mem_cons, hn]; decide)]
    simp only [dispatch, show Verb.ofKeyword (toUpper (ascii "AUTH")) = some .auth by decide, handleAUTH,
      cut_append Byte.sp ir (ascii "pla" ++ [0xC4, 0xB1] ++ ascii "n") (by decide),
      cut_append Byte.sp ir (ascii "PLAIN") (by decide),
      show toUpper (ascii "pla" ++ [0xC4, 0xB1] ++ ascii "n") = ascii "PLAIN" by decide,
      show toUpper (ascii "PLAIN") = ascii "PLAIN" by decide]

/-! ## Command lines the client writes -/

/-- The client writes an argument `a ++ "\r\n" ++ b` into its command line as it is, so its write is two command
lines, the second starting with `b`: as the address of `Mail` and of `Rcpt`, as the name of `ehlo`, and as the value
of `ENVID` and of `ORCPT`, whatever the other options. And from every session, the turn that reads the write of
`Mail` takes `MAIL FROM:<a` as the command, and leaves the line from `b` to the next turn. -/
theorem client_commands_inject (c : Conn) (a b : Bytes) :
    (∀ opts, (Client.mail (a ++ crlf ++ b) opts c).2.out =
      c.out ++ ascii "MAIL FROM:<" ++ a ++ crlf ++ b ++ ascii ">" ++ mailParams (.ofList opts) ++ crlf) ∧
    (∀ opts, (Client.rcpt (a ++ crlf ++ b) opts c).2.out =
      c.out ++ ascii "RCPT TO:<" ++ a ++ crlf ++ b ++ ascii ">" ++ rcptParams (.ofList opts) ++ crlf) ∧
    (∃ more, (Client.ehlo (a ++ crlf ++ b) c).2.out = c.out ++ ascii "EHLO " ++ a ++ crlf ++ b ++ crlf ++ more) ∧
    (∀ fromAddr opts, (Client.mail fromAddr (opts ++ [withDSNEnvelopeID (a ++ crlf ++ b)]) c).2.out =
      c.out ++ ascii "MAIL FROM:<" ++ fromAddr ++ ascii ">" ++ mailParams { MailOptions.ofList opts with dsnEnvID := [] } ++
        ascii " ENVID=" ++ a ++ crlf ++ b ++ crlf) ∧
    (∀ toAddr opts, (Client.rcpt toAddr (opts ++ [withDSNOriginalRecipient (a ++ crlf ++ b)]) c).2.out =
      c.out ++ ascii "RCPT TO:<" ++ toAddr ++ ascii ">" ++ rcptParams { RcptOptions.ofList opts with dsnOrcpt := [] } ++
        ascii " ORCPT=" ++ a ++ crlf ++ b ++ crlf) ∧
    (∀ (srv : Server) (o : Outcomes) (w : World) (opts : List MailOption) (after : Bytes) (e : ReadErr),
      o.shutdown = false → Byte.lf ∉ a → a.length ≤ 499 →
      w.r = ⟨ascii "MAIL FROM:<" ++ a ++ crlf ++ b ++ ascii ">" ++ mailParams (.ofList opts) ++ crlf ++ after, e⟩ →
      step srv o w = command srv o (ascii "MAIL FROM:<" ++ a)
        { w with r := ⟨b ++ ascii ">" ++ mailParams (.ofList opts) ++ crlf ++ after, e⟩ }) := by
  have hv : a ++ crlf ++ b ≠ [] := by simp [crlf]
  refine ⟨fun opts => by simp [mail_out], fun opts => by simp [rcpt_out], ?_, fun fromAddr opts => ?_,
    fun toAddr opts => ?_, fun srv o w opts after e hsd ha hlen hw => ?_⟩
  · obtain ⟨more, h⟩ := ehlo_out (a ++ crlf ++ b) c
    exact ⟨more, by rw [h]; simp only [List.append_assoc]⟩
  · rw [mail_out, show MailOptions.ofList (opts ++ [withDSNEnvelopeID (a ++ crlf ++ b)]) =
      withDSNEnvelopeID (a ++ crlf ++ b) (.ofList opts) from List.foldl_append .., mailParams_envID _ _ hv]
    simp only [List.append_assoc]
  · rw [rcpt_out, show RcptOptions.ofList (opts ++ [withDSNOriginalRecipient (a ++ crlf ++ b)]) =
      withDSNOriginalRecipient (a ++ crlf ++ b) (.ofList opts) from List.foldl_append .., rcptParams_orcpt _ _ hv]
    simp only [List.append_assoc]
  · -- the server: the line up to the first `\r\n`, within the limit
    refine step_line srv o w _ _ e hsd ?_ ?_ (by rw [hw]; simp)
    · simp only [List.mem_append, not_or]; exact ⟨by decide, ha⟩
    · rw [List.length_append, show (ascii "MAIL FROM:<").length = 11 from rfl]; omega

/-- The address `a@b>\r\nRCPT TO:<x@y` given to `Mail`: the client writes `MAIL FROM:<a@b>` and `RCPT TO:<x@y>`, and
a greeted session calls `OnMail` with `a@b` and then `OnRcpt` with `x@y`. -/
theorem client_commands_inject_rcpt :
    let srv : Server := { newServer with mailHandler := true, rcptHandler := true }
    let w : World := ⟨{ newSession with state := .greeted }, ⟨ascii "MAIL FROM:<a@b>\r\nRCPT TO:<x@y>\r\n", .eof⟩, [], []⟩
    (Client.mail (ascii "a@b>" ++ crlf ++ ascii "RCPT TO:<x@y") [] ⟨⟨[], .eof⟩, []⟩).2.out =
        ascii "MAIL FROM:<a@b>\r\nRCPT TO:<x@y>\r\n" ∧
      step srv {} w = command srv {} (ascii "MAIL FROM:<a@b>") { w with r := ⟨ascii "RCPT TO:<x@y>\r\n", .eof⟩ } ∧
      (run srv [{}, {}] w).1.calls = [.mail { mailbox := ⟨ascii "a", ascii "b"⟩ }, .rcpt ⟨⟨ascii "x", ascii "y"⟩⟩] :=
  ⟨by decide, (client_commands_inject ⟨⟨[], .eof⟩, []⟩ (ascii "a@b>") (ascii "RCPT TO:<x@y")).2.2.2.2.2 _ {} _ [] [] .eof
    rfl (by decide) (by decide) (by decide), by decide⟩

end Smtp
