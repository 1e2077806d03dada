import Smtp.Lemmas.Replies
import Smtp.Lemmas.Dot

/-!
# The command loop is driven by its input

Every turn of the loop of `handleConn` that goes on has read its command line from the connection, at least one byte,
and no handler puts a byte back: `DATA` and `BDAT` read their body, an `AUTH` exchange reads its answers, and the
other handlers read nothing more. The one turn that changes the stream is a `STARTTLS` whose handshake succeeds, which
goes on over the TLS stream the handshake hands it (`step_reads`). So the loop ends, closing the connection or
crashing, within one turn more than the bytes it is sent, counting the bytes of every TLS stream (`handleConn_ends`).
-/

namespace Smtp

/-- The bytes of the TLS stream a turn's handshake hands the loop; none without a handshake. -/
def Outcomes.tlsBytes (o : Outcomes) : Nat :=
  match o.handshake with
  | none => 0
  | some r => r.bytes.length

namespace ProgressAux
open ConnAux DotAux SessionAux RepliesAux

/-! ## Reading a line -/

/-- `ReadLine` of `bufio.Reader` puts back at most the `\r` it took. -/
theorem bufReadLine_length_le (r : BufReader) : (bufReadLine r).2.bytes.length ≤ r.bytes.length := by
  rcases readSlice_cases r with ⟨line, rest, hw, hs⟩ | ⟨-, hlen, hs⟩ | ⟨-, -, hs⟩ <;> simp only [bufReadLine, hs]
  · rw [(lineWithin_eq_some hw).1, List.length_append]; omega
  · split_ifs <;> simp only [List.length_cons, List.length_drop, bufSize] at hlen ⊢ <;> omega
  · split_ifs <;> simp

theorem drainLine_length_le : ∀ (n : Nat) (r : BufReader), (drainLine n r).bytes.length ≤ r.bytes.length
  | 0, _ => le_rfl
  | n + 1, r => by
    have h := bufReadLine_length_le r
    rw [drainLine]
    split
    · exact (drainLine_length_le n _).trans (by simp_all)
    · simp_all

theorem readLineLoop_length_le (maxLen : Nat) :
    ∀ (n : Nat) (line : Bytes) (r : BufReader), (readLineLoop maxLen n line r).2.bytes.length ≤ r.bytes.length
  | 0, _, _ => le_rfl
  | n + 1, line, r => by
    have h := bufReadLine_length_le r
    rw [readLineLoop]
    split
    · simp_all
    · split_ifs <;> simp_all
    · split_ifs
      · exact (drainLine_length_le _ _).trans (by simp_all)
      · exact (readLineLoop_length_le maxLen n _ _).trans (by simp_all)

/-- `Conn.ReadLine` never puts bytes back. -/
theorem readLine_length_le (maxLen : Nat) (r : BufReader) : (readLine maxLen r).2.bytes.length ≤ r.bytes.length :=
  readLineLoop_length_le maxLen _ _ r

theorem readLine_nil (maxLen : Nat) (e : ReadErr) : readLine maxLen ⟨[], e⟩ = (.error (.io e), ⟨[], e⟩) := rfl

/-- A line `Conn.ReadLine` returns was read from the connection: at least one byte, its `\n` or the last byte of the
stream. -/
theorem readLine_ok_lt {maxLen : Nat} {r r' : BufReader} {line : Bytes} (hmax : maxLen < bufSize - 1)
    (h : readLine maxLen r = (.ok line, r')) : r'.bytes.length < r.bytes.length := by
  obtain ⟨-, -, -, t, hr, ht⟩ := readLine_ok hmax h
  rcases ht with rfl | rfl | ⟨rfl, hr'⟩
  · rw [hr]; simp; omega
  · rw [hr]; simp [crlf]; omega
  · rcases r with ⟨_ | ⟨b, bs⟩, e⟩
    · rw [readLine_nil] at h; cases h
    · rw [hr']; simp

/-! ## The handlers -/

@[simp] theorem reply_r (w : World) (c : Int) (e : EnhancedCode) (m : Bytes) : (w.reply c e m).r = w.r := rfl
@[simp] theorem replyMulti_r (w : World) (c : Int) (ls : List Bytes) : (w.replyMulti c ls).r = w.r := rfl
@[simp] theorem call_r (w : World) (c : Call) : (w.call c).r = w.r := rfl
@[simp] theorem setS_r (w : World) (f : Session → Session) : (w.setS f).r = w.r := rfl

@[simp] theorem replyErr_r (w : World) (d : Int × EnhancedCode × Bytes) (e : HandlerErr) : (w.replyErr d e).r = w.r := by
  cases e <;> rfl

@[simp] theorem invoke_fst_r (w : World) (b : Bool) (c : Call) (e : Option HandlerErr) : (w.invoke b c e).1.r = w.r := by
  unfold World.invoke; split <;> rfl

theorem invoke_r {w w' : World} {b : Bool} {c : Call} {e r : Option HandlerErr} (h : w.invoke b c e = (w', r)) :
    w'.r = w.r := by
  rw [← invoke_fst_r w b c e, h]

@[simp] theorem finishMessage_r (srv : Server) (p : World × Option HandlerErr) : (finishMessage srv p).r = p.1.r := by
  obtain ⟨w, e⟩ := p
  cases e <;> simp [finishMessage]

@[simp] theorem authenticate_r (o : Outcomes) (w : World) (m u p : Bytes) : (w.authenticate o m u p).r = w.r := by
  unfold World.authenticate; split <;> simp

/-- Both branches of an `if` leave the reader as `r`. -/
theorem ite_r {c : Prop} [Decidable c] {a b : World} {r : BufReader} (ha : c → a.r = r) (hb : ¬c → b.r = r) :
    (if c then a else b).r = r :=
  ite_of_apply World.r (P := (· = r)) ha hb

/-- Both branches of an `if` read no further than `n`. -/
theorem ite_len {c : Prop} [Decidable c] {a b : World} {n : Nat} (ha : c → a.r.bytes.length ≤ n)
    (hb : ¬c → b.r.bytes.length ≤ n) : (if c then a else b).r.bytes.length ≤ n :=
  ite_of_apply (fun w : World => w.r.bytes.length) (P := (· ≤ n)) ha hb

section
variable (srv : Server) (o : Outcomes) (args : Bytes) (w : World)

theorem handleHello_r (esmtp : Bool) (missing : Bytes) : (handleHello esmtp missing srv o args w).r = w.r := by
  unfold handleHello
  refine ite_r (fun _ => rfl) fun _ => ?_
  split
  · simp [invoke_r ‹_›]
  · dsimp only; split <;> simp [invoke_r ‹_›]

theorem handleMAIL_r : (handleMAIL srv o args w).r = w.r := by
  unfold handleMAIL
  refine ite_r (fun _ => rfl) fun _ => ite_r (fun _ => rfl) fun _ => ite_r (fun _ => rfl) fun _ =>
    ite_r (fun _ => rfl) fun _ => ?_
  split
  · rfl
  · split <;> simp [invoke_r ‹_›]

theorem handleRCPT_r : (handleRCPT srv o args w).r = w.r := by
  unfold handleRCPT
  refine ite_r (fun _ => rfl) fun _ => ite_r (fun _ => rfl) fun _ => ite_r (fun _ => rfl) fun _ => ?_
  split
  · rfl
  · split <;> simp [invoke_r ‹_›]

/-- The body of `DATA` is read with the dot reader, which keeps at most the bytes after the terminator. -/
theorem dataBody_length_le (r : BufReader) : (dataBody r).2.bytes.length ≤ r.bytes.length := by
  have h := readLoop_progress (r.bytes.length + 1) .beginLine r.bytes
  simp only [pending, Nat.add_zero] at h
  simp only [dataBody, DotReader.read, newDotReader, reduceCtorEq, if_false]
  split <;> simp <;> omega

theorem handleDATA_r : (handleDATA srv o w).r.bytes.length ≤ w.r.bytes.length := by
  unfold handleDATA
  split
  · exact le_rfl
  · simpa using dataBody_length_le _

theorem handleBDAT_r : (handleBDAT srv o args w).1.r.bytes.length ≤ w.r.bytes.length := by
  unfold handleBDAT
  split_ifs <;> try exact le_rfl
  split <;> try exact le_rfl
  split <;> try exact le_rfl
  split_ifs <;> simp

theorem handleVRFY_r : (handleVRFY srv o args w).r = w.r := by
  unfold handleVRFY; split
  · split <;> simp
  · rfl

theorem handleRSET_r : (handleRSET srv w).r = w.r := by
  simp [handleRSET]

/-- `STARTTLS` reads nothing more; a handshake that succeeds hands the loop the TLS stream. -/
theorem handleSTARTTLS_r : (handleSTARTTLS srv o w).r.bytes.length ≤ w.r.bytes.length + o.tlsBytes := by
  unfold handleSTARTTLS
  refine ite_len (fun _ => Nat.le_add_right _ _) fun _ => ite_len (fun _ => Nat.le_add_right _ _) fun _ => ?_
  rcases h : o.handshake with _ | r <;> simp [Outcomes.tlsBytes, h]

theorem invalidCommand_r (msg : Bytes) : (w.invalidCommand srv msg).1.r = w.r := by
  unfold World.invalidCommand; dsimp only; split <;> rfl

/-- An answer of an exchange is one line read from the connection. -/
theorem authResponse_r : (respWorld w.authResponse).r.bytes.length ≤ w.r.bytes.length := by
  have h := readLine_length_le maxCommandLineLen w.r
  unfold World.authResponse
  generalize readLine maxCommandLineLen w.r = x at h
  rcases x with ⟨_ | line, r⟩
  · exact h
  · dsimp only; split
    · exact h
    · split <;> exact h

theorem plainResponse_r (i : Bytes) : (respWorld (plainResponse i w)).r.bytes.length ≤ w.r.bytes.length := by
  unfold plainResponse; split
  · split <;> exact le_rfl
  · exact authResponse_r _

/-- An exchange that goes on from `r`, which has read from `w`'s connection, reads no further back. -/
theorem resp_r {r : Except World (Bytes × World)} (hr : (respWorld r).r.bytes.length ≤ w.r.bytes.length)
    (k : Bytes → World → World) (hk : ∀ d w', (k d w').r.bytes.length ≤ w'.r.bytes.length) :
    (match r with | .error w' => w' | .ok (d, w') => k d w').r.bytes.length ≤ w.r.bytes.length := by
  cases r with
  | error w' => exact hr
  | ok p => exact (hk p.1 p.2).trans hr

theorem authPLAIN_r (i : Bytes) : (authPLAIN o i w).r.bytes.length ≤ w.r.bytes.length :=
  resp_r w (plainResponse_r w i) _ fun _ _ => by split <;> simp

theorem authLOGIN_r : (authLOGIN o w).r.bytes.length ≤ w.r.bytes.length :=
  resp_r w (by exact authResponse_r _) _ fun _ w' => resp_r w' (by exact authResponse_r _) _ fun _ _ => by simp

theorem authCRAMMD5_r : (authCRAMMD5 srv o w).r.bytes.length ≤ w.r.bytes.length :=
  resp_r w (by exact authResponse_r _) _ fun _ _ => by split <;> simp

theorem handleAUTH_r : (handleAUTH srv o args w).r.bytes.length ≤ w.r.bytes.length := by
  unfold handleAUTH
  exact ite_len (fun _ => le_rfl) fun _ => ite_len (fun _ => le_rfl) fun _ => ite_len (fun _ => le_rfl) fun _ =>
    ite_len (fun _ => le_rfl) fun _ => ite_len (fun _ => authPLAIN_r ..) fun _ =>
    ite_len (fun _ => authLOGIN_r ..) fun _ => ite_len (fun _ => authCRAMMD5_r ..) fun _ => le_rfl

/-- No command puts bytes back; only a handshake adds the bytes of its stream. -/
theorem dispatch_r (verb : Bytes) : (dispatch srv o verb args w).1.r.bytes.length ≤ w.r.bytes.length + o.tlsBytes := by
  unfold dispatch
  split <;> try simp only [handleEHLO, handleHELO, handleHello_r, handleMAIL_r, handleRCPT_r, handleRSET_r, handleNOOP,
    handleQUIT, reply_r, handleVRFY_r, invalidCommand_r, Nat.le_add_right]
  · exact (handleDATA_r ..).trans (Nat.le_add_right _ _)
  · exact handleSTARTTLS_r ..
  · exact (handleAUTH_r ..).trans (Nat.le_add_right _ _)
  · exact (handleBDAT_r ..).trans (Nat.le_add_right _ _)

theorem command_r (line : Bytes) : (command srv o line w).1.r.bytes.length ≤ w.r.bytes.length + o.tlsBytes := by
  unfold command; split
  · simp only [invalidCommand_r, Nat.le_add_right]
  · exact dispatch_r srv o _ w _

/-- A turn that goes on has read its command line, and no more comes back than the stream of its handshake. -/
theorem step_reads (h : (step srv o w).2 = .next) :
    (step srv o w).1.r.bytes.length < w.r.bytes.length + o.tlsBytes := by
  unfold step at h ⊢
  by_cases hs : o.shutdown = true
  · rw [if_pos hs] at h; cases h
  rw [if_neg hs] at h ⊢
  generalize hl : readLine maxCommandLineLen w.r = x at h ⊢
  rcases x with ⟨_ | line, r⟩
  · cases h
  · have hlt : r.bytes.length < w.r.bytes.length := readLine_ok_lt (by decide) hl
    exact (command_r srv o _ line).trans_lt (by dsimp only; omega)

end

/-- A run of more turns than the bytes left to read, counting those of every stream a handshake hands it, returns
before its turns run out. -/
theorem run_ends (srv : Server) : ∀ (os : List Outcomes) (w : World),
    w.r.bytes.length + os.foldr (fun o n => o.tlsBytes + n) 0 < os.length → (run srv os w).2 ≠ .next
  | [], _, h => absurd h (Nat.not_lt_zero _)
  | o :: os, w, h => by
    have hstep := step_reads srv o w
    rw [run]
    split
    · next w' hs =>
      rw [hs] at hstep
      have hlt : w'.r.bytes.length < w.r.bytes.length + o.tlsBytes := hstep rfl
      refine run_ends srv os w' ?_
      rw [List.foldr_cons, List.length_cons] at h
      omega
    · next hne => exact fun hres => hne _ (Prod.ext rfl hres)

theorem greet_r (srv : Server) (oc : Option HandlerErr) (r : BufReader) : (greet srv oc r).1.r = r := by
  unfold greet; split <;> rfl

end ProgressAux

open ProgressAux in
/-- `handleConn` returns, closing the connection or crashing, within one turn more than the bytes it is sent, counting
the bytes of every TLS stream a successful handshake hands it. -/
theorem handleConn_ends (srv : Server) (onConnect : Option HandlerErr) (os : List Outcomes) (r : BufReader)
    (hlen : r.bytes.length + os.foldr (fun o n => o.tlsBytes + n) 0 < os.length) :
    (handleConn srv onConnect os r).2 ≠ .next := by
  have hr := greet_r srv onConnect r
  unfold handleConn
  split
  · next w hg =>
    rw [hg] at hr
    exact run_ends srv os w (hr ▸ hlen)
  · next hne => exact fun hres => hne _ (Prod.ext rfl hres)

/-- A server with a TLS configuration reads `STARTTLS`, the handshake hands it the stream `NOOP\r\n`, and within
seventeen turns the loop returns. -/
theorem handleConn_ends_starttls :
    (handleConn { newServer with tlsConfig := true } none
      ({ handshake := some ⟨ascii "NOOP\r\n", .eof⟩ } :: List.replicate 16 {}) ⟨ascii "STARTTLS\r\n", .eof⟩).2 ≠
      .next :=
  handleConn_ends _ none _ _ (by decide)

end Smtp
