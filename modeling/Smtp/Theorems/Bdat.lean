import Smtp.Client
import Smtp.Theorems.Client

/-!
# `BDAT` between the client and the server

A message sent in chunks with `Client.Bdat` (RFC 3030), against the turns of the server's command loop that read
what it writes. `Client.Bdat` writes `BDAT <size>`, with ` LAST` on the last chunk, and the chunk as it is;
`handleBDAT` reads the size back with `fmt.Sscanf`, takes exactly that many bytes after the line, answers each chunk
but the last with its size, and hands `OnData` the chunks joined as they are, with no dot-stuffing and no canonical
line ends. `Client.Bdat` reads one reply for each chunk, and the message is sent without error exactly when the last
reply is `250` (`bdat_delivers_chunks`).

Chunks are taken no larger than `maxAlloc`, as any chunk a client holds in memory is.
-/

namespace Smtp

/-- The reply to a chunk that is not the last: `250 2.0.0 <size> bytes received`. -/
def chunkReply (size : Nat) : Reply := lineReply replyOK enhancedCodeOK (formatInt size ++ ascii " bytes received")

/-- What `Client.Bdat` writes for the chunks `ps`, then for the last chunk `p`. -/
def bdatWrites (ps : List Bytes) (p : Bytes) : Bytes :=
  (ps.map fun q => bdatCommand q false ++ crlf ++ q).flatten ++ (bdatCommand p true ++ crlf ++ p)

/-- A message sent in chunks with `Client.Bdat`, as its callers do: `ps`, then `p` with `last` set, stopping at the
first error. -/
def sendChunks : List Bytes → Bytes → Conn → Option BdatErr × Conn
  | [], p, c => Client.bdat p true c
  | q :: qs, p, c =>
    match Client.bdat q false c with
    | (none, c) => sendChunks qs p c
    | res => res

namespace BdatAux
open ConnAux ClientAux RepliesAux StringsAux

/-! ## The size and `LAST`, as `strings.Fields` splits them -/

/-- Bytes `strings.Fields` keeps together: ASCII, and none of them white space. -/
def Word (w : Bytes) : Prop := ∀ b ∈ w, b < 0x80 ∧ isSpaceRune b.toNat = false

instance : DecidablePred Word := fun w => inferInstanceAs (Decidable (∀ b ∈ w, _))

theorem fieldsAux_word : ∀ w : Bytes, Word w → ∀ rest acc,
    fieldsAux (w.map (fun b => (b.toNat, [b])) ++ rest) acc = fieldsAux rest (acc ++ w)
  | [], _, rest, acc => by simp
  | b :: w, h, rest, acc => by
    rw [List.map_cons, List.cons_append, fieldsAux, if_neg (by simp [(h b (List.mem_cons_self _ _)).2]),
      fieldsAux_word w (fun x hx => h x (List.mem_cons_of_mem _ hx))]
    simp

theorem fields_words {w₁ w₂ : Bytes} (h1 : Word w₁) (h2 : Word w₂) (hne : w₁ ≠ []) :
    fields (w₁ ++ Byte.sp :: w₂) = w₁ :: fields w₂ := by
  have ha : ∀ b ∈ w₁ ++ Byte.sp :: w₂, b < 0x80 := by
    simp only [List.mem_append, List.mem_cons]
    rintro b (hb | rfl | hb)
    exacts [(h1 b hb).1, by decide, (h2 b hb).1]
  rw [fields, fields, runes_ascii _ ha, runes_ascii _ fun b hb => (h2 b hb).1, List.map_append,
    fieldsAux_word _ h1, List.nil_append, List.map_cons, fieldsAux, if_pos (by decide), if_neg hne]

theorem fields_word {w : Bytes} (h : Word w) (hne : w ≠ []) : fields w = [w] := by
  rw [fields, runes_ascii _ fun b hb => (h b hb).1, ← List.append_nil (List.map _ w), fieldsAux_word _ h,
    List.nil_append, fieldsAux, if_neg hne]

/-- The digits are ASCII, not white space, and not `NUL`. -/
theorem digit_word : ∀ k, k < 10 → (48 + k).toUInt8 < 0x80 ∧ isSpaceRune ((48 + k).toUInt8).toNat = false ∧
    (48 + k).toUInt8 ≠ Byte.nul := by
  decide

theorem word_decimal (n : Nat) : Word (decimal n) := fun b hb => by
  obtain ⟨k, hk, rfl⟩ := mem_decimal hb
  exact ⟨(digit_word k hk).1, (digit_word k hk).2.1⟩

/-- The arguments of the command line `Client.Bdat` writes, as `handleBDAT` reads them. -/
theorem fields_bdatArgs (n : Nat) (last : Bool) :
    fields (decimal n ++ if last then ascii " LAST" else []) = decimal n :: if last then [ascii "LAST"] else [] := by
  cases last
  · rw [if_neg Bool.false_ne_true, List.append_nil, fields_word (word_decimal n) (decimal_ne_nil n),
      if_neg Bool.false_ne_true]
  · rw [if_pos rfl, if_pos rfl, show ascii " LAST" = Byte.sp :: ascii "LAST" from rfl,
      fields_words (word_decimal n) (by decide) (decimal_ne_nil n)]
    rfl

theorem bdatCommand_eq (q : Bytes) (last : Bool) :
    bdatCommand q last = ascii "BDAT " ++ (decimal q.length ++ if last then ascii " LAST" else []) := by
  rw [bdatCommand, formatInt_natCast, List.append_assoc]

/-- The command line `Client.Bdat` writes is a line `ReadLine` reads whole. -/
theorem bdatCommand_line (q : Bytes) (last : Bool) (hq : (q.length : Int) ≤ maxAlloc) :
    Byte.lf ∉ bdatCommand q last ∧ Byte.nul ∉ bdatCommand q last ∧
      (bdatCommand q last).length + 2 ≤ maxCommandLineLen := by
  have hlen := length_decimal_le 18 q.length (lt_of_le_of_lt (show q.length ≤ 281474976710656 by
    simp only [maxAlloc] at hq; omega) (by decide))
  have hd : ∀ b ∈ decimal q.length, b ≠ Byte.lf ∧ b ≠ Byte.nul := fun b hb => by
    obtain ⟨k, hk, rfl⟩ := mem_decimal hb
    exact ⟨(digit_facts k hk).2.2.1, (digit_word k hk).2.2⟩
  rw [bdatCommand_eq]
  refine ⟨?_, ?_, ?_⟩
  · simp only [List.mem_append, not_or]
    exact ⟨by decide, fun h => (hd _ h).1 rfl, by cases last <;> decide⟩
  · simp only [List.mem_append, not_or]
    exact ⟨by decide, fun h => (hd _ h).2 rfl, by cases last <;> decide⟩
  · simp only [List.length_append, maxCommandLineLen]
    cases last <;> simp only [show (ascii "BDAT ").length = 5 from rfl, if_true, if_false, Bool.false_eq_true,
      show (ascii " LAST").length = 5 from rfl, List.length_nil] <;> omega

/-! ## The server's turns -/

/-- `handleBDAT` on the arguments `Client.Bdat` writes, in `stateRcpt`, with the chunk in the reader: the chunk joins
the buffer; the last one ends the message, any other is answered with its size. -/
theorem handleBDAT_chunk (srv : Server) (o : Outcomes) (w : World) (q R : Bytes) (e : ReadErr) (last : Bool)
    (hst : w.s.state = .rcpt) (hq : (q.length : Int) ≤ maxAlloc) (hw : w.r = ⟨q ++ R, e⟩) :
    handleBDAT srv o (decimal q.length ++ if last then ascii " LAST" else []) w =
      (let w := { w with r := ⟨R, e⟩ }.setS fun s => { s with bdatBuffer := s.bdatBuffer ++ q }
       if last then
         finishMessage srv (w.invoke srv.dataHandler (.data w.s.reversePath w.s.forwardPaths w.s.bdatBuffer) o.data)
       else w.reply replyOK enhancedCodeOK (formatInt q.length ++ ascii " bytes received"), .next) := by
  have hshort : ¬(0 < (q.length : Int) ∧ ((q ++ R).length : Int) < q.length) := by
    rw [List.length_append]; omega
  unfold handleBDAT
  rw [if_neg (by simp [hst, SessionState.rank]), fields_bdatArgs]
  dsimp only
  rw [sscanInt_decimal _ (by simp only [maxAlloc] at hq; omega)]
  dsimp only
  rw [if_neg (by omega), if_neg (by omega), hw]
  dsimp only
  rw [if_neg hshort, Int.toNat_ofNat, List.drop_left, List.take_left]
  cases last <;> rfl

/-- The turn that reads what `Client.Bdat` wrote: `handleBDAT` on its arguments, with the chunk in the reader. -/
theorem step_bdat (srv : Server) (o : Outcomes) (w : World) (q R : Bytes) (e : ReadErr) (last : Bool)
    (hsd : o.shutdown = false) (hq : (q.length : Int) ≤ maxAlloc)
    (hw : w.r = ⟨bdatCommand q last ++ crlf ++ q ++ R, e⟩) :
    step srv o w =
      handleBDAT srv o (decimal q.length ++ if last then ascii " LAST" else []) { w with r := ⟨q ++ R, e⟩ } := by
  obtain ⟨hlf, hnul, hlen⟩ := bdatCommand_line q last hq
  have hl : readLine maxCommandLineLen w.r = (.ok (bdatCommand q last), ⟨q ++ R, e⟩) := by
    rw [hw, List.append_assoc]
    exact readLine_line _ _ _ _ hlf hlen (by decide)
  rw [step, if_neg (by simp [hsd]), hl]
  dsimp only
  rw [command, if_neg hnul, bdatCommand_eq]
  rfl

/-- The turn that reads a chunk `Client.Bdat` wrote, not the last, in `stateRcpt`: the chunk joins the buffer, and the
turn answers with its size. -/
theorem step_chunk (srv : Server) (o : Outcomes) (w : World) (q R : Bytes) (e : ReadErr) (hst : w.s.state = .rcpt)
    (hsd : o.shutdown = false) (hq : (q.length : Int) ≤ maxAlloc)
    (hw : w.r = ⟨bdatCommand q false ++ crlf ++ q ++ R, e⟩) :
    step srv o w = ({ w with
      s := { w.s with bdatBuffer := w.s.bdatBuffer ++ q }
      r := ⟨R, e⟩
      out := w.out ++ writeReplies [chunkReply q.length] }, .next) := by
  rw [step_bdat srv o w q R e false hsd hq hw,
    handleBDAT_chunk srv o { w with r := ⟨q ++ R, e⟩ } q R e false hst hq rfl]
  simp [World.reply, World.setS, chunkReply, lineReply]

/-- The turn that reads the last chunk `Client.Bdat` wrote, in `stateRcpt`: `OnData`, if it is set, with the whole
buffer, the reply that ends the message, and the reader right after the chunk. -/
theorem step_lastChunk (srv : Server) (o : Outcomes) (w : World) (p R : Bytes) (e : ReadErr) (hst : w.s.state = .rcpt)
    (hsd : o.shutdown = false) (hp : (p.length : Int) ≤ maxAlloc)
    (hw : w.r = ⟨bdatCommand p true ++ crlf ++ p ++ R, e⟩) :
    (step srv o w).1.out = w.out ++ writeReplies [messageReply (if srv.dataHandler then o.data else none)] ∧
    (step srv o w).1.calls = w.calls ++
      (if srv.dataHandler then [.data w.s.reversePath w.s.forwardPaths (w.s.bdatBuffer ++ p)] else []) ++
      (if srv.resetHandler then [.reset] else []) ∧
    (step srv o w).1.r = ⟨R, e⟩ ∧ (step srv o w).2 = .next := by
  rw [step_bdat srv o w p R e true hsd hp hw,
    handleBDAT_chunk srv o { w with r := ⟨p ++ R, e⟩ } p R e true hst hp rfl]
  exact ⟨(finishMessage_invoke ..).1, (finishMessage_invoke ..).2.1, (finishMessage_invoke ..).2.2, rfl⟩

/-- The turns that read chunks `Client.Bdat` wrote, none of them the last, in `stateRcpt`: each chunk joins the buffer
and is answered with its size. -/
theorem run_chunks (srv : Server) (R : Bytes) (e : ReadErr) :
    ∀ (ps : List Bytes) (os : List Outcomes) (w : World), os.length = ps.length →
      (∀ o ∈ os, o.shutdown = false) →
      (∀ q ∈ ps, (q.length : Int) ≤ maxAlloc) → w.s.state = .rcpt →
      w.r = ⟨(ps.map fun q => bdatCommand q false ++ crlf ++ q).flatten ++ R, e⟩ →
      run srv os w = ({ w with
        s := { w.s with bdatBuffer := w.s.bdatBuffer ++ ps.flatten }
        r := ⟨R, e⟩
        out := w.out ++ writeReplies (ps.map fun q => chunkReply q.length) }, .next)
  | [], [], w, _, _, _, _, hw => by
    obtain ⟨s, r, out, calls⟩ := w
    simp only [List.map_nil, List.flatten_nil, List.nil_append] at hw
    simp [run, hw]
  | q :: ps, o :: os, w, hl, hsd, hq, hst, hw => by
    have hrest : w.r = ⟨bdatCommand q false ++ crlf ++ q ++
        ((ps.map fun q => bdatCommand q false ++ crlf ++ q).flatten ++ R), e⟩ := by
      rw [hw]; simp only [List.map_cons, List.flatten_cons, List.append_assoc]
    rw [run, step_chunk srv o w q _ e hst (hsd o (.head _)) (hq q (.head _)) hrest]
    refine (run_chunks srv R e ps os _ (by simpa using hl) (fun o h => hsd o (.tail _ h)) (fun q h => hq q (.tail _ h))
      ?_ rfl).trans ?_
    · exact hst
    · simp [List.append_assoc]
  | [], _ :: _, _, hl, _, _, _, _ => absurd hl (by simp)
  | _ :: _, [], _, hl, _, _, _, _ => absurd hl (by simp)

theorem run_append_of_next (srv : Server) (os' : List Outcomes) :
    ∀ (os : List Outcomes) (w w' : World), run srv os w = (w', .next) → run srv (os ++ os') w = run srv os' w'
  | [], w, w', h => by
    rw [run] at h
    cases h
    rfl
  | o :: os, w, w', h => by
    rw [List.cons_append, run]
    rw [run] at h
    generalize step srv o w = p at h ⊢
    rcases p with ⟨w1, _ | _ | _⟩ <;> dsimp only at h ⊢
    · exact run_append_of_next srv os' os w1 w' h
    all_goals cases h

/-! ## The client -/

/-- The reply to a chunk is one `ReadReply` reads back. -/
theorem chunkReply_readable (n : Nat) (h : (n : Int) ≤ maxAlloc) : (chunkReply n).Readable := by
  have hlen := length_formatInt_le n (by simp only [maxAlloc] at h; omega)
  refine (final_ok_line (by decide) ?_ ?_).1
  · simp only [List.mem_append, not_or]; exact ⟨lf_not_mem_formatInt _, by decide⟩
  · simp only [List.length_append, show (ascii " bytes received").length = 15 from rfl]; omega

/-- `Client.Bdat` against a readable reply: it writes its command line and the chunk, reads the reply, and returns `nil`
exactly when it is `250`. -/
theorem bdat_client (q : Bytes) (last : Bool) (c : Conn) (f : Reply) (later : Bytes) (hf : f.Readable)
    (hc : c.r.bytes = writeReplies [f] ++ later) :
    Client.bdat q last c = (if f.code ≠ replyOK then some (.reply (replyToError f)) else none,
      ⟨⟨later, c.r.err⟩, c.out ++ bdatCommand q last ++ crlf ++ q⟩) := by
  have h1 := readReply_readable hf later c.r.err
  rw [← hc] at h1
  rw [Client.bdat]
  dsimp only [Conn.writeLine]
  rw [h1]

theorem sendChunks_replies (p : Bytes) (f : Reply) (later : Bytes) (hf : f.Readable) :
    ∀ (ps : List Bytes) (c : Conn), (∀ q ∈ ps, (q.length : Int) ≤ maxAlloc) →
      c.r.bytes = writeReplies ((ps.map fun q => chunkReply q.length) ++ [f]) ++ later →
      sendChunks ps p c = (if f.code ≠ replyOK then some (.reply (replyToError f)) else none,
        ⟨⟨later, c.r.err⟩, c.out ++ bdatWrites ps p⟩)
  | [], c, _, hc => by
    rw [sendChunks, bdat_client p true c f later hf (by simpa using hc)]
    simp [bdatWrites, List.append_assoc]
  | q :: ps, c, hq, hc => by
    rw [sendChunks, bdat_client q false c _ (writeReplies ((ps.map fun q => chunkReply q.length) ++ [f]) ++ later)
      (chunkReply_readable _ (hq q (.head _)))
      (by rw [hc, List.map_cons, List.cons_append, writeReplies_cons, writeReplies_cons, writeReplies_nil,
        List.append_nil, List.append_assoc]),
      if_neg (show ¬((chunkReply q.length).code ≠ replyOK) from not_not.2 rfl)]
    dsimp only
    rw [sendChunks_replies p f later hf ps _ (fun q h => hq q (.tail _ h)) rfl]
    simp [bdatWrites, List.append_assoc]

end BdatAux

open BdatAux ClientAux RepliesAux

/-- A message sent in chunks with `Client.Bdat`, against the turns of the server that read what it writes, from
`stateRcpt`, whatever `OnData` returns. The server answers each chunk but the last with its size, hands `OnData` the
buffer it had with the chunks joined as they are, and ends the message. `Client.Bdat` reads one reply for each chunk,
leaves nothing of the server's unread, and the message is sent without error exactly when the last reply is `250`. -/
theorem bdat_delivers_chunks (srv : Server) (os : List Outcomes) (o : Outcomes) (w : World) (ps : List Bytes)
    (p after later : Bytes) (e : ReadErr) (c : Conn) (hst : w.s.state = .rcpt) (hlen : os.length = ps.length)
    (hsd : ∀ o' ∈ o :: os, o'.shutdown = false) (hq : ∀ q ∈ p :: ps, (q.length : Int) ≤ maxAlloc)
    (hd : ∀ err, o.data = some err → err.Sendable) (hw : w.r = ⟨bdatWrites ps p ++ after, e⟩)
    (hc : c.r.bytes = writeReplies ((ps.map fun q => chunkReply q.length) ++
      [messageReply (if srv.dataHandler then o.data else none)]) ++ later) :
    (run srv (os ++ [o]) w).1.out = w.out ++ writeReplies ((ps.map fun q => chunkReply q.length) ++
      [messageReply (if srv.dataHandler then o.data else none)]) ∧
    (run srv (os ++ [o]) w).1.calls = w.calls ++
      (if srv.dataHandler then [.data w.s.reversePath w.s.forwardPaths (w.s.bdatBuffer ++ ps.flatten ++ p)] else []) ++
      (if srv.resetHandler then [.reset] else []) ∧
    (run srv (os ++ [o]) w).1.r = ⟨after, e⟩ ∧ (run srv (os ++ [o]) w).2 = .next ∧
    (sendChunks ps p c).2 = ⟨⟨later, c.r.err⟩, c.out ++ bdatWrites ps p⟩ ∧
    ((sendChunks ps p c).1 = none ↔ (messageReply (if srv.dataHandler then o.data else none)).code = replyOK) := by
  have hsend := sendChunks_replies p _ later (messageReply_ite_readable srv.dataHandler hd) ps c
    (fun q h => hq q (.tail _ h)) hc
  have hchunks := run_chunks srv (bdatCommand p true ++ crlf ++ p ++ after) e ps os w hlen
    (fun o' h => hsd o' (.tail _ h)) (fun q h => hq q (.tail _ h)) hst (by rw [hw, bdatWrites, List.append_assoc])
  set W : World := { w with
    s := { w.s with bdatBuffer := w.s.bdatBuffer ++ ps.flatten }
    r := ⟨bdatCommand p true ++ crlf ++ p ++ after, e⟩
    out := w.out ++ writeReplies (ps.map fun q => chunkReply q.length) }
  obtain ⟨h1, h2, h3, h4⟩ := step_lastChunk srv o W p after e hst (hsd o (.head _)) (hq p (.head _)) rfl
  rw [run_append_of_next srv [o] os w W hchunks, run]
  generalize step srv o W = t at h1 h2 h3 h4
  obtain ⟨w', fl⟩ := t
  cases h4
  dsimp only [run] at h1 h2 h3 ⊢
  refine ⟨?_, ?_, h3, rfl, by rw [hsend], ?_⟩
  · rw [h1, writeReplies_append, List.append_assoc]
  · rw [h2, List.append_assoc]
  · rw [hsend]
    by_cases hok : (messageReply (if srv.dataHandler then o.data else none)).code = replyOK <;> simp [hok]

/-- The chunk `ab`, then the last chunk `c`, into an empty buffer; `OnData` accepts. It receives `abc`, and the message
is sent without error. -/
theorem bdat_delivers_chunks_abc :
    (run { newServer with dataHandler := true } [{}, {}]
        ⟨{ newSession with state := .rcpt }, ⟨bdatWrites [ascii "ab"] (ascii "c"), .eof⟩, [], []⟩).1.calls =
      [.data {} [] (ascii "abc")] ∧
    (sendChunks [ascii "ab"] (ascii "c") ⟨⟨writeReplies [chunkReply 2, messageReply none], .eof⟩, []⟩).1 =
      none :=
  have h := bdat_delivers_chunks { newServer with dataHandler := true } [{}] {}
    ⟨{ newSession with state := .rcpt }, ⟨bdatWrites [ascii "ab"] (ascii "c"), .eof⟩, [], []⟩ [ascii "ab"]
    (ascii "c") [] [] .eof ⟨⟨writeReplies [chunkReply 2, messageReply none], .eof⟩, []⟩ rfl rfl (by simp)
    (by decide) nofun (by simp) (by decide)
  ⟨h.2.1.trans (by decide), h.2.2.2.2.2.2 rfl⟩

end Smtp
