import Smtp.Lemmas.Replies

/-!
# Every turn answers with replies a client reads

Each turn of the command loop writes replies that `ReadReply` reads back one by one, consuming exactly the bytes
written: the intermediate replies (`354` after `DATA`, `334` during `AUTH`), then one final reply, then, when the
turn closes the connection at the limit of invalid commands, a `421` (`step_writes_readable_replies`). The final
reply is missing only in a turn that reads no command line (at shutdown, or when `ReadLine` fails), which writes
nothing; in `AUTH`, when a line of its exchange fails to read; and in `BDAT`, when it crashes on a size too large to
allocate or reads the connection to its end on a chunk cut short. Over a whole connection the server's bytes are
replies a client reads back in order (`handleConn_writes_readable_replies`).

This holds when what the handlers answer fits a reply line: `session.reply` writes `"<enhanced> <msg>"` as a single
line whatever the message holds, and the client refuses a line beyond `MaxReplyLineLen` (`vrfy_long_result_unreadable`).
-/

namespace Smtp
open RepliesAux ConnAux

namespace RepliesAux

theorem length_le_enhancedText (e : EnhancedCode) (m : Bytes) : m.length ≤ (enhancedText e m).length := by
  unfold enhancedText; split
  · exact le_refl _
  · simp only [List.length_append, List.length_singleton]; omega

/-- The greeting, or the refusal of `OnConnect`, is one readable reply. -/
theorem greet_readable (srv : Server) (onConnect : Option HandlerErr) (r : BufReader) (hs : srv.Sendable)
    (hc : ∀ e, onConnect = some e → e.Sendable) :
    ∃ rs : List Reply, (greet srv onConnect r).1.out = writeReplies rs ∧ ∀ x ∈ rs, x.Readable := by
  have hsend : ∀ e, (if srv.connHandler then onConnect else none) = some e → e.Sendable := fun e he => by
    split at he
    · exact hc e he
    · nomatch he
  unfold greet
  split
  · rename_i e he
    have hse : e.Sendable := hsend (.smtp e) he
    refine ⟨[⟨e.code, [e.message]⟩], by simp, ?_⟩
    simp only [List.mem_singleton, forall_eq]
    refine ⟨hse.code.1, hse.code.2, List.cons_ne_nil _ _, ?_⟩
    simp only [List.mem_singleton, forall_eq]
    exact ⟨hse.message, (length_le_enhancedText _ _).trans hse.length⟩
  · exact ⟨[⟨replyServiceNotAvailable, [ascii "Connection refused"]⟩], by simp, by decide⟩
  · refine ⟨[⟨replyServiceReady, [srv.hostname ++ ascii " ESMTP ready"]⟩], by simp, ?_⟩
    simp only [List.mem_singleton, forall_eq]
    refine ⟨(by decide : (100 : Int) ≤ replyServiceReady), (by decide : replyServiceReady ≤ 999),
      List.cons_ne_nil _ _, ?_⟩
    simp only [List.mem_singleton, forall_eq, List.mem_append, not_or, List.length_append,
      show (ascii " ESMTP ready").length = 12 from rfl]
    exact ⟨⟨hs.hostname, by decide⟩, by have := hs.hostnameLength; omega⟩

/-- Every turn of the loop adds readable replies to what the session wrote. -/
theorem run_readable (srv : Server) (hs : srv.Sendable) :
    ∀ (os : List Outcomes) (w : World), (∀ o ∈ os, o.Sendable) →
      (∃ rs : List Reply, w.out = writeReplies rs ∧ ∀ x ∈ rs, x.Readable) →
      ∃ rs : List Reply, (run srv os w).1.out = writeReplies rs ∧ ∀ x ∈ rs, x.Readable
  | [], _, _, h => h
  | o :: os, w, ho, ⟨rs, hw, hr⟩ => by
    obtain ⟨t, h1, h2, -⟩ := step_turnOk srv o w hs (ho o (List.mem_cons_self _ _))
    have hstep : ∃ rs : List Reply, (step srv o w).1.out = writeReplies rs ∧ ∀ x ∈ rs, x.Readable :=
      ⟨rs ++ t.replies, by rw [h1, hw, writeReplies_append], fun x hx => (List.mem_append.1 hx).elim (hr x)
        (h2.readable x)⟩
    unfold run
    rcases hst : step srv o w with ⟨w', _ | _ | _⟩ <;> rw [hst] at hstep
    · exact run_readable srv hs os w' (fun o' h' => ho o' (List.mem_cons_of_mem _ h')) hstep
    · exact hstep
    · exact hstep

end RepliesAux

/-- Over a whole connection, all the server writes, from the greeting to the last turn, is a sequence of replies that a
client reads back one by one, consuming exactly the bytes written. -/
theorem handleConn_writes_readable_replies (srv : Server) (onConnect : Option HandlerErr) (os : List Outcomes)
    (r : BufReader) (hs : srv.Sendable) (hc : ∀ e, onConnect = some e → e.Sendable) (ho : ∀ o ∈ os, o.Sendable) :
    ∃ rs : List Reply, (handleConn srv onConnect os r).1.out = writeReplies rs ∧
      ∀ R e, readReplies rs.length ⟨writeReplies rs ++ R, e⟩ = (.ok rs, ⟨R, e⟩) := by
  have hg := greet_readable srv onConnect r hs hc
  have hrun : ∃ rs : List Reply, (handleConn srv onConnect os r).1.out = writeReplies rs ∧ ∀ x ∈ rs, x.Readable := by
    unfold handleConn
    rcases hgr : greet srv onConnect r with ⟨w, _ | _ | _⟩ <;> rw [hgr] at hg
    · exact run_readable srv hs os w ho hg
    · exact hg
    · exact hg
  obtain ⟨rs, h1, h2⟩ := hrun
  exact ⟨rs, h1, fun R e => readReplies_writeReplies R e rs h2⟩

/-- The default server greets, then answers `EHLO x` and `QUIT` pipelined in one read. -/
theorem handleConn_writes_readable_replies_pipelined :
    newServer.Sendable ∧ (∀ e, (none : Option HandlerErr) = some e → e.Sendable) ∧
    (∀ o ∈ [({} : Outcomes), {}], o.Sendable) ∧
    ∃ rs : List Reply, (handleConn newServer none [{}, {}] ⟨ascii "EHLO x\r\nQUIT\r\n", .eof⟩).1.out =
        writeReplies rs ∧ ∀ R e, readReplies rs.length ⟨writeReplies rs ++ R, e⟩ = (.ok rs, ⟨R, e⟩) :=
  have hs : newServer.Sendable := ⟨by decide, by decide, by decide⟩
  have ho : ∀ o ∈ [({} : Outcomes), {}], o.Sendable := by
    simp only [List.mem_cons, List.mem_singleton, List.not_mem_nil, or_false, forall_eq_or_imp, forall_eq, and_self]
    exact ⟨nofun, nofun, nofun, nofun, nofun, nofun, fun _ h => by cases h; decide, by decide⟩
  ⟨hs, nofun, ho, handleConn_writes_readable_replies _ _ _ _ hs nofun ho⟩

end Smtp
