import Smtp.Lemmas.Replies

/-!
# Helpers for the command loop: a turn over one command line

A turn of the command loop that reads a line within `MaxCommandLineLen` hands it to `command`
(`step_line`); `command` splits it at its first space and upper-cases the verb (`command_verb`, `command_word`, and
`step_verb` for the turn and the split together); `dispatch` then runs the handler of the case the verb selects.
-/

namespace Smtp
namespace CommandsAux
open ConnAux StringsAux

variable (srv : Server) (o : Outcomes)

/-- The turn that reads a command line within the limit, followed by `\r\n`, runs `command` on it. -/
theorem step_line (w : World) (line after : Bytes) (e : ReadErr) (hsd : o.shutdown = false) (hl : Byte.lf ∉ line)
    (hlen : line.length ≤ 510) (hw : w.r = ⟨line ++ crlf ++ after, e⟩) :
    step srv o w = command srv o line { w with r := ⟨after, e⟩ } := by
  rw [step, if_neg (by simp [hsd]), hw,
    readLine_line _ _ _ _ hl (by simp only [maxCommandLineLen]; omega) (by decide)]

/-- A command line with arguments: the verb is what comes before the first space, upper-cased. -/
theorem command_verb (w : World) (kw args : Bytes) (hkw : Byte.sp ∉ kw) (hnul : Byte.nul ∉ kw ++ Byte.sp :: args) :
    command srv o (kw ++ Byte.sp :: args) w = dispatch srv o (toUpper kw) args w := by
  rw [command, if_neg hnul, cut_append _ _ _ hkw]

/-- A turn over a command line with arguments runs the handler of its verb, upper-cased, on the arguments. -/
theorem step_verb (w : World) (kw args after : Bytes) (e : ReadErr) (hsd : o.shutdown = false) (hkw : Byte.sp ∉ kw)
    (hl : Byte.lf ∉ kw ++ Byte.sp :: args) (hn : Byte.nul ∉ kw ++ Byte.sp :: args)
    (hlen : (kw ++ Byte.sp :: args).length ≤ 510) (hw : w.r = ⟨kw ++ Byte.sp :: args ++ crlf ++ after, e⟩) :
    step srv o w = dispatch srv o (toUpper kw) args { w with r := ⟨after, e⟩ } := by
  rw [step_line srv o w _ after e hsd hl hlen hw, command_verb srv o _ _ _ hkw hn]

/-- A command line of one word: the verb, upper-cased, with no arguments. -/
theorem command_word (w : World) (kw : Bytes) (hkw : Byte.sp ∉ kw) (hnul : Byte.nul ∉ kw) :
    command srv o kw w = dispatch srv o (toUpper kw) [] w := by
  rw [command, if_neg hnul, cut_of_not_mem _ _ hkw]

theorem dispatch_rcpt (w : World) (verb args : Bytes) (hv : Verb.ofKeyword verb = some .rcpt) :
    dispatch srv o verb args w = (handleRCPT srv o args w, .next) := by
  rw [dispatch, hv]

end CommandsAux
end Smtp
