import Smtp.Strconv
import Smtp.Strings

/-!
# Replies

The package `smtp`'s reply codes, enhanced status codes and `SMTPError` (`part_000`, `enhancedcode.go`, `part_006`):
the codes the server answers with, and `SMTPError.WireLines`, which writes an error as reply lines, one for each line of
its message.
-/

namespace Smtp

/-! ## Reply codes -/

/-- `ReplyServiceReady`. -/
def replyServiceReady : Int := 220
/-- `ReplyServiceClosing`. -/
def replyServiceClosing : Int := 221
/-- `ReplyAuthOK`. -/
def replyAuthOK : Int := 235
/-- `ReplyOK`. -/
def replyOK : Int := 250
/-- `ReplyCannotVRFY`. -/
def replyCannotVRFY : Int := 252
/-- `ReplyAuthContinue`. -/
def replyAuthContinue : Int := 334
/-- `ReplyStartMailInput`. -/
def replyStartMailInput : Int := 354
/-- `ReplyServiceNotAvailable`. -/
def replyServiceNotAvailable : Int := 421
/-- `ReplyLocalError`. -/
def replyLocalError : Int := 451
/-- `ReplyInsufficientStorage`. -/
def replyInsufficientStorage : Int := 452
/-- `ReplySyntaxError`. -/
def replySyntaxError : Int := 500
/-- `ReplySyntaxParamError`. -/
def replySyntaxParamError : Int := 501
/-- `ReplyCommandNotImpl`. -/
def replyCommandNotImpl : Int := 502
/-- `ReplyBadSequence`. -/
def replyBadSequence : Int := 503
/-- `ReplyAuthRequired`. -/
def replyAuthRequired : Int := 530
/-- `ReplyAuthFailed`. -/
def replyAuthFailed : Int := 535

/-! ## Enhanced status codes -/

/-- `EnhancedCode`: `Class.Subject.Detail`. -/
structure EnhancedCode where
  cls : Int
  subject : Int
  detail : Int
  deriving DecidableEq, Repr

namespace EnhancedCode

/-- `EnhancedCode.String`: `"%d.%d.%d"`. -/
def string (e : EnhancedCode) : Bytes :=
  formatInt e.cls ++ [Byte.dot] ++ formatInt e.subject ++ [Byte.dot] ++ formatInt e.detail

/-- `EnhancedCode.IsZero`. -/
def isZero (e : EnhancedCode) : Bool := e.cls = 0 && e.subject = 0 && e.detail = 0

/-- `EnhancedCode{}`. -/
def zero : EnhancedCode := ⟨0, 0, 0⟩

end EnhancedCode

/-- `EnhancedCodeOK`. -/
def enhancedCodeOK : EnhancedCode := ⟨2, 0, 0⟩
/-- `EnhancedCodeOtherAddress`. -/
def enhancedCodeOtherAddress : EnhancedCode := ⟨2, 1, 0⟩
/-- `EnhancedCodeDestValid`. -/
def enhancedCodeDestValid : EnhancedCode := ⟨2, 1, 5⟩
/-- `EnhancedCodeBadDestSyntax`. -/
def enhancedCodeBadDestSyntax : EnhancedCode := ⟨5, 1, 3⟩
/-- `EnhancedCodeBadSenderSyntax`. -/
def enhancedCodeBadSenderSyntax : EnhancedCode := ⟨5, 1, 7⟩
/-- `EnhancedCodeOtherNetwork`. -/
def enhancedCodeOtherNetwork : EnhancedCode := ⟨4, 4, 0⟩
/-- `EnhancedCodeInvalidCommand`. -/
def enhancedCodeInvalidCommand : EnhancedCode := ⟨5, 5, 1⟩
/-- `EnhancedCodeSyntaxError`. -/
def enhancedCodeSyntaxError : EnhancedCode := ⟨5, 5, 2⟩
/-- `EnhancedCodeTooManyRecipients`. -/
def enhancedCodeTooManyRecipients : EnhancedCode := ⟨5, 5, 3⟩
/-- `EnhancedCodeInvalidParams`. -/
def enhancedCodeInvalidParams : EnhancedCode := ⟨5, 5, 4⟩
/-- `EnhancedCodeAuthRequired`. -/
def enhancedCodeAuthRequired : EnhancedCode := ⟨5, 7, 0⟩
/-- `EnhancedCodeAuthCredentials`. -/
def enhancedCodeAuthCredentials : EnhancedCode := ⟨5, 7, 8⟩

/-! ## `SMTPError` -/

/-- `SMTPError`. -/
structure SMTPError where
  code : Int
  enhancedCode : EnhancedCode
  message : Bytes
  deriving DecidableEq, Repr

/-- The text of a reply line that carries the enhanced code `e`: `"<e> <text>"`, or the text alone when `e` is zero. -/
def enhancedText (e : EnhancedCode) (text : Bytes) : Bytes :=
  if e.isZero then text else e.string ++ [Byte.sp] ++ text

/-- The lines of `WireLines` from the `i`-th on: the code, `-` before the last line and ` ` on it, the enhanced code,
the text, `\r\n`. -/
def wireLinesOf (code : Int) (e : EnhancedCode) : List Bytes → Bytes
  | [] => []
  | [l] => formatInt code ++ [Byte.sp] ++ enhancedText e l ++ crlf
  | l :: ls => formatInt code ++ [Byte.dash] ++ enhancedText e l ++ crlf ++ wireLinesOf code e ls

/-- `SMTPError.WireLines`: the message, `"Error"` when it is empty, split at `\n`, one reply line each. -/
def SMTPError.wireLines (err : SMTPError) : Bytes :=
  wireLinesOf err.code err.enhancedCode (split Byte.lf (if err.message = [] then ascii "Error" else err.message))

end Smtp
