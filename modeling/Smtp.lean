import Smtp.Bytes
import Smtp.Strconv
import Smtp.Strings
import Smtp.Base64
import Smtp.Reply
import Smtp.Address
import Smtp.Textproto.Dot
import Smtp.Textproto.Conn
import Smtp.Server.Session
import Smtp.Server.Transaction
import Smtp.Client
import Smtp.Lemmas.Strings
import Smtp.Lemmas.Dot
import Smtp.Lemmas.Conn
import Smtp.Lemmas.Session
import Smtp.Theorems.Dot
import Smtp.Theorems.Reply
import Smtp.Theorems.Session
import Smtp.Lemmas.Replies
import Smtp.Theorems.Replies
import Smtp.Theorems.Client
import Smtp.Theorems.Bdat
import Smtp.Lemmas.Envelope
import Smtp.Theorems.Envelope
import Smtp.Lemmas.Commands
import Smtp.Theorems.Commands
import Smtp.Sasl
import Smtp.Lemmas.Base64
import Smtp.Theorems.Auth
import Smtp.Theorems.Address
import Smtp.Theorems.Rejections
import Smtp.Theorems.Line
import Smtp.Theorems.SendMail
import Smtp.Theorems.Extensions
import Smtp.Theorems.Submission
import Smtp.Theorems.Connection
import Smtp.Theorems.Progress
