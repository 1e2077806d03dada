import Smtp.Theorems.Commands
import Smtp.Lemmas.Envelope

/-!
# Addresses: the paths the session reads from the client's lines

`Client.Mail` and `Client.Rcpt` write the address between `<` and `>`, and `handleMAIL` and `handleRCPT` take as the
path the text after `FROM:` or `TO:` up to the first space, trimmed. Take an address that `ParseMailbox` accepts and
that has no space, on a line that is one command line. For it, the session calls `OnMail` with that mailbox as the
reverse path and `OnRcpt` with it as the forward path. `handleMAIL` passes the null path exactly when the trimmed path
is `<>` or empty (`envelope_paths_agree`). A quoted local part with a space in it is accepted by `ParseMailbox`, but
the session refuses the path; `MAIL FROM:` with no path, or with a space before it, is the null path
(`envelope_path_quoted_space_refused`).

The grammar of an address is written here in the specification's words (`Grammar`): a local part, a dot-atom or a
quoted string, then `@`, then a DNS name or an address literal. `ParseMailbox` accepts exactly its addresses whose
address literal has no `@` and at most 255 bytes, and returns their two parts (`parseMailbox_grammar`). The proof
checks each part on its own: the dot-atom and the escape-skipping loop of the quoted string, then the labels of the
DNS name through `strings.Split`. An address literal with an `@` in it is split at that `@` and refused, and so is one
over 255 bytes (`parseMailbox_literal_split`).
-/

namespace Smtp

/-! ## The address grammar, in the words of the specification -/

namespace Grammar

/-- A dot-atom: `atext` characters (as `isAtext` lists them) and dots, with no leading, trailing or consecutive dot. -/
def DotAtom (l : Bytes) : Prop :=
  l ≠ [] ∧ (∀ b ∈ l, b = Byte.dot ∨ isAtext b.toNat) ∧ l.head? ≠ some Byte.dot ∧ l.getLast? ≠ some Byte.dot ∧
    ¬[Byte.dot, Byte.dot] <:+: l

/-- The content of a quoted string: a sequence of bytes other than `"` and `\`, and of pairs `\x`. -/
inductive QuotedText : Bytes → Prop
  | nil : QuotedText []
  | byte {c : UInt8} {q : Bytes} : c ≠ 34 → c ≠ 92 → QuotedText q → QuotedText (c :: q)
  | escape (x : UInt8) {q : Bytes} : QuotedText q → QuotedText (92 :: x :: q)

/-- A local part: at most 64 bytes, a dot-atom or a quoted string. -/
def LocalPart (l : Bytes) : Prop := l.length ≤ 64 ∧ (DotAtom l ∨ ∃ q, l = 34 :: (q ++ [34]) ∧ QuotedText q)

/-- A character of a DNS label: a letter, a digit, `-`, or a code point above 127. -/
def LabelChar (r : Nat) : Prop := (97 ≤ r ∧ r ≤ 122) ∨ (65 ≤ r ∧ r ≤ 90) ∨ (48 ≤ r ∧ r ≤ 57) ∨ r = 45 ∨ 127 < r

instance : DecidablePred LabelChar := fun _ => inferInstanceAs (Decidable (_ ∨ _))

/-- A DNS label: 1 to 63 bytes of UTF-8 whose code points are label characters, not starting or ending with `-`. -/
def Label (l : Bytes) : Prop :=
  l ≠ [] ∧ l.length ≤ 63 ∧ validString l ∧ (∀ p ∈ runes l, LabelChar p.1) ∧ l.head? ≠ some Byte.dash ∧
    l.getLast? ≠ some Byte.dash

/-- A DNS name: labels separated by `.`, at most 255 bytes in total. -/
def DNSName (d : Bytes) : Prop :=
  d.length ≤ 255 ∧ ∃ labels, labels ≠ [] ∧ (∀ l ∈ labels, Label l) ∧ d = join Byte.dot labels

/-- A bracketed address literal `[...]`. -/
def AddressLiteral (d : Bytes) : Prop := ∃ t, d = 91 :: (t ++ [93])

end Grammar

namespace AddressAux
open ConnAux StringsAux ClientAux EnvelopeAux CommandsAux Grammar

variable (srv : Server) (o : Outcomes)

/-! ## The parameters after the path -/

/-- Parameters each start with a space, so a list of them is empty or starts with one. -/
theorem params_head {p q : Bytes} (hp : p = [] ∨ p.head? = some Byte.sp) (hq : q = [] ∨ q.head? = some Byte.sp) :
    p ++ q = [] ∨ (p ++ q).head? = some Byte.sp := by
  rcases p with _ | ⟨x, p⟩
  · simpa using hq
  · exact .inr (by simpa using hp)

theorem param_head (c : Prop) [Decidable c] (t : Bytes) :
    (if c then Byte.sp :: t else []) = [] ∨ (if c then Byte.sp :: t else []).head? = some Byte.sp := by
  split_ifs <;> simp

theorem mailParams_head (mo : MailOptions) : mailParams mo = [] ∨ (mailParams mo).head? = some Byte.sp := by
  unfold mailParams
  exact params_head (params_head (params_head (params_head (param_head _ _) (param_head _ _)) (param_head _ _))
    (param_head _ _)) (param_head _ _)

theorem rcptParams_head (ro : RcptOptions) : rcptParams ro = [] ∨ (rcptParams ro).head? = some Byte.sp := by
  unfold rcptParams
  exact params_head (param_head _ _) (param_head _ _)

/-! ## The path the session reads -/

theorem parseMailbox_ne_nil {a : Bytes} {m : Mailbox} (h : parseMailbox a = some m) : a ≠ [] := by
  rintro rfl; simp [parseMailbox, lastIndexByte] at h

theorem trimSpace_bracketed (a : Bytes) : trimSpace (ascii "<" ++ a ++ ascii ">") = ascii "<" ++ a ++ ascii ">" :=
  trimSpace_of_ends 60 62 a (by decide) (by decide) (by decide) (by decide)

/-- The path of a command the client writes: the bracketed address, whatever parameters follow. -/
theorem pathArg_bracketed (kw : Bytes) (a params : Bytes) (hsp : Byte.sp ∉ a)
    (hparams : params = [] ∨ params.head? = some Byte.sp) :
    pathArg kw.length (kw ++ ascii "<" ++ a ++ ascii ">" ++ params) = ascii "<" ++ a ++ ascii ">" := by
  have hb : Byte.sp ∉ ascii "<" ++ a ++ ascii ">" := by
    simp only [List.mem_append, not_or]; exact ⟨⟨by decide, hsp⟩, by decide⟩
  have hcut : (cut Byte.sp (ascii "<" ++ a ++ ascii ">" ++ params)).1 = ascii "<" ++ a ++ ascii ">" := by
    rcases hparams with rfl | hh
    · rw [List.append_nil, cut_of_not_mem _ _ hb]
    · obtain ⟨t, rfl⟩ : ∃ t, params = Byte.sp :: t := by
        rcases params with _ | ⟨x, t⟩ <;> simp_all
      rw [cut_append _ _ _ hb]
  rw [pathArg, List.append_assoc, List.append_assoc, List.append_assoc, List.drop_left, ← List.append_assoc,
    ← List.append_assoc, hcut, trimSpace_bracketed]

theorem stripBrackets_bracketed (a : Bytes) : stripBrackets (ascii "<" ++ a ++ ascii ">") = a := by
  rw [stripBrackets, if_pos ⟨rfl, List.getLast?_concat _, by simp [ascii]⟩]
  exact List.dropLast_concat

/-- The path `<a>` of an address that `ParseMailbox` accepts: that mailbox, not the null path. -/
theorem parseReversePath_bracketed {a : Bytes} {m : Mailbox} (hm : parseMailbox a = some m) :
    parseReversePath (ascii "<" ++ a ++ ascii ">") = some { mailbox := m } := by
  have hne := parseMailbox_ne_nil hm
  rw [parseReversePath, trimSpace_bracketed, stripBrackets_bracketed, if_neg, hm, Option.map_some']
  rintro (h | h)
  · obtain ⟨x, t, rfl⟩ := List.exists_cons_of_ne_nil hne
    simp [ascii] at h
  · exact hne h

theorem parseForwardPath_bracketed {a : Bytes} {m : Mailbox} (hm : parseMailbox a = some m) :
    parseForwardPath (ascii "<" ++ a ++ ascii ">") = some ⟨m⟩ := by
  rw [parseForwardPath, trimSpace_bracketed,
    stripBrackets_bracketed, if_neg (parseMailbox_ne_nil hm), hm, Option.map_some']

/-- The inside of a path is empty exactly for the empty path and `<>`. -/
theorem stripBrackets_eq_nil (v : Bytes) : stripBrackets v = [] ↔ v = [] ∨ v = ascii "<>" := by
  rw [show ascii "<>" = [60, 62] from rfl]
  rcases v with _ | ⟨x, _ | ⟨y, _ | ⟨z, t⟩⟩⟩ <;> simp [stripBrackets]
  · rintro rfl; decide
  · split_ifs <;> simp

/-- A trimmed path is the null path exactly when it is empty or `<>`. -/
theorem parseReversePath_null (t : Bytes) :
    parseReversePath (trimSpace t) = some { null := true } ↔ trimSpace t = [] ∨ trimSpace t = ascii "<>" := by
  rw [parseReversePath, trimSpace_trimSpace]
  split_ifs with h <;> rw [stripBrackets_eq_nil] at h
  · exact iff_of_true rfl (h.elim .inr id)
  · refine iff_of_false ?_ fun h' => h (h'.elim (fun h => .inr (.inl h)) .inl)
    cases parseMailbox _ <;> simp

/-! ## The turns over `MAIL` and `RCPT` -/

theorem step_mail (w : World) (a params after : Bytes) (e : ReadErr) (hsd : o.shutdown = false)
    (hl : Byte.lf ∉ ascii "MAIL FROM:<" ++ a ++ ascii ">" ++ params)
    (hn : Byte.nul ∉ ascii "MAIL FROM:<" ++ a ++ ascii ">" ++ params)
    (hlen : (ascii "MAIL FROM:<" ++ a ++ ascii ">" ++ params).length ≤ 510)
    (hw : w.r = ⟨ascii "MAIL FROM:<" ++ a ++ ascii ">" ++ params ++ crlf ++ after, e⟩) :
    step srv o w =
      (handleMAIL srv o (ascii "FROM:" ++ ascii "<" ++ a ++ ascii ">" ++ params) { w with r := ⟨after, e⟩ }, .next) :=
  step_verb srv o w (ascii "MAIL") (ascii "FROM:" ++ ascii "<" ++ a ++ ascii ">" ++ params) after e hsd (by decide) hl hn
    hlen hw

theorem step_rcpt (w : World) (a params after : Bytes) (e : ReadErr) (hsd : o.shutdown = false)
    (hl : Byte.lf ∉ ascii "RCPT TO:<" ++ a ++ ascii ">" ++ params)
    (hn : Byte.nul ∉ ascii "RCPT TO:<" ++ a ++ ascii ">" ++ params)
    (hlen : (ascii "RCPT TO:<" ++ a ++ ascii ">" ++ params).length ≤ 510)
    (hw : w.r = ⟨ascii "RCPT TO:<" ++ a ++ ascii ">" ++ params ++ crlf ++ after, e⟩) :
    step srv o w =
      (handleRCPT srv o (ascii "TO:" ++ ascii "<" ++ a ++ ascii ">" ++ params) { w with r := ⟨after, e⟩ }, .next) :=
  step_verb srv o w (ascii "RCPT") (ascii "TO:" ++ ascii "<" ++ a ++ ascii ">" ++ params) after e hsd (by decide) hl hn
    hlen hw

/-- An upper-case ASCII keyword is a prefix of any text that starts with it, once upper-cased. -/
theorem isPrefixOf_toUpper (kw rest : Bytes) (hkw : ∀ b ∈ kw, b < 0x80) (hu : toUpper kw = kw) :
    kw.isPrefixOf (toUpper (kw ++ rest)) := by
  rw [toUpper_ascii_append kw rest hkw, hu, List.isPrefixOf_iff_prefix]
  exact List.prefix_append _ _

/-- `handleMAIL` calls `OnMail` with `rp` exactly when its guards pass, `OnMail` is set and the path parses as `rp`. -/
theorem handleMAIL_calls (args : Bytes) (w : World) (rp : ReversePath) :
    (handleMAIL srv o args w).calls = w.calls ++ [.mail rp] ↔
      (SessionState.greeted.rank ≤ w.s.state.rank ∧ w.s.state.rank < SessionState.mail.rank ∧
        ¬(srv.submissionMode ∧ ¬w.s.authenticated) ∧ (ascii "FROM:").isPrefixOf (toUpper args)) ∧
      srv.mailHandler = true ∧ parseReversePath (pathArg 5 args) = some rp := by
  unfold handleMAIL
  split_ifs with h1 h2 h3 h4
  · exact iff_of_false (by simp) fun h => absurd h.1.1 (not_le.2 h1)
  · exact iff_of_false (by simp) fun h => absurd h.1.2.1 (not_lt.2 h2)
  · exact iff_of_false (by simp) fun h => h.1.2.2.1 h3
  swap
  · exact iff_of_false (by simp) fun h => h4 h.1.2.2.2
  rw [and_iff_right ⟨not_lt.1 h1, not_le.1 h2, h3, h4⟩]
  split
  · rename_i hp; simp [hp]
  · rename_i rp' hp
    cases hb : srv.mailHandler <;> cases o.mail <;> simp [World.invoke, hb, hp, eq_comm]

/-- `handleRCPT` calls `OnRcpt` with `fp` exactly when its guards pass, `OnRcpt` is set and the path parses as `fp`. -/
theorem handleRCPT_calls (args : Bytes) (w : World) (fp : ForwardPath) :
    (handleRCPT srv o args w).calls = w.calls ++ [.rcpt fp] ↔
      (SessionState.mail.rank ≤ w.s.state.rank ∧ (w.s.forwardPaths.length : Int) < srv.maxRecipients ∧
        (ascii "TO:").isPrefixOf (toUpper args)) ∧
      srv.rcptHandler = true ∧ parseForwardPath (pathArg 3 args) = some fp := by
  unfold handleRCPT
  split_ifs with h1 h2 h3
  · exact iff_of_false (by simp) fun h => absurd h.1.1 (not_le.2 h1)
  · exact iff_of_false (by simp) fun h => absurd h.1.2.1 (Int.not_lt.2 h2)
  swap
  · exact iff_of_false (by simp) fun h => h3 h.1.2.2
  rw [and_iff_right ⟨not_lt.1 h1, Int.not_le.1 h2, h3⟩]
  split
  · rename_i hp; simp [hp]
  · rename_i fp' hp
    cases hb : srv.rcptHandler <;> cases o.rcpt <;> simp [World.invoke, hb, hp, eq_comm]

/-! ## The checks of `ParseMailbox` against the grammar -/

theorem isAtext_lt {r : Nat} (h : isAtext r = true) : r < 128 := by
  simp [isAtext] at h
  omega

theorem isDotAtomChar_toNat (b : UInt8) : isDotAtomChar b.toNat = true ↔ b = Byte.dot ∨ isAtext b.toNat := by
  simp only [isDotAtomChar, Bool.or_eq_true, decide_eq_true_eq, eq_toNat]; rfl

theorem validateDotAtom_iff (l : Bytes) : validateDotAtom l = true ↔ DotAtom l := by
  have hr := forall_runes_iff (fun r => isDotAtomChar r = true) (fun r h => by
    simp only [isDotAtomChar, Bool.or_eq_true, decide_eq_true_eq] at h
    exact h.elim (fun h => by omega) isAtext_lt) l
  simp only [isDotAtomChar_toNat] at hr
  simp only [validateDotAtom, Bool.and_eq_true, decide_eq_true_eq, Bool.not_eq_true', List.all_eq_true, hr,
    Bool.eq_false_iff, ne_eq, contains_iff_isInfix, DotAtom]
  tauto

/-- The escape-skipping loop of `validateQuotedLocalPart` accepts exactly the quoted-string content. -/
theorem validateQuotedLocalPart_iff (q : Bytes) : validateQuotedLocalPart q = true ↔ QuotedText q := by
  induction q using validateQuotedLocalPart.induct with
  | case1 => exact iff_of_true rfl .nil
  | case2 => exact iff_of_false (by decide) fun h => by cases h; contradiction
  | case3 x q ih =>
    rw [validateQuotedLocalPart, ih]
    refine ⟨.escape x, fun h => ?_⟩
    cases h
    · contradiction
    · assumption
  | case4 c q h1 h2 ih =>
    rw [validateQuotedLocalPart.eq_4 c q h1 h2, Bool.and_eq_true, decide_eq_true_eq, ih]
    have hc : c ≠ 92 := fun hc => by rcases q with _ | ⟨x, q⟩; exacts [h1 hc rfl, h2 x q hc rfl]
    refine ⟨fun h => .byte h.1 hc h.2, fun h => ?_⟩
    cases h
    · exact ⟨‹_›, ‹_›⟩
    · contradiction

/-- A string of two bytes or more that starts with `x` and ends with `y`. -/
theorem ends_shape (x y : UInt8) (l : Bytes) :
    (2 ≤ l.length ∧ l.head? = some x ∧ l.getLast? = some y) ↔ ∃ q, l = x :: (q ++ [y]) := by
  constructor
  · rintro ⟨hlen, hh, hl⟩
    obtain ⟨x, t, rfl⟩ := List.exists_cons_of_ne_nil (List.ne_nil_of_length_pos (show 0 < l.length by omega))
    obtain ⟨q, y, ht⟩ := (List.eq_nil_or_concat t).resolve_left (by rintro rfl; simp at hlen)
    rw [ht, List.concat_eq_append] at hl ⊢
    simp only [List.head?_cons, Option.some.injEq] at hh
    rw [List.getLast?_cons, List.getLast?_append_of_ne_nil _ (List.cons_ne_nil _ _)] at hl
    simp only [List.getLast?_singleton, Option.getD_some, Option.some.injEq] at hl
    exact ⟨q, by rw [hh, hl]⟩
  · rintro ⟨q, rfl⟩
    exact ⟨by simp, rfl, by rw [← List.cons_append, List.getLast?_concat]⟩

theorem dotAtom_head_ne {l : Bytes} (h : DotAtom l) : l.head? ≠ some 34 := by
  intro hh
  rcases h.2.1 34 (List.mem_of_mem_head? hh) with h | h
  · exact absurd h (by decide)
  · exact absurd h (by decide)

theorem validateLocalPart_iff (l : Bytes) : validateLocalPart l = true ↔ LocalPart l := by
  unfold validateLocalPart LocalPart
  simp only [Bool.and_eq_true, decide_eq_true_eq]
  by_cases hq : 2 ≤ l.length ∧ l.head? = some 34 ∧ l.getLast? = some 34
  · obtain ⟨q, rfl⟩ := (ends_shape 34 34 l).1 hq
    rw [if_pos hq, validateQuotedLocalPart_iff]
    have hd : ¬DotAtom (34 :: (q ++ [34])) := fun h => dotAtom_head_ne h rfl
    simp [hd]
  · rw [if_neg hq, validateDotAtom_iff]
    have hn : ¬∃ q, l = 34 :: (q ++ [34]) ∧ QuotedText q := fun ⟨q, hl, _⟩ => hq ((ends_shape 34 34 l).2 ⟨q, hl⟩)
    simp only [hn, or_false]
    exact ⟨fun h => ⟨h.1.2, h.2⟩, fun h => ⟨⟨h.2.1, h.1⟩, h.2⟩⟩

theorem isDomainChar_iff (r : Nat) : isDomainChar r = true ↔ LabelChar r := by
  simp [isDomainChar, LabelChar, or_assoc]

theorem validLabel_iff (l : Bytes) : validLabel l = true ↔ Label l := by
  simp only [validLabel, Label, Bool.and_eq_true, decide_eq_true_eq, List.all_eq_true, isDomainChar_iff]
  tauto

/-- An ASCII byte of a label is a label character. -/
theorem label_ascii {l : Bytes} (h : Label l) {b : UInt8} (hb : b ∈ l) (hlt : b < 0x80) : LabelChar b.toNat := by
  rw [← flatMap_runes l, List.mem_flatMap] at hb
  obtain ⟨p, hp, hbp⟩ := hb
  have hc := h.2.2.2.1 p hp
  rwa [mem_runes_ascii hp hbp hlt] at hc

theorem join_cons_ne_nil (sep : UInt8) {l : Bytes} (hl : l ≠ []) (L : List Bytes) : join sep (l :: L) ≠ [] := by
  cases L <;> simp [join, List.intercalate, List.intersperse_cons_cons, hl]

theorem join_ends (sep : UInt8) : ∀ L : List Bytes, (∀ l ∈ L, l ≠ []) →
    (∀ x, (join sep L).head? = some x → ∃ l ∈ L, x ∈ l) ∧ (∀ x, (join sep L).getLast? = some x → ∃ l ∈ L, x ∈ l)
  | [], _ => ⟨fun x h => by simp [join, List.intercalate] at h, fun x h => by simp [join, List.intercalate] at h⟩
  | [l], _ => by
    simp only [join, List.intercalate, List.intersperse_singleton, List.flatten_cons, List.flatten_nil,
      List.append_nil, List.mem_singleton, exists_eq_left]
    exact ⟨fun x h => List.mem_of_mem_head? h, fun x h => List.mem_of_getLast?_eq_some h⟩
  | l :: l' :: L, hL => by
    have hj : join sep (l :: l' :: L) = l ++ sep :: join sep (l' :: L) := by
      simp [join, List.intercalate, List.intersperse_cons_cons]
    have ih := join_ends sep (l' :: L) fun l h => hL l (List.mem_cons_of_mem _ h)
    have hne := join_cons_ne_nil sep (hL l' (by simp)) L
    rw [hj]
    refine ⟨fun x h => ?_, fun x h => ?_⟩
    · rw [List.head?_append_of_ne_nil _ (hL l (List.mem_cons_self _ _))] at h
      exact ⟨l, List.mem_cons_self _ _, List.mem_of_mem_head? h⟩
    · obtain ⟨y, J, hJ⟩ := List.exists_cons_of_ne_nil hne
      rw [List.getLast?_append_of_ne_nil _ (List.cons_ne_nil _ _), hJ, List.getLast?_cons_cons, ← hJ] at h
      obtain ⟨l0, hl0, hx⟩ := ih.2 x h
      exact ⟨l0, List.mem_cons_of_mem _ hl0, hx⟩

theorem label_not_mem {l : Bytes} (h : Label l) {b : UInt8} (hb : b < 0x80) (hc : ¬LabelChar b.toNat) : b ∉ l :=
  fun hm => hc (label_ascii h hm hb)

/-- The first and the last byte of a DNS name are bytes of its labels. -/
theorem dnsName_ends {d : Bytes} (h : DNSName d) {b : UInt8} (hb : b < 0x80) (hc : ¬LabelChar b.toNat) :
    d ≠ [] ∧ d.head? ≠ some b ∧ d.getLast? ≠ some b := by
  obtain ⟨-, labels, hne, hl, rfl⟩ := h
  obtain ⟨l, L, rfl⟩ := List.exists_cons_of_ne_nil hne
  have he := join_ends Byte.dot (l :: L) fun l h => (hl l h).1
  refine ⟨join_cons_ne_nil _ (hl l (List.mem_cons_self _ _)).1 L, fun h => ?_, fun h => ?_⟩
  · obtain ⟨l0, hl0, hx⟩ := he.1 b h
    exact label_not_mem (hl l0 hl0) hb hc hx
  · obtain ⟨l0, hl0, hx⟩ := he.2 b h
    exact label_not_mem (hl l0 hl0) hb hc hx

theorem validateDomain_iff (d : Bytes) :
    validateDomain d = true ↔ DNSName d ∨ (AddressLiteral d ∧ d.length ≤ 255) := by
  unfold validateDomain
  simp only [Bool.and_eq_true, decide_eq_true_eq]
  by_cases hh : d.head? = some 91
  · have hdns : ¬DNSName d := fun h => (dnsName_ends h (show (91 : UInt8) < 0x80 by decide) (by decide)).2.1 hh
    rw [if_pos hh, decide_eq_true_eq, AddressLiteral, ← ends_shape]
    simp only [hdns, false_or]
    constructor
    · rintro ⟨⟨hne, hlen⟩, hl⟩
      refine ⟨⟨?_, hh, hl⟩, hlen⟩
      rcases d with _ | ⟨x, _ | ⟨y, t⟩⟩
      · exact absurd rfl hne
      · simp only [List.head?_cons, List.getLast?_singleton, Option.some.injEq] at hh hl
        exact absurd (hh.symm.trans hl) (by decide)
      · simp
    · rintro ⟨⟨h2, -, hl⟩, hlen⟩
      exact ⟨⟨List.ne_nil_of_length_pos (by omega), hlen⟩, hl⟩
  · have hlit : ¬AddressLiteral d := fun ⟨t, ht⟩ => hh (by rw [ht]; rfl)
    rw [if_neg hh]
    simp only [hlit, false_and, or_false, Bool.and_eq_true, decide_eq_true_eq, List.all_eq_true]
    constructor
    · rintro ⟨⟨-, hlen⟩, -, hv⟩
      exact ⟨hlen, split Byte.dot d, split_ne_nil _ _, fun l hl => (validLabel_iff l).1 (hv l hl),
        (join_split _ _).symm⟩
    · intro h
      obtain ⟨hne, hhead, hlast⟩ := dnsName_ends h (show Byte.dot < 0x80 by decide) (by decide)
      obtain ⟨hlen, labels, hL, hl, rfl⟩ := h
      refine ⟨⟨hne, hlen⟩, ⟨hhead, hlast⟩, fun l hm => ?_⟩
      rw [split_join _ _ hL fun l hl' => label_not_mem (hl l hl') (by decide) (by decide)] at hm
      exact (validLabel_iff l).2 (hl l hm)

theorem mem_join (sep : UInt8) {x : UInt8} : ∀ L : List Bytes, x ∈ join sep L → x = sep ∨ ∃ l ∈ L, x ∈ l
  | [], h => by simp [join, List.intercalate] at h
  | [l], h => .inr ⟨l, List.mem_singleton_self l, by simpa [join, List.intercalate] using h⟩
  | l :: l' :: L, h => by
    have hj : join sep (l :: l' :: L) = l ++ sep :: join sep (l' :: L) := by
      simp [join, List.intercalate, List.intersperse_cons_cons]
    rw [hj, List.mem_append, List.mem_cons] at h
    rcases h with h | h | h
    · exact .inr ⟨l, List.mem_cons_self _ _, h⟩
    · exact .inl h
    · rcases mem_join sep (l' :: L) h with h | ⟨l0, hl0, hx⟩
      · exact .inl h
      · exact .inr ⟨l0, List.mem_cons_of_mem _ hl0, hx⟩

/-- A DNS name has no `@`. -/
theorem dnsName_at {d : Bytes} (h : DNSName d) : 64 ∉ d := fun hm => by
  obtain ⟨-, labels, -, hl, rfl⟩ := h
  rcases mem_join _ labels hm with h | ⟨l, hl', hx⟩
  · exact absurd h (by decide)
  · exact label_not_mem (hl l hl') (by decide) (by decide) hx

theorem localPart_ne_nil {l : Bytes} (h : LocalPart l) : l ≠ [] := by
  rcases h.2 with h | ⟨q, rfl, -⟩
  · exact h.1
  · exact List.cons_ne_nil _ _


/-- What `ParseMailbox` accepts is in the grammar: split at the last `@`, so the domain has none. -/
theorem parseMailbox_sound (s : Bytes) (m : Mailbox) (h : parseMailbox s = some m) :
    ∃ l d, s = l ++ 64 :: d ∧ LocalPart l ∧ (DNSName d ∨ (AddressLiteral d ∧ 64 ∉ d ∧ d.length ≤ 255)) ∧
      m = ⟨l, d⟩ := by
  unfold parseMailbox at h
  rcases hi : lastIndexByte 64 s with _ | i
  · rw [hi] at h; cases h
  obtain ⟨a, b, rfl, hb, rfl⟩ := lastIndexByte_eq_some 64 s i hi
  rw [hi] at h
  dsimp only at h
  split_ifs at h with h0 hv
  simp only [Option.some.injEq] at h
  subst h
  have ht : (a ++ 64 :: b).take a.length = a := List.take_left' rfl
  have hd : (a ++ 64 :: b).drop (a.length + 1) = b := by simp
  rw [ht, hd, Bool.and_eq_true, validateLocalPart_iff, validateDomain_iff] at hv
  exact ⟨a, b, rfl, hv.1, hv.2.imp_right fun h => ⟨h.1, hb, h.2⟩, by rw [ht, hd]⟩

/-- What is in the grammar, with no `@` in the domain, `ParseMailbox` accepts. -/
theorem parseMailbox_complete (l d : Bytes) (hl : LocalPart l)
    (hd : DNSName d ∨ (AddressLiteral d ∧ 64 ∉ d ∧ d.length ≤ 255)) : parseMailbox (l ++ 64 :: d) = some ⟨l, d⟩ := by
  have hne : d ≠ [] := hd.elim (fun h => (dnsName_ends h (show Byte.dot < 0x80 by decide)
    (by decide)).1) fun ⟨⟨t, ht⟩, _⟩ => ht ▸ List.cons_ne_nil _ _
  have hl0 := List.length_pos.2 (localPart_ne_nil hl)
  rw [parseMailbox, lastIndexByte_append 64 d (hd.elim dnsName_at (·.2.1)) l]
  dsimp only
  rw [if_neg (by simp only [List.length_append, List.length_cons]; have := List.length_pos.2 hne; omega),
    List.take_left' rfl, show (l ++ 64 :: d).drop (l.length + 1) = d by simp,
    (validateLocalPart_iff l).2 hl, (validateDomain_iff d).2 (hd.imp_right fun h => ⟨h.1, h.2.2⟩)]
  rfl

/-- A mailbox `ParseMailbox` returns prints as the text it read, and is not the zero mailbox. -/
theorem string_of_parseMailbox {s : Bytes} {m : Mailbox} (h : parseMailbox s = some m) :
    m.string = s ∧ m.isZero = false := by
  obtain ⟨l, d, rfl, hl, -, rfl⟩ := parseMailbox_sound s m h
  have hl := localPart_ne_nil hl
  exact ⟨by simp [Mailbox.string, hl, show ascii "@" = [64] from rfl], by simp [Mailbox.isZero, hl]⟩

end AddressAux

open AddressAux CommandsAux Grammar StringsAux

/-! ## Client and session agree on the paths -/

/-- Take an address `a` that `ParseMailbox` accepts as `m` and that has no space. Say `Client.Mail` writes a line of
at most 510 bytes with no `LF` and no `NUL`, whatever the options, and a greeted session that may take `MAIL` reads it.
Then the session calls `OnMail` with the reverse path of `m`. Likewise a session after `MAIL`, below its recipient cap,
that reads the line of `Client.Rcpt` calls `OnRcpt` with the forward path of `m`. And from every session, for every
argument, `handleMAIL` calls `OnMail` with the null path exactly when its guards pass, `OnMail` is set, and the path
(the text after `FROM:` up to the first space, trimmed) is empty or `<>`. -/
theorem envelope_paths_agree (srv : Server) (o : Outcomes) (c : Conn) (a : Bytes) (m : Mailbox)
    (hm : parseMailbox a = some m) (hsp : Byte.sp ∉ a) (hsd : o.shutdown = false) :
    (∀ (w : World) (opts : List MailOption) (after : Bytes) (e : ReadErr),
      let line := ascii "MAIL FROM:<" ++ a ++ ascii ">" ++ mailParams (.ofList opts)
      Byte.lf ∉ line → Byte.nul ∉ line → line.length ≤ 510 → w.s.state = .greeted →
      ¬(srv.submissionMode ∧ ¬w.s.authenticated) → srv.mailHandler = true → w.r = ⟨line ++ crlf ++ after, e⟩ →
      (Client.mail a opts c).2.out = c.out ++ line ++ crlf ∧
        (step srv o w).1.calls = w.calls ++ [.mail { mailbox := m }]) ∧
    (∀ (w : World) (opts : List RcptOption) (after : Bytes) (e : ReadErr),
      let line := ascii "RCPT TO:<" ++ a ++ ascii ">" ++ rcptParams (.ofList opts)
      Byte.lf ∉ line → Byte.nul ∉ line → line.length ≤ 510 → SessionState.mail.rank ≤ w.s.state.rank →
      (w.s.forwardPaths.length : Int) < srv.maxRecipients → srv.rcptHandler = true → w.r = ⟨line ++ crlf ++ after, e⟩ →
      (Client.rcpt a opts c).2.out = c.out ++ line ++ crlf ∧ (step srv o w).1.calls = w.calls ++ [.rcpt ⟨m⟩]) ∧
    (∀ (w : World) (args : Bytes),
      (handleMAIL srv o args w).calls = w.calls ++ [.mail { null := true }] ↔
        (SessionState.greeted.rank ≤ w.s.state.rank ∧ w.s.state.rank < SessionState.mail.rank ∧
          ¬(srv.submissionMode ∧ ¬w.s.authenticated) ∧ (ascii "FROM:").isPrefixOf (toUpper args)) ∧
        srv.mailHandler = true ∧
        (trimSpace (cut Byte.sp (args.drop 5)).1 = [] ∨ trimSpace (cut Byte.sp (args.drop 5)).1 = ascii "<>")) := by
  refine ⟨fun w opts after e hl hn hlen hst hsub hmh hw => ⟨by simp [mail_out], ?_⟩,
    fun w opts after e hl hn hlen hst hcap hrh hw => ⟨by simp [rcpt_out], ?_⟩,
    fun w args => handleMAIL_calls srv o args w _ |>.trans (and_congr_right' (and_congr_right'
      (parseReversePath_null _)))⟩
  · rw [step_mail srv o w a _ after e hsd hl hn hlen hw]
    dsimp only
    refine (handleMAIL_calls srv o _ _ _).2 ⟨⟨by rw [hst], by rw [hst]; decide, hsub, ?_⟩, hmh, ?_⟩
    · simp only [List.append_assoc]; exact isPrefixOf_toUpper _ _ (by decide) (by decide)
    · rw [show 5 = (ascii "FROM:").length from rfl, pathArg_bracketed _ a _ hsp (mailParams_head _),
        parseReversePath_bracketed hm]
  · rw [step_rcpt srv o w a _ after e hsd hl hn hlen hw]
    dsimp only
    refine (handleRCPT_calls srv o _ _ _).2 ⟨⟨hst, hcap, ?_⟩, hrh, ?_⟩
    · simp only [List.append_assoc]; exact isPrefixOf_toUpper _ _ (by decide) (by decide)
    · rw [show 3 = (ascii "TO:").length from rfl, pathArg_bracketed _ a _ hsp (rcptParams_head _),
        parseForwardPath_bracketed hm]

/-- `Mail("a@b")` against a greeted session with `OnMail` set: the line `MAIL FROM:<a@b>`, and `OnMail` called with
the mailbox `a@b`. -/
theorem envelope_paths_agree_ab :
    let srv : Server := { newServer with mailHandler := true, rcptHandler := true }
    let c : Conn := ⟨⟨[], .eof⟩, []⟩
    let w : World := ⟨{ newSession with state := .greeted }, ⟨ascii "MAIL FROM:<a@b>\r\n", .eof⟩, [], []⟩
    (Client.mail (ascii "a@b") [] c).2.out = c.out ++ (ascii "MAIL FROM:<" ++ ascii "a@b" ++ ascii ">" ++
        mailParams (.ofList [])) ++ crlf ∧
      (step srv {} w).1.calls = w.calls ++ [.mail { mailbox := ⟨ascii "a", ascii "b"⟩ }] :=
  (envelope_paths_agree _ {} _ (ascii "a@b") ⟨ascii "a", ascii "b"⟩ (by decide) (by decide) rfl).1 _ [] [] .eof
    (by decide) (by decide) (by decide) rfl (by decide) rfl rfl

/-- The address `"john doe"@example.com` is accepted by `ParseMailbox`, and `Client.Mail` writes it as it is, but the
session cuts the path at its space and answers `501 5.1.7 Invalid sender address` with no call. `MAIL FROM:` with no
path, and `MAIL FROM: <a@b>` with a space before the path, call `OnMail` with the null path. -/
theorem envelope_path_quoted_space_refused :
    let srv : Server := { newServer with mailHandler := true }
    let s : Session := { newSession with state := .greeted }
    let a := ascii "\"john doe\"@example.com"
    let w : World := ⟨s, ⟨ascii "MAIL FROM:<\"john doe\"@example.com>\r\n", .eof⟩, [], []⟩
    parseMailbox a = some ⟨ascii "\"john doe\"", ascii "example.com"⟩ ∧
      (Client.mail a [] ⟨⟨[], .eof⟩, []⟩).2.out = ascii "MAIL FROM:<\"john doe\"@example.com>\r\n" ∧
      (step srv {} w).1.calls = [] ∧
      (step srv {} w).1.out =
        writeReplies [lineReply replySyntaxParamError enhancedCodeBadSenderSyntax (ascii "Invalid sender address")] ∧
      (step srv {} ⟨s, ⟨ascii "MAIL FROM:\r\n", .eof⟩, [], []⟩).1.calls = [.mail { null := true }] ∧
      (step srv {} ⟨s, ⟨ascii "MAIL FROM: <a@b>\r\n", .eof⟩, [], []⟩).1.calls = [.mail { null := true }] := by
  decide

/-! ## The grammar `ParseMailbox` accepts -/

/-- `ParseMailbox` accepts exactly the addresses `l@d` of the grammar, split at their last `@`: `l` a local part (a
dot-atom or a quoted string, at most 64 bytes) and `d` a DNS name or an address literal with no `@` of at most 255
bytes. It returns `Mailbox{l, d}`. -/
theorem parseMailbox_grammar (s : Bytes) (m : Mailbox) :
    parseMailbox s = some m ↔ ∃ l d, s = l ++ 64 :: d ∧ LocalPart l ∧
      (DNSName d ∨ (AddressLiteral d ∧ 64 ∉ d ∧ d.length ≤ 255)) ∧ m = ⟨l, d⟩ :=
  ⟨parseMailbox_sound s m, fun ⟨l, d, hs, hl, hd, hm⟩ => hs ▸ hm ▸ parseMailbox_complete l d hl hd⟩

set_option maxRecDepth 4000 in
/-- The address literal `[b@c]` after the local part `a` is in the grammar as the specification words it, but
`ParseMailbox` splits `a@[b@c]` at its last `@` and refuses it; so it does an address literal of 302 bytes, over the
limit of 255 that the specification sets for DNS names. -/
theorem parseMailbox_literal_split :
    LocalPart (ascii "a") ∧ AddressLiteral (ascii "[b@c]") ∧ parseMailbox (ascii "a" ++ 64 :: ascii "[b@c]") = none ∧
      AddressLiteral (91 :: (List.replicate 300 120 ++ [93])) ∧
      parseMailbox (ascii "a" ++ 64 :: 91 :: (List.replicate 300 120 ++ [93])) = none :=
  ⟨(validateLocalPart_iff _).1 (by decide), ⟨ascii "b@c", rfl⟩, by decide, ⟨_, rfl⟩, by decide⟩

/-! ## Printing a path -/

/-- `String` prints back what the parsers read. `ParseMailbox` does not normalise: the mailbox it returns prints as the
text it read, and is never the zero mailbox. Every reverse path `ParseReversePath` returns, the null path included,
prints as a path that it reads back as the same, and so does every forward path `ParseForwardPath` returns; a path
read without brackets, or with spaces around it, prints in brackets without them. -/
theorem parsed_paths_print_back (s : Bytes) :
    (∀ m, parseMailbox s = some m → m.string = s ∧ m.isZero = false) ∧
    (∀ rp, parseReversePath s = some rp → parseReversePath rp.string = some rp) ∧
    (∀ fp, parseForwardPath s = some fp → parseForwardPath fp.string = some fp) := by
  refine ⟨fun m => string_of_parseMailbox, fun rp h => ?_, fun fp h => ?_⟩
  · rw [parseReversePath] at h
    split_ifs at h
    · cases h
      rfl
    · obtain ⟨m, hm, rfl⟩ := Option.map_eq_some'.1 h
      rw [ReversePath.string, if_neg Bool.false_ne_true, (string_of_parseMailbox hm).1]
      exact parseReversePath_bracketed hm
  · rw [parseForwardPath] at h
    split_ifs at h
    obtain ⟨m, hm, rfl⟩ := Option.map_eq_some'.1 h
    rw [ForwardPath.string, (string_of_parseMailbox hm).1]
    exact parseForwardPath_bracketed hm

/-- The unbracketed path ` a@b.c ` reads as the mailbox `a@b.c`, which prints as `<a@b.c>` and reads back the same. -/
theorem parsed_paths_print_back_unbracketed :
    parseReversePath (ascii " a@b.c ") = some { mailbox := ⟨ascii "a", ascii "b.c"⟩ } ∧
    ReversePath.string { mailbox := ⟨ascii "a", ascii "b.c"⟩ } = ascii "<a@b.c>" ∧
    parseReversePath (ascii "<a@b.c>") = some { mailbox := ⟨ascii "a", ascii "b.c"⟩ } :=
  have h : parseReversePath (ascii " a@b.c ") = some { mailbox := ⟨ascii "a", ascii "b.c"⟩ } := by decide
  ⟨h, by decide, (parsed_paths_print_back _).2.1 _ h⟩

end Smtp
