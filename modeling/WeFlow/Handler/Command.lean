import WeFlow.Base.Numeral
import WeFlow.Base.Words
import WeFlow.Handler.PrivateContent
import WeFlow.Handler.Service

/-!
# `Command` — the commands that handlers write

The three parsers: of the private commands, of the request for the model's help, and of the approval in the
group. Each is compared with one grammar: the words of a command, with blanks between them on one line, and a
version that is a numeral. A draft has a body on the lines below; an approval comes after a mention.

The parsers read a version with `int`, which takes more than numerals (`Misread`); the request for help is
matched with single blanks after every carriage return is deleted; an approval may go over several lines.

## Contents

* `parsePrivateCommand`, `parseAssistCommand`, `parseGroupApproval` — the parsers.
* `PrivateForm`, `AssistForm`, `GroupForm` — the grammar.
* `parsePrivateCommand_ok`, `parseAssistCommand_ok`, `parseGroupApproval_ok` — what each parser accepts.
* `commands_parsed_iff` — when a parser accepts what the grammar has.
-/

namespace WeFlow

open Txn Words

/-! ## The parsers -/

/-- A rejected command, or an error that the parser leaves to its caller. -/
inductive CommandError where
  | rejected (reasonCode : String)
  | valueError
  deriving DecidableEq, Repr

/-- `<label>[a-f0-9]{lo,hi}`. -/
def isLabelled (label : String) (lo hi : Nat) (s : List Char) : Bool :=
  let digits := s.drop label.toList.length
  label.toList.isPrefixOf s ∧ lo ≤ digits.length ∧ digits.length ≤ hi ∧ digits.all isHexDigit

/-- `_CASE_ID.fullmatch`. -/
def isCaseId : List Char → Bool := isLabelled "case_" 24 64

/-- `_REQUEST_ID.fullmatch`. -/
def isRequestId : List Char → Bool := isLabelled "qqhar_" 32 32

/-- `_HASH_PREFIX.fullmatch`. -/
def isHashPrefix : List Char → Bool := isLabelled "" 12 64

/-- `[a-z0-9._-]`. -/
def isReasonChar (c : Char) : Bool := c.isLower || c.isDigit || c = '.' || c = '_' || c = '-'

/-- `_REJECTION_REASON.fullmatch`. -/
def isRejectionReason (s : List Char) : Bool := 1 ≤ s.length ∧ s.length ≤ 64 ∧ s.all isReasonChar

/-- `version = int(word)`, which must be positive. -/
def readVersion (reasonCode : String) (word : List Char) : Except CommandError Nat :=
  match pyInt word with
  | none => .error (.rejected reasonCode)
  | some version => if version < 1 then .error (.rejected reasonCode) else .ok version.toNat

inductive PrivateVerb where
  | pull | accept | draft | reject
  deriving DecidableEq, Repr

def PrivateVerb.keyword : PrivateVerb → List Char
  | .pull => "WF-PULL".toList
  | .accept => "WF-ACCEPT".toList
  | .draft => "WF-DRAFT".toList
  | .reject => "WF-REJECT".toList

def privateVerb? (word : List Char) : Option PrivateVerb :=
  [.pull, .accept, .draft, .reject].find? fun verb => verb.keyword = word

/-- `text.replace("\r\n", "\n").replace("\r", "\n")`. -/
def lineEnds (text : List Char) : List Char := replaceCr (replaceCrLf text)

def isInLine (c : Char) : Bool := c ≠ '\n'

/-- The parts of `text.partition("\n")` before and after the line end. -/
def firstLine (text : List Char) : List Char := text.takeWhile isInLine

def afterLine (text : List Char) : List Char := (text.dropWhile isInLine).tail

def malformedCommand : CommandError := .rejected "private_command_unknown_or_malformed"

/-- `parse_private_command`. -/
def parsePrivateCommand (nfkc : String → String) (content : String) : Except CommandError QQPrivateCommand := do
  let normalized := strip (lineEnds (nfkc content).toList)
  let separator := decide ('\n' ∈ normalized)
  match splitWords (firstLine normalized) with
  | keyword :: caseId :: version :: rest =>
      let verb ← fetch (privateVerb? keyword) malformedCommand
      require (rest.length = if verb = .reject then 1 else 0) malformedCommand
      require (isCaseId caseId) (.rejected "private_command_case_invalid")
      let expectedVersion ← readVersion "private_command_version_invalid" version
      match verb with
      | .draft =>
          require separator (.rejected "private_command_draft_missing")
          pure ⟨.ofList caseId, expectedVersion, .draft (.ofList (afterLine normalized))⟩
      | .reject =>
          require (!separator && rest.all isRejectionReason) (.rejected "private_command_rejection_reason_invalid")
          pure ⟨.ofList caseId, expectedVersion, .simple (.reject (.ofList rest.flatten))⟩
      | .accept =>
          require (!separator) (.rejected "private_command_extra_content")
          pure ⟨.ofList caseId, expectedVersion, .simple .accept⟩
      | .pull =>
          require (!separator) (.rejected "private_command_extra_content")
          pure ⟨.ofList caseId, expectedVersion, .simple .pull⟩
  | _ => .error malformedCommand

/-- `_ASSIST.fullmatch`, with its two groups. -/
def assistMatch? (s : List Char) : Option (List Char × List Char) :=
  let label := "WF-ASSIST ".toList
  let rest := s.drop label.length
  match rest.dropWhile (· ≠ ' ') with
  | ' ' :: version =>
      let caseId := rest.takeWhile (· ≠ ' ')
      if label.isPrefixOf s ∧ isCaseId caseId ∧ IsNumeral version then some (caseId, version) else none
  | _ => none

/-- `parse_assist_command`. -/
def parseAssistCommand (nfkc : String → String) (content : String) : Except CommandError (String × Nat) := do
  let normalized := strip ((nfkc content).toList.filter (· ≠ '\r'))
  require ('\n' ∉ normalized) (.rejected "assist_command_extra_content")
  let (caseId, version) ← fetch (assistMatch? normalized) (.rejected "assist_command_unknown_or_malformed")
  let expectedVersion ← fetch (pyInt version) .valueError
  pure (.ofList caseId, expectedVersion.toNat)

/-- `QQGroupApprovalCommand`, with the request by its written id. -/
structure GroupApprovalWords where
  approvalRequestId : String
  candidateHashPrefix : String
  expectedVersion : Nat
  deriving DecidableEq, Repr

/-- `parse_group_approval`. -/
def parseGroupApproval (nfkc : String → String) (content : String) : Except CommandError GroupApprovalWords := do
  let normalized := (nfkc content).toList
  let withoutMention := dropLeadingMention normalized
  require (withoutMention ≠ normalized) (.rejected "group_approval_mention_required")
  match splitWords (strip withoutMention) with
  | [keyword, requestId, hashPrefix, version] =>
      require (keyword = "WF-APPROVE".toList) (.rejected "group_approval_unknown_or_malformed")
      require (isRequestId requestId && isHashPrefix hashPrefix) (.rejected "group_approval_metadata_invalid")
      let expectedVersion ← readVersion "group_approval_version_invalid" version
      pure ⟨.ofList requestId, .ofList hashPrefix, expectedVersion⟩
  | _ => .error (.rejected "group_approval_unknown_or_malformed")

/-! ## The grammar -/

def isLineEnd (c : Char) : Bool := c = '\n' || c = '\r'

/-- A blank within a line. -/
def isLineBlank (c : Char) : Bool := isSpace c && !isLineEnd c

/-- The private commands, their version written `w`. Only a draft has lines below the first one. -/
def PrivateForm (w text : List Char) (caseId : String) : PrivateCommandBody → Prop
  | .simple .pull => Spaced isLineBlank [PrivateVerb.pull.keyword, caseId.toList, w] text
  | .simple .accept => Spaced isLineBlank [PrivateVerb.accept.keyword, caseId.toList, w] text
  | .simple (.reject reason) => isRejectionReason reason.toList = true ∧
      Spaced isLineBlank [PrivateVerb.reject.keyword, caseId.toList, w, reason.toList] text
  | .draft body => ∃ line gap, text = (line ++ gap) ++ '\n' :: body.toList ∧ IsGap isLineBlank gap ∧
      Spaced isLineBlank [PrivateVerb.draft.keyword, caseId.toList, w] line

/-- A request for the model's help, its version written `w`. -/
def AssistForm (w text : List Char) (caseId : String) : Prop :=
  Spaced isLineBlank ["WF-ASSIST".toList, caseId.toList, w] text

/-- `@机器人|<@!?[A-Za-z0-9._:-]+>`. -/
def IsMention (m : List Char) : Prop := m = "@机器人".toList ∨ ∃ bang name, m = '<' :: '@' :: (bang ++ (name ++ ['>'])) ∧
  (bang = [] ∨ bang = ['!']) ∧ name ≠ [] ∧ ∀ c ∈ name, isMessageIdChar c = true

/-- An approval after a mention, its version written `w` and its words parted by `gap`. -/
def GroupForm (gap : Char → Bool) (w text : List Char) (requestId hashPrefix : String) : Prop :=
  ∃ m g line, text = m ++ (g ++ line) ∧ IsMention m ∧ IsGap isSpace g ∧
    Spaced gap ["WF-APPROVE".toList, requestId.toList, hashPrefix.toList, w] line

def CanonicalPrivate (content : String) (command : QQPrivateCommand) : Prop :=
  isCaseId command.caseId.toList = true ∧ ∃ w, IsNumeral w ∧ decimalValue w = command.expectedVersion ∧
    PrivateForm w (strip (lineEnds content.toList)) command.caseId command.body

def CanonicalAssist (content : String) (command : String × Nat) : Prop :=
  isCaseId command.1.toList = true ∧ ∃ w, IsNumeral w ∧ decimalValue w = command.2 ∧
    AssistForm w (strip content.toList) command.1

def CanonicalGroup (content : String) (command : GroupApprovalWords) : Prop :=
  (isRequestId command.approvalRequestId.toList = true ∧ isHashPrefix command.candidateHashPrefix.toList = true) ∧
    ∃ w, IsNumeral w ∧ decimalValue w = command.expectedVersion ∧
      GroupForm isLineBlank w (strip content.toList) command.approvalRequestId command.candidateHashPrefix

/-! ## Characters -/

/-- A printable ASCII character that is no blank. -/
def IsPlain (c : Char) : Prop := 33 ≤ c.toNat ∧ c.toNat ≤ 126

instance : DecidablePred IsPlain := fun c => inferInstanceAs (Decidable (33 ≤ c.toNat ∧ c.toNat ≤ 126))

/-- Plain letters of a text, one after the other. -/
theorem isPlain_of_all {s : List Char} (h : (s.all fun c => decide (IsPlain c)) = true) :
    ∀ c ∈ s, IsPlain c := by
  intro c hc
  exact of_decide_eq_true (List.all_eq_true.mp h c hc)

theorem IsPlain.not_isSpace {c : Char} (h : IsPlain c) : isSpace c = false := by
  unfold IsPlain at h
  by_contra hspace
  rw [Bool.not_eq_false] at hspace
  simp only [isSpace, Bool.decide_or, Bool.or_eq_true, decide_eq_true_eq, Bool.decide_and, Bool.and_eq_true] at hspace
  omega

theorem isWord_of_plain {w : List Char} (hne : w ≠ []) (hw : ∀ c ∈ w, IsPlain c) : IsWord isSpace w :=
  ⟨hne, fun c hc => (hw c hc).not_isSpace⟩

theorem isPlain_of_isDigit {c : Char} (h : c.isDigit = true) : IsPlain c := by
  obtain ⟨hlow, hhigh⟩ := toNat_of_isDigit h
  simp only [Char.reduceToNat] at hlow hhigh
  constructor <;> omega

theorem isPlain_of_isIntChar {c : Char} (h : IsIntChar c) : IsPlain c := by
  rcases h with h | rfl | rfl | rfl
  · exact isPlain_of_isDigit h
  all_goals exact ⟨by decide, by decide⟩

theorem isPlain_of_isHexDigit {c : Char} (h : isHexDigit c = true) : IsPlain c := by
  simp only [isHexDigit, Bool.decide_or, Bool.decide_and, Bool.or_eq_true, Bool.and_eq_true, decide_eq_true_eq,
    Char.le_def, UInt32.le_iff_toNat_le, Char.reduceVal, UInt32.reduceToNat] at h
  have hval : c.val.toNat = c.toNat := rfl
  rw [hval] at h
  constructor <;> omega

theorem isPlain_of_isLower {c : Char} (h : c.isLower = true) : IsPlain c := by
  have hlower : c.isLower = (decide (c.val ≥ 'a'.val) && decide (c.val ≤ 'z'.val)) := rfl
  simp only [hlower, Bool.and_eq_true, decide_eq_true_eq, ge_iff_le, UInt32.le_iff_toNat_le] at h
  have hval : c.val.toNat = c.toNat := rfl
  rw [hval] at h
  simp only [Char.reduceVal, UInt32.reduceToNat] at h
  constructor <;> omega

theorem isPlain_of_isReasonChar {c : Char} (h : isReasonChar c = true) : IsPlain c := by
  simp only [isReasonChar, Bool.or_eq_true, decide_eq_true_eq] at h
  rcases h with (((h | h) | rfl) | rfl) | rfl
  · exact isPlain_of_isLower h
  · exact isPlain_of_isDigit h
  all_goals exact ⟨by decide, by decide⟩

theorem isLineBlank_iff {c : Char} : isLineBlank c = true ↔ isSpace c = true ∧ c ≠ '\n' ∧ c ≠ '\r' := by
  simp [isLineBlank, isLineEnd]

/-- A labelled word is its label and hexadecimal digits. -/
theorem plain_of_isLabelled {label : String} {lo hi : Nat} {s : List Char} (hlabel : ∀ c ∈ label.toList, IsPlain c)
    (hpos : 0 < lo) (h : isLabelled label lo hi s = true) : s ≠ [] ∧ ∀ c ∈ s, IsPlain c := by
  simp only [isLabelled, Bool.decide_and, Bool.and_eq_true, decide_eq_true_eq, List.all_eq_true,
    Bool.decide_eq_true] at h
  obtain ⟨hstart, hlo, -, hdigits⟩ := h
  obtain ⟨digits, rfl⟩ := List.isPrefixOf_iff_prefix.mp hstart
  rw [List.drop_left] at hlo hdigits
  constructor
  · intro hnil
    rw [(List.append_eq_nil_iff.mp hnil).2] at hlo
    exact absurd (Nat.lt_of_lt_of_le hpos hlo) (Nat.lt_irrefl 0)
  · intro c hc
    rcases List.mem_append.mp hc with hc | hc
    · exact hlabel c hc
    · exact isPlain_of_isHexDigit (hdigits c hc)

theorem plain_of_isCaseId {s : List Char} (h : isCaseId s = true) : s ≠ [] ∧ ∀ c ∈ s, IsPlain c :=
  plain_of_isLabelled (isPlain_of_all (by decide)) (by decide) h

theorem plain_of_isRequestId {s : List Char} (h : isRequestId s = true) : s ≠ [] ∧ ∀ c ∈ s, IsPlain c :=
  plain_of_isLabelled (isPlain_of_all (by decide)) (by decide) h

theorem plain_of_isHashPrefix {s : List Char} (h : isHashPrefix s = true) : s ≠ [] ∧ ∀ c ∈ s, IsPlain c :=
  plain_of_isLabelled (by simp) (by decide) h

theorem plain_of_isRejectionReason {s : List Char} (h : isRejectionReason s = true) :
    s ≠ [] ∧ ∀ c ∈ s, IsPlain c := by
  simp only [isRejectionReason, Bool.decide_and, Bool.and_eq_true, decide_eq_true_eq, List.all_eq_true] at h
  exact ⟨List.ne_nil_of_length_pos h.1, fun c hc => isPlain_of_isReasonChar (h.2.2 c hc)⟩

theorem plain_keyword (verb : PrivateVerb) : verb.keyword ≠ [] ∧ ∀ c ∈ verb.keyword, IsPlain c := by
  cases verb <;> exact ⟨by decide, isPlain_of_all (by decide)⟩

theorem IsNumeral.plain {w : List Char} (h : IsNumeral w) : w ≠ [] ∧ ∀ c ∈ w, IsPlain c :=
  ⟨h.1, fun c hc => isPlain_of_isDigit (h.2.2 c hc)⟩

/-! ## Versions -/

/-- `int` reads the word as the positive number `n`. -/
def Reads (w : List Char) (n : Nat) : Prop := pyInt w = some (n : Int) ∧ 1 ≤ n

/-- A word that `int` reads as a positive number although it is no numeral, having a sign, an underscore or a
    leading zero; or a numeral that is too long for it. -/
def Misread (w : List Char) : Prop :=
  (¬ IsNumeral w ∧ ∃ n, Reads w n) ∨ (IsNumeral w ∧ maxStrDigits < w.length)

theorem readVersion_ok {reasonCode : String} {w : List Char} {n : Nat} :
    readVersion reasonCode w = .ok n ↔ Reads w n := by
  unfold readVersion Reads
  cases hw : pyInt w with
  | none =>
      simp
  | some v =>
      show (if v < 1 then _ else _) = _ ↔ _
      by_cases hv : v < 1
      · rw [if_pos hv]
        refine iff_of_false (fun h => by cases h) ?_
        rintro ⟨h, hn⟩
        have hvn : v = n := Option.some.inj h
        omega
      · rw [if_neg hv]
        constructor
        · intro h
          have hvn : v.toNat = n := Except.ok.inj h
          refine ⟨congrArg some ?_, ?_⟩ <;> omega
        · rintro ⟨h, hn⟩
          have hvn : v = n := Option.some.inj h
          rw [hvn]
          rfl

theorem Reads.plain {w : List Char} {n : Nat} (h : Reads w n) : w ≠ [] ∧ ∀ c ∈ w, IsPlain c := by
  obtain ⟨hne, hchars⟩ := pyInt_chars h.1
  exact ⟨hne, fun c hc => isPlain_of_isIntChar (hchars c hc)⟩

/-- A numeral says what `int` reads, if that reads it. -/
theorem IsNumeral.reads {w : List Char} {n : Nat} (hw : IsNumeral w) :
    Reads w n ↔ w.length ≤ maxStrDigits ∧ decimalValue w = n := by
  unfold Reads
  rw [pyInt_of_isNumeral hw]
  by_cases hlength : w.length ≤ maxStrDigits
  · have hpos := one_le_decimalValue hw
    rw [if_pos hlength, Option.some_inj]
    constructor
    · rintro ⟨h, -⟩
      exact ⟨hlength, by omega⟩
    · rintro ⟨-, h⟩
      exact ⟨by omega, by omega⟩
  · rw [if_neg hlength]
    exact iff_of_false (fun h => by cases h.1) fun h => hlength h.1

/-- A word that is not misread is read exactly as a numeral. -/
theorem reads_iff_of_not_misread {w : List Char} (h : ¬ Misread w) {n : Nat} :
    Reads w n ↔ IsNumeral w ∧ decimalValue w = n := by
  by_cases hw : IsNumeral w
  · have hlength : w.length ≤ maxStrDigits := by
      by_contra hlong
      exact h (.inr ⟨hw, Nat.lt_of_not_le hlong⟩)
    rw [hw.reads]
    exact and_congr_left fun _ => iff_of_true hlength hw
  · exact iff_of_false (fun hreads => h (.inl ⟨hw, n, hreads⟩)) fun hnumeral => hw hnumeral.1

/-- A misread word is read as a number that it does not say, or not read as the number it says. -/
theorem Misread.exists {w : List Char} (h : Misread w) : ∃ n, ¬ (Reads w n ↔ IsNumeral w ∧ decimalValue w = n) := by
  rcases h with ⟨hw, n, hreads⟩ | ⟨hw, hlong⟩
  · exact ⟨n, fun hiff => hw (hiff.mp hreads).1⟩
  · refine ⟨decimalValue w, fun hiff => ?_⟩
    have hlength := (hw.reads.mp (hiff.mpr ⟨hw, rfl⟩)).1
    omega

/-! ## The private commands -/

section Private

variable {w text : List Char} {caseId : String} {body : PrivateCommandBody} {nfkc : String → String}
  {content : String}

/-- The words of the first line, and what comes below it. -/
def PrivateParts (parts : List (List Char)) (w text : List Char) (caseId : String) : PrivateCommandBody → Prop
  | .simple .pull => parts = [PrivateVerb.pull.keyword, caseId.toList, w] ∧ '\n' ∉ text
  | .simple .accept => parts = [PrivateVerb.accept.keyword, caseId.toList, w] ∧ '\n' ∉ text
  | .simple (.reject reason) => isRejectionReason reason.toList = true ∧
      parts = [PrivateVerb.reject.keyword, caseId.toList, w, reason.toList] ∧ '\n' ∉ text
  | .draft body => parts = [PrivateVerb.draft.keyword, caseId.toList, w] ∧ '\n' ∈ text ∧
      afterLine text = body.toList

theorem firstLine_eq_self (h : '\n' ∉ text) : firstLine text = text := by
  induction text with
  | nil => rfl
  | cons c text ih =>
      rw [List.mem_cons, not_or] at h
      have hne : isInLine c = true := decide_eq_true (Ne.symm h.1)
      have hrest := ih h.2
      unfold firstLine at *
      rw [List.takeWhile_cons_of_pos hne, hrest]

theorem lines_of_split {line below : List Char} (h : '\n' ∉ line) :
    firstLine (line ++ '\n' :: below) = line ∧ afterLine (line ++ '\n' :: below) = below := by
  induction line with
  | nil => exact ⟨rfl, rfl⟩
  | cons c line ih =>
      rw [List.mem_cons, not_or] at h
      have hne : isInLine c = true := decide_eq_true (Ne.symm h.1)
      obtain ⟨hfirst, hafter⟩ := ih h.2
      unfold firstLine afterLine at *
      rw [List.cons_append, List.takeWhile_cons_of_pos hne, List.dropWhile_cons_of_pos hne, hfirst, hafter]
      exact ⟨rfl, rfl⟩

theorem text_eq_lines (h : '\n' ∈ text) :
    text = firstLine text ++ '\n' :: afterLine text ∧ '\n' ∉ firstLine text := by
  obtain ⟨line, below, rfl, hline⟩ := List.eq_append_cons_of_mem h
  obtain ⟨hfirst, hafter⟩ := lines_of_split hline
  rw [hfirst, hafter]
  exact ⟨rfl, hline⟩

/-- In a line the blanks between words are the blanks of the words' splitting. -/
theorem spaced_line {words : List (List Char)} {line : List Char} (hnl : '\n' ∉ line) (hcr : '\r' ∉ line) :
    Spaced isLineBlank words line ↔ Spaced isSpace words line := by
  constructor
  · exact fun h => h.mono fun c _ hc => (isLineBlank_iff.mp hc).1
  · refine fun h => h.mono fun c hmem hc => isLineBlank_iff.mpr ⟨hc, ?_, ?_⟩
    · rintro rfl
      exact hnl hmem
    · rintro rfl
      exact hcr hmem

theorem not_mem_of_spaced {words : List (List Char)} {line : List Char} (h : Spaced isLineBlank words line)
    (hwords : ∀ w ∈ words, IsWord isSpace w) : '\n' ∉ line ∧ '\r' ∉ line := by
  have hall : ∀ c ∈ line, c ≠ '\n' ∧ c ≠ '\r' := by
    intro c hc
    rcases h.mem c hc with ⟨w, hw, hmem⟩ | hblank
    · have hspace := (hwords w hw).2 c hmem
      constructor <;>
      · rintro rfl
        revert hspace
        decide
    · exact (isLineBlank_iff.mp hblank).2
  exact ⟨fun h => (hall _ h).1 rfl, fun h => (hall _ h).2 rfl⟩

/-- **A trimmed line has the words that stand in it.** -/
theorem splitWords_line {words : List (List Char)} {line : List Char} (htrim : Trimmed isSpace line)
    (hcr : '\r' ∉ line) (hwords : ∀ w ∈ words, IsWord isSpace w) :
    (splitWords line = words ∧ '\n' ∉ line) ↔ Spaced isLineBlank words line := by
  constructor
  · rintro ⟨hsplit, hnl⟩
    exact (spaced_line hnl hcr).mpr ((words_trimmed htrim).mp hsplit).1
  · intro h
    obtain ⟨hnl, -⟩ := not_mem_of_spaced h hwords
    exact ⟨(words_trimmed htrim).mpr ⟨(spaced_line hnl hcr).mp h, hwords⟩, hnl⟩

theorem splitWords_oneLine {words : List (List Char)} (htrim : Trimmed isSpace text) (hcr : '\r' ∉ text)
    (hwords : ∀ w ∈ words, IsWord isSpace w) :
    (splitWords (firstLine text) = words ∧ '\n' ∉ text) ↔ Spaced isLineBlank words text := by
  rw [← splitWords_line htrim hcr hwords]
  refine and_congr_left fun hnl => ?_
  rw [firstLine_eq_self hnl]

theorem splitWords_lines {words : List (List Char)} {below : List Char} (htrim : Trimmed isSpace text)
    (hcr : '\r' ∉ text) (hwords : ∀ w ∈ words, IsWord isSpace w) :
    (splitWords (firstLine text) = words ∧ '\n' ∈ text ∧ afterLine text = below) ↔
      ∃ line gap, text = (line ++ gap) ++ '\n' :: below ∧ IsGap isLineBlank gap ∧ Spaced isLineBlank words line := by
  constructor
  · rintro ⟨hsplit, hnl, rfl⟩
    obtain ⟨htext, hfirst⟩ := text_eq_lines hnl
    obtain ⟨g, r, hline, hg, hr, htrimmed⟩ := trim_eq_iff.mp (rfl : trim isSpace (firstLine text) = _)
    have hcr' : '\r' ∉ firstLine text := fun h => hcr (htext ▸ List.mem_append_left _ h)
    have hnil : g = [] := by
      cases g with
      | nil => rfl
      | cons c g =>
          have hspace := htrim.1 c (by rw [htext, hline]; rfl)
          rw [hg c List.mem_cons_self] at hspace
          cases hspace
    subst hnil
    rw [List.nil_append] at hline
    refine ⟨trim isSpace (firstLine text), r, by rw [← hline]; exact htext, fun c hc => ?_, ?_⟩
    · refine isLineBlank_iff.mpr ⟨hr c hc, ?_, ?_⟩
      · rintro rfl
        exact hfirst (hline ▸ List.mem_append_right _ hc)
      · rintro rfl
        exact hcr' (hline ▸ List.mem_append_right _ hc)
    · refine (splitWords_line htrimmed (fun h => hcr' (hline ▸ List.mem_append_left _ h)) hwords).mp ⟨?_, ?_⟩
      · exact words_trim.trans hsplit
      · exact fun h => hfirst (hline ▸ List.mem_append_left _ h)
  · rintro ⟨line, gap, rfl, hgap, hspaced⟩
    obtain ⟨hnl, hcr'⟩ := not_mem_of_spaced hspaced hwords
    have hline : '\n' ∉ line ++ gap := by
      intro h
      rcases List.mem_append.mp h with h | h
      · exact hnl h
      · exact (isLineBlank_iff.mp (hgap _ h)).2.1 rfl
    obtain ⟨hfirst, hafter⟩ := lines_of_split hline
    rw [hfirst, hafter]
    refine ⟨words_of_laid (Laid.append_gap (((spaced_line hnl hcr').mp hspaced).laid hwords) ?_), by simp, rfl⟩
    exact fun c hc => (isLineBlank_iff.mp (hgap c hc)).1

/-- **The grammar, word by word.** -/
theorem privateForm_iff (htrim : Trimmed isSpace text) (hcr : '\r' ∉ text) (hcase : IsWord isSpace caseId.toList)
    (hw : IsWord isSpace w) : PrivateForm w text caseId body ↔
      PrivateParts (splitWords (firstLine text)) w text caseId body := by
  have hwords : ∀ verb : PrivateVerb, ∀ v ∈ [verb.keyword, caseId.toList, w], IsWord isSpace v := by
    intro verb
    have hverb := isWord_of_plain (plain_keyword verb).1 (plain_keyword verb).2
    exact List.forall_mem_cons.mpr ⟨hverb, List.forall_mem_cons.mpr ⟨hcase, List.forall_mem_cons.mpr ⟨hw, by simp⟩⟩⟩
  cases body with
  | draft body => exact (splitWords_lines htrim hcr (hwords .draft)).symm
  | simple command =>
    cases command with
    | pull => exact (splitWords_oneLine htrim hcr (hwords .pull)).symm
    | accept => exact (splitWords_oneLine htrim hcr (hwords .accept)).symm
    | reject reason =>
        refine and_congr_right fun hreason => (splitWords_oneLine htrim hcr ?_).symm
        have hplain := plain_of_isRejectionReason hreason
        intro v hv
        rcases List.mem_append.mp (show v ∈ [_, _, _] ++ [reason.toList] from hv) with hv | hv
        · exact hwords .reject v hv
        · rw [List.mem_singleton.mp hv]
          exact isWord_of_plain hplain.1 hplain.2

/-- The version is the third word of the first line. -/
theorem PrivateParts.version {parts : List (List Char)} (h : PrivateParts parts w text caseId body) :
    parts[2]? = some w := by
  cases body with
  | draft body => rw [h.1]; rfl
  | simple command =>
    cases command with
    | pull => rw [h.1]; rfl
    | accept => rw [h.1]; rfl
    | reject reason => rw [h.2.1]; rfl

theorem privateVerb?_eq_some {word : List Char} {verb : PrivateVerb} :
    privateVerb? word = some verb ↔ word = verb.keyword := by
  constructor
  · intro h
    have hfound := List.find?_some (p := fun verb : PrivateVerb => decide (verb.keyword = word)) h
    exact (of_decide_eq_true hfound).symm
  · rintro rfl
    cases verb <;> decide

/-- **What the parser accepts**, word by word. -/
theorem parsePrivateCommand_parts (hnfkc : nfkc content = content) {command : QQPrivateCommand} :
    parsePrivateCommand nfkc content = .ok command ↔ isCaseId command.caseId.toList = true ∧
      ∃ w, Reads w command.expectedVersion ∧
        PrivateParts (splitWords (firstLine (strip (lineEnds content.toList)))) w (strip (lineEnds content.toList))
          command.caseId command.body := by
  unfold parsePrivateCommand
  rw [hnfkc]
  dsimp only
  generalize strip (lineEnds content.toList) = text
  generalize hparts : splitWords (firstLine text) = parts
  constructor
  · intro h
    rcases parts with _ | ⟨keyword, _ | ⟨caseId, _ | ⟨w, rest⟩⟩⟩
    · cases h
    · cases h
    · cases h
    · simp only [fetch_bind_eq_ok, require_bind_eq_ok, decide_eq_true_eq, privateVerb?_eq_some] at h
      obtain ⟨verb, rfl, hlength, hcase, h⟩ := h
      obtain ⟨n, hn, h⟩ := bind_eq_ok.mp h
      rw [readVersion_ok] at hn
      cases verb with
      | reject =>
        obtain ⟨reason, rfl⟩ := List.length_eq_one_iff.mp hlength
        simp only [require_bind_eq_ok, Bool.and_eq_true, Bool.not_eq_true', decide_eq_false_iff_not, List.all_cons,
          List.all_nil, and_true] at h
        obtain ⟨⟨hsep, hreason⟩, h⟩ := h
        cases h
        simp only [String.toList_ofList]
        refine ⟨hcase, w, hn, ?_⟩
        simp only [PrivateParts, String.toList_ofList, List.flatten_singleton]
        exact ⟨hreason, trivial, hsep⟩
      | draft =>
        obtain rfl := List.length_eq_zero_iff.mp hlength
        simp only [require_bind_eq_ok, decide_eq_true_eq] at h
        obtain ⟨hsep, h⟩ := h
        cases h
        simp only [String.toList_ofList]
        refine ⟨hcase, w, hn, ?_⟩
        simp only [PrivateParts, String.toList_ofList]
        exact ⟨trivial, hsep, trivial⟩
      | accept | pull =>
        obtain rfl := List.length_eq_zero_iff.mp hlength
        simp only [require_bind_eq_ok, Bool.not_eq_true', decide_eq_false_iff_not] at h
        obtain ⟨hsep, h⟩ := h
        cases h
        simp only [String.toList_ofList]
        refine ⟨hcase, w, hn, ?_⟩
        simp only [PrivateParts, String.toList_ofList]
        exact ⟨trivial, hsep⟩
  · rintro ⟨hcase, w, hw, h⟩
    rw [← readVersion_ok] at hw
    obtain ⟨caseId, n, body⟩ := command
    have hverb : ∀ verb : PrivateVerb, privateVerb? verb.keyword = some verb := fun _ => privateVerb?_eq_some.mpr rfl
    cases body with
    | draft body =>
      obtain ⟨rfl, hsep, hbody⟩ := h
      refine fetch_bind_eq_ok.mpr ⟨_, hverb .draft, require_bind_eq_ok.mpr ⟨rfl, require_bind_eq_ok.mpr ⟨hcase, ?_⟩⟩⟩
      refine bind_eq_ok.mpr ⟨n, hw, require_bind_eq_ok.mpr ⟨decide_eq_true hsep, ?_⟩⟩
      rw [hbody, String.ofList_toList, String.ofList_toList]
      rfl
    | simple simple =>
      cases simple with
      | reject reason =>
        obtain ⟨hreason, rfl, hsep⟩ := h
        refine fetch_bind_eq_ok.mpr ⟨_, hverb .reject, require_bind_eq_ok.mpr ⟨rfl, require_bind_eq_ok.mpr ⟨hcase, ?_⟩⟩⟩
        refine bind_eq_ok.mpr ⟨n, hw, require_bind_eq_ok.mpr ⟨?_, ?_⟩⟩
        · simp [hsep, hreason]
        · rw [List.flatten_singleton, String.ofList_toList, String.ofList_toList]
          rfl
      | accept =>
        obtain ⟨rfl, hsep⟩ := h
        refine fetch_bind_eq_ok.mpr ⟨_, hverb .accept, require_bind_eq_ok.mpr ⟨rfl, require_bind_eq_ok.mpr ⟨hcase, ?_⟩⟩⟩
        refine bind_eq_ok.mpr ⟨n, hw, require_bind_eq_ok.mpr ⟨?_, ?_⟩⟩
        · rw [decide_eq_false hsep]
          rfl
        · rw [String.ofList_toList]
          rfl
      | pull =>
        obtain ⟨rfl, hsep⟩ := h
        refine fetch_bind_eq_ok.mpr ⟨_, hverb .pull, require_bind_eq_ok.mpr ⟨rfl, require_bind_eq_ok.mpr ⟨hcase, ?_⟩⟩⟩
        refine bind_eq_ok.mpr ⟨n, hw, require_bind_eq_ok.mpr ⟨?_, ?_⟩⟩
        · rw [decide_eq_false hsep]
          rfl
        · rw [String.ofList_toList]
          rfl

theorem not_mem_lineEnds (text : List Char) : '\r' ∉ lineEnds text := by
  intro h
  obtain ⟨c, -, hc⟩ := List.mem_map.mp h
  split at hc
  · cases hc
  · rename_i hne
    exact hne hc

theorem strip_split (s : List Char) :
    ∃ a r, s = a ++ (strip s ++ r) ∧ IsGap isSpace a ∧ IsGap isSpace r ∧ Trimmed isSpace (strip s) :=
  trim_eq_iff.mp rfl

theorem mem_of_mem_strip {c : Char} {s : List Char} (h : c ∈ strip s) : c ∈ s := by
  obtain ⟨a, r, hs, -⟩ := strip_split s
  rw [hs]
  exact List.mem_append_right _ (List.mem_append_left _ h)

/-- The forms that a content has, apart from the version. -/
def PrivateShape (content : String) (w : List Char) (command : String × PrivateCommandBody) : Prop :=
  isCaseId command.1.toList = true ∧ PrivateForm w (strip (lineEnds content.toList)) command.1 command.2

theorem privateShape_parts (content : String) (w : List Char) (hw : IsWord isSpace w)
    (command : String × PrivateCommandBody) : PrivateShape content w command ↔ isCaseId command.1.toList = true ∧
      PrivateParts (splitWords (firstLine (strip (lineEnds content.toList)))) w (strip (lineEnds content.toList))
        command.1 command.2 := by
  refine and_congr_right fun hcase => ?_
  have hplain := plain_of_isCaseId hcase
  exact privateForm_iff trimmed_trim (fun h => not_mem_lineEnds _ (mem_of_mem_strip h))
    (isWord_of_plain hplain.1 hplain.2) hw

/-- **What the parser of the private commands accepts.** -/
theorem parsePrivateCommand_ok (hnfkc : nfkc content = content) {command : QQPrivateCommand} :
    parsePrivateCommand nfkc content = .ok command ↔
      ∃ w, Reads w command.expectedVersion ∧ PrivateShape content w (command.caseId, command.body) := by
  rw [parsePrivateCommand_parts hnfkc]
  constructor
  · rintro ⟨hcase, w, hw, hparts⟩
    exact ⟨w, hw, (privateShape_parts _ _ (isWord_of_plain hw.plain.1 hw.plain.2) _).mpr ⟨hcase, hparts⟩⟩
  · rintro ⟨w, hw, hshape⟩
    obtain ⟨hcase, hparts⟩ := (privateShape_parts _ _ (isWord_of_plain hw.plain.1 hw.plain.2) _).mp hshape
    exact ⟨hcase, w, hw, hparts⟩

theorem canonicalPrivate_iff {command : QQPrivateCommand} : CanonicalPrivate content command ↔
    ∃ w, (IsNumeral w ∧ decimalValue w = command.expectedVersion) ∧
      PrivateShape content w (command.caseId, command.body) := by
  constructor
  · rintro ⟨hcase, w, hw, hvalue, hform⟩
    exact ⟨w, ⟨hw, hvalue⟩, hcase, hform⟩
  · rintro ⟨w, ⟨hw, hvalue⟩, hcase, hform⟩
    exact ⟨hcase, w, hw, hvalue, hform⟩

theorem privateShape_version {w' : List Char} {a b : String × PrivateCommandBody} (hw : IsWord isSpace w)
    (hw' : IsWord isSpace w') (ha : PrivateShape content w a) (hb : PrivateShape content w' b) : w = w' := by
  have hfirst := ((privateShape_parts _ _ hw _).mp ha).2.version
  have hsecond := ((privateShape_parts _ _ hw' _).mp hb).2.version
  exact Option.some.inj (hfirst.symm.trans hsecond)

end Private

/-! ## Where only the version can go wrong -/

section Versions

variable {β : Type} {P : List Char → β → Prop}

theorem Misread.isWord {w : List Char} (h : Misread w) : IsWord isSpace w := by
  rcases h with ⟨-, n, h⟩ | ⟨h, -⟩
  · exact isWord_of_plain h.plain.1 h.plain.2
  · exact isWord_of_plain h.plain.1 h.plain.2

/-- **Reading the version is all there is to compare**, where a text has one version. -/
theorem versions_agree (hunique : ∀ {w w' : List Char} {a b : β}, IsWord isSpace w → IsWord isSpace w' →
    P w a → P w' b → w = w') :
    (∀ a n, (∃ w, Reads w n ∧ P w a) ↔ ∃ w, (IsNumeral w ∧ decimalValue w = n) ∧ P w a) ↔
      ∀ w a, P w a → ¬ Misread w := by
  constructor
  · intro h w a hw hmisread
    obtain ⟨n, hn⟩ := hmisread.exists
    refine hn ⟨fun hreads => ?_, fun hnumeral => ?_⟩
    · obtain ⟨w', hnumeral, hw'⟩ := (h a n).mp ⟨w, hreads, hw⟩
      have hplain := hnumeral.1.plain
      rw [hunique hmisread.isWord (isWord_of_plain hplain.1 hplain.2) hw hw']
      exact hnumeral
    · obtain ⟨w', hreads, hw'⟩ := (h a n).mpr ⟨w, hnumeral, hw⟩
      rw [hunique hmisread.isWord (isWord_of_plain hreads.plain.1 hreads.plain.2) hw hw']
      exact hreads
  · intro h a n
    constructor
    · rintro ⟨w, hreads, hw⟩
      exact ⟨w, (reads_iff_of_not_misread (h w a hw)).mp hreads, hw⟩
    · rintro ⟨w, hnumeral, hw⟩
      exact ⟨w, (reads_iff_of_not_misread (h w a hw)).mpr hnumeral, hw⟩

end Versions

/-! ## The approval in the group -/

section Group

theorem not_isMessageIdChar : isMessageIdChar '!' = false ∧ isMessageIdChar '>' = false := by
  decide

/-- What follows a mention by its id. -/
theorem afterAngleMention?_eq_some {s after : List Char} : afterAngleMention? s = some after ↔
    ∃ bang name, s = '<' :: '@' :: (bang ++ (name ++ '>' :: after)) ∧ (bang = [] ∨ bang = ['!']) ∧ name ≠ [] ∧
      ∀ c ∈ name, isMessageIdChar c = true := by
  constructor
  · intro h
    unfold afterAngleMention? at h
    split at h
    case h_2 => cases h
    case h_1 rest =>
      obtain ⟨bang, name, hbang, hrest, hname⟩ : ∃ bang name, (bang = [] ∨ bang = ['!']) ∧ rest = bang ++ name ∧
          (if rest.head? = some '!' then rest.tail else rest) = name := by
        by_cases hhead : rest.head? = some '!'
        · obtain ⟨tail, rfl⟩ := List.head?_eq_some_iff.mp hhead
          exact ⟨['!'], tail, .inr rfl, rfl, rfl⟩
        · exact ⟨[], rest, .inl rfl, rfl, if_neg hhead⟩
      simp only [hname] at h
      split at h
      case h_2 => cases h
      case h_1 c cs tail htake hdrop =>
        obtain rfl := Option.some.inj h
        refine ⟨bang, c :: cs, ?_, hbang, List.cons_ne_nil _ _, fun d hd => ?_⟩
        · rw [hrest, ← htake, ← hdrop, List.takeWhile_append_dropWhile]
        · rw [← htake] at hd
          exact List.all_eq_true.mp List.all_takeWhile d hd
  · rintro ⟨bang, name, rfl, hbang, hne, hname⟩
    have hstop := not_isMessageIdChar.2
    have htake : (name ++ '>' :: after).takeWhile isMessageIdChar = name := by
      rw [List.takeWhile_append_of_pos hname, List.takeWhile_cons_of_neg (by rw [hstop]; exact Bool.false_ne_true),
        List.append_nil]
    have hdrop : (name ++ '>' :: after).dropWhile isMessageIdChar = '>' :: after := by
      rw [List.dropWhile_append_of_pos hname, List.dropWhile_cons_of_neg (by rw [hstop]; exact Bool.false_ne_true)]
    have hrest : (if (bang ++ (name ++ '>' :: after)).head? = some '!' then (bang ++ (name ++ '>' :: after)).tail
        else bang ++ (name ++ '>' :: after)) = name ++ '>' :: after := by
      rcases hbang with rfl | rfl
      · refine if_neg fun hhead => ?_
        cases name with
        | nil => exact hne rfl
        | cons c name =>
            obtain rfl : c = '!' := Option.some.inj hhead
            have hc := hname '!' List.mem_cons_self
            rw [not_isMessageIdChar.1] at hc
            cases hc
      · rfl
    cases name with
    | nil => exact absurd rfl hne
    | cons c name =>
        unfold afterAngleMention?
        simp only [hrest, htake, hdrop]

/-- A mention begins with no blank. -/
theorem IsMention.head {m : List Char} (h : IsMention m) : ∃ c rest, m = c :: rest ∧ isSpace c = false := by
  rcases h with rfl | ⟨bang, name, rfl, -⟩
  · exact ⟨'@', _, rfl, by decide⟩
  · exact ⟨'<', _, rfl, by decide⟩

/-- **What is left without a leading mention.** -/
theorem dropLeadingMention_iff {s out : List Char} : (dropLeadingMention s = out ∧ out ≠ s) ↔
    ∃ a m g, s = a ++ (m ++ (g ++ out)) ∧ IsGap isSpace a ∧ IsMention m ∧ IsGap isSpace g ∧
      ∀ c ∈ out.head?, isSpace c = false := by
  constructor
  · rintro ⟨h, hne⟩
    obtain ⟨a, hs, ha, -⟩ := exists_gap isSpace s
    unfold dropLeadingMention at h
    dsimp only at h
    split at h
    · rename_i hstart
      obtain ⟨rest, hrest⟩ := List.isPrefixOf_iff_prefix.mp hstart
      rw [← hrest, List.drop_left] at h
      obtain ⟨g, hg, hgap, hhead⟩ := exists_gap isSpace rest
      rw [h] at hg hhead
      refine ⟨a, _, g, ?_, ha, .inl rfl, hgap, hhead⟩
      rw [← hg, hrest]
      exact hs
    · split at h
      · rename_i after hafter
        obtain ⟨bang, name, hbody, hbang, hname, hchars⟩ := afterAngleMention?_eq_some.mp hafter
        obtain ⟨g, hg, hgap, hhead⟩ := exists_gap isSpace after
        rw [h] at hg hhead
        refine ⟨a, '<' :: '@' :: (bang ++ (name ++ ['>'])), g, ?_, ha, .inr ⟨bang, name, rfl, hbang, hname, hchars⟩,
          hgap, hhead⟩
        rw [hs, hbody, ← hg]
        simp
      · exact absurd h.symm hne
  · rintro ⟨a, m, g, hs, ha, hm, hg, hhead⟩
    obtain ⟨c, rest, hcons, hc⟩ := hm.head
    have hbody : s.dropWhile isSpace = m ++ (g ++ out) := by
      rw [hs, dropWhile_gap ha, hcons, List.cons_append,
        List.dropWhile_cons_of_neg (by rw [hc]; exact Bool.false_ne_true)]
    have hout : (g ++ out).dropWhile isSpace = out := by
      rw [dropWhile_gap hg, dropWhile_eq_self hhead]
    constructor
    · unfold dropLeadingMention
      rw [hbody]
      dsimp only
      rcases hm with rfl | ⟨bang, name, rfl, hbang, hname, hchars⟩
      · rw [if_pos (List.isPrefixOf_iff_prefix.mpr (List.prefix_append _ _)), List.drop_left, hout]
      · have hafter : afterAngleMention? ('<' :: '@' :: (bang ++ (name ++ ['>'])) ++ (g ++ out)) = some (g ++ out) := by
          refine afterAngleMention?_eq_some.mpr ⟨bang, name, ?_, hbang, hname, hchars⟩
          simp
        rw [if_neg (by simp [List.isPrefixOf]), hafter]
        exact hout
    · intro hsame
      have hlength := congrArg List.length hs
      rw [← hsame, hcons] at hlength
      simp only [List.length_append, List.length_cons] at hlength
      omega

/-- A content that begins with a mention, without the blanks around it. -/
theorem strip_mention {s m g line : List Char} {a r : List Char} (hs : s = a ++ (m ++ (g ++ (line ++ r))))
    (ha : IsGap isSpace a) (hm : IsMention m) (hr : IsGap isSpace r) (hne : line ≠ [])
    (hlast : ∀ c ∈ line.getLast?, isSpace c = false) : strip s = m ++ (g ++ line) := by
  obtain ⟨c, rest, hcons, hc⟩ := hm.head
  refine trim_eq_iff.mpr ⟨a, r, ?_, ha, hr, ?_, ?_⟩
  · rw [hs]
    simp only [List.append_assoc]
  · intro d hd
    rw [hcons] at hd
    obtain rfl : c = d := Option.some.inj hd
    exact hc
  · intro d hd
    refine hlast d ?_
    obtain ⟨init, l, rfl⟩ := (List.eq_nil_or_concat line).resolve_left hne
    rw [← List.append_assoc, List.concat_eq_append, ← List.append_assoc, List.getLast?_concat] at hd
    rw [List.concat_eq_append, List.getLast?_concat]
    exact hd

def approvalWords (w : List Char) (command : String × String) : List (List Char) :=
  ["WF-APPROVE".toList, command.1.toList, command.2.toList, w]

/-- The form of an approval, apart from the version. -/
def GroupShape (gap : Char → Bool) (content : String) (w : List Char) (command : String × String) : Prop :=
  (isRequestId command.1.toList = true ∧ isHashPrefix command.2.toList = true) ∧
    GroupForm gap w (strip content.toList) command.1 command.2

variable {nfkc : String → String} {content : String} {w : List Char} {command : String × String}

theorem isWord_approvalWords (hids : isRequestId command.1.toList = true ∧ isHashPrefix command.2.toList = true)
    (hw : IsWord isSpace w) : ∀ v ∈ approvalWords w command, IsWord isSpace v := by
  have hkeyword : IsWord isSpace "WF-APPROVE".toList :=
    isWord_of_plain (by decide) (isPlain_of_all (by decide))
  have hrequest := plain_of_isRequestId hids.1
  have hstart := plain_of_isHashPrefix hids.2
  refine List.forall_mem_cons.mpr ⟨hkeyword, List.forall_mem_cons.mpr ⟨isWord_of_plain hrequest.1 hrequest.2, ?_⟩⟩
  exact List.forall_mem_cons.mpr ⟨isWord_of_plain hstart.1 hstart.2, List.forall_mem_cons.mpr ⟨hw, by simp⟩⟩

theorem groupShape_words (hw : IsWord isSpace w) : GroupShape isSpace content w command ↔
    (isRequestId command.1.toList = true ∧ isHashPrefix command.2.toList = true) ∧
      dropLeadingMention content.toList ≠ content.toList ∧
      splitWords (strip (dropLeadingMention content.toList)) = approvalWords w command := by
  refine and_congr_right fun hids => ?_
  have hwords := isWord_approvalWords hids hw
  constructor
  · rintro ⟨m, g, line, htext, hm, hg, hspaced⟩
    obtain ⟨a, r, hs, ha, hr, -⟩ := strip_split content.toList
    rw [htext] at hs
    have hline := (hspaced.trimmed hwords).1
    have hne := (hspaced.trimmed hwords).2
    have hhead : ∀ c ∈ (line ++ r).head?, isSpace c = false := by
      intro c hc
      rw [List.head?_append_of_ne_nil _ hne] at hc
      exact hline.1 c hc
    have hsplit : content.toList = a ++ (m ++ (g ++ (line ++ r))) := by
      rw [hs]
      simp only [List.append_assoc]
    obtain ⟨hdrop, hshort⟩ := dropLeadingMention_iff.mpr ⟨a, m, g, hsplit, ha, hm, hg, hhead⟩
    rw [hdrop]
    refine ⟨hshort, words_trim.trans (words_of_laid ?_)⟩
    exact Laid.append_gap (hspaced.laid hwords) hr
  · rintro ⟨hne, hsplit⟩
    obtain ⟨a, m, g, hs, ha, hm, hg, -⟩ := dropLeadingMention_iff.mp ⟨rfl, hne⟩
    obtain ⟨g', r, hout, hg', hr, htrimmed⟩ := strip_split (dropLeadingMention content.toList)
    obtain ⟨hspaced, -⟩ := (words_trimmed htrimmed).mp hsplit
    refine ⟨m, g ++ g', strip (dropLeadingMention content.toList), ?_, hm, hg.append hg', hspaced⟩
    refine strip_mention ?_ ha hm hr (hspaced.trimmed hwords).2 htrimmed.2
    rw [List.append_assoc, ← hout]
    exact hs

theorem groupShape_version {w' : List Char} {a b : String × String} (hw : IsWord isSpace w) (hw' : IsWord isSpace w')
    (ha : GroupShape isSpace content w a) (hb : GroupShape isSpace content w' b) : w = w' := by
  have hfirst := ((groupShape_words hw).mp ha).2.2
  have hsecond := ((groupShape_words hw').mp hb).2.2
  exact Option.some.inj (congrArg (·[3]?) (hfirst.symm.trans hsecond))

/-- **What the parser of approvals accepts.** -/
theorem parseGroupApproval_ok (hnfkc : nfkc content = content) {command : GroupApprovalWords} :
    parseGroupApproval nfkc content = .ok command ↔ ∃ w, Reads w command.expectedVersion ∧
      GroupShape isSpace content w (command.approvalRequestId, command.candidateHashPrefix) := by
  unfold parseGroupApproval
  rw [hnfkc]
  dsimp only
  constructor
  · intro h
    obtain ⟨hne, h⟩ := require_bind_eq_ok.mp h
    split at h
    case h_2 => cases h
    case h_1 keyword requestId hashPrefix w hsplit =>
      simp only [require_bind_eq_ok, decide_eq_true_eq, Bool.and_eq_true] at h
      obtain ⟨rfl, hids, h⟩ := h
      obtain ⟨n, hn, h⟩ := bind_eq_ok.mp h
      cases h
      rw [readVersion_ok] at hn
      refine ⟨w, hn, (groupShape_words (isWord_of_plain hn.plain.1 hn.plain.2)).mpr ⟨?_, of_decide_eq_true hne, ?_⟩⟩
      · simp only [String.toList_ofList]
        exact hids
      · simp only [approvalWords, String.toList_ofList]
        exact hsplit
  · rintro ⟨w, hw, hshape⟩
    obtain ⟨hids, hne, hsplit⟩ := (groupShape_words (isWord_of_plain hw.plain.1 hw.plain.2)).mp hshape
    refine require_bind_eq_ok.mpr ⟨decide_eq_true hne, ?_⟩
    rw [hsplit]
    refine require_bind_eq_ok.mpr ⟨rfl, require_bind_eq_ok.mpr ⟨by simpa using hids, ?_⟩⟩
    refine bind_eq_ok.mpr ⟨_, readVersion_ok.mpr hw, ?_⟩
    rw [String.ofList_toList, String.ofList_toList]
    rfl

/-- The approval goes over several lines. -/
def LineBroken (content : String) : Prop := ∃ c ∈ dropLeadingMention (strip content.toList), isLineEnd c = true

/-- The grammar has the approvals on one line. -/
theorem groupShape_blank (hw : IsWord isSpace w) :
    GroupShape isLineBlank content w command ↔ GroupShape isSpace content w command ∧ ¬ LineBroken content := by
  unfold GroupShape LineBroken
  refine (and_congr_right fun hids => ?_).trans and_assoc.symm
  have hwords := isWord_approvalWords hids hw
  have hdropped : ∀ {gap : Char → Bool} {m g line : List Char}, strip content.toList = m ++ (g ++ line) →
      IsMention m → IsGap isSpace g → Spaced gap (approvalWords w command) line →
      dropLeadingMention (strip content.toList) = line := by
    intro gap m g line htext hm hg hspaced
    refine (dropLeadingMention_iff.mpr ⟨[], m, g, htext, isGap_nil, hm, hg, ?_⟩).1
    exact (hspaced.trimmed hwords).1.1
  constructor
  · rintro ⟨m, g, line, htext, hm, hg, hspaced⟩
    obtain ⟨hnl, hcr⟩ := not_mem_of_spaced hspaced hwords
    refine ⟨⟨m, g, line, htext, hm, hg, (spaced_line hnl hcr).mp hspaced⟩, ?_⟩
    rw [hdropped htext hm hg hspaced]
    rintro ⟨c, hc, hend⟩
    simp only [isLineEnd, Bool.or_eq_true, decide_eq_true_eq] at hend
    rcases hend with rfl | rfl
    · exact hnl hc
    · exact hcr hc
  · rintro ⟨⟨m, g, line, htext, hm, hg, hspaced⟩, hbroken⟩
    rw [hdropped htext hm hg hspaced] at hbroken
    refine ⟨m, g, line, htext, hm, hg, (spaced_line ?_ ?_).mpr hspaced⟩
    · exact fun h => hbroken ⟨_, h, by decide⟩
    · exact fun h => hbroken ⟨_, h, by decide⟩

end Group

/-! ## The request for the model's help -/

section Assist

variable {nfkc : String → String} {content caseId : String} {w : List Char} {n : Nat}

/-- The only spelling that the pattern has. -/
def assistText (caseId : String) (w : List Char) : List Char := "WF-ASSIST ".toList ++ (caseId.toList ++ ' ' :: w)

theorem assistMatch?_eq_some {s c : List Char} : assistMatch? s = some (c, w) ↔
    (isCaseId c = true ∧ IsNumeral w) ∧ s = "WF-ASSIST ".toList ++ (c ++ ' ' :: w) := by
  unfold assistMatch?
  dsimp only
  constructor
  · intro h
    split at h
    case h_2 => cases h
    case h_1 version hdrop =>
      split at h
      case isFalse => cases h
      case isTrue hmatch =>
        obtain ⟨hstart, hcase, hnumeral⟩ := hmatch
        obtain ⟨rest, rfl⟩ := List.isPrefixOf_iff_prefix.mp hstart
        rw [List.drop_left] at h hdrop hcase
        cases h
        refine ⟨⟨hcase, hnumeral⟩, congrArg _ ?_⟩
        rw [← hdrop, List.takeWhile_append_dropWhile]
  · rintro ⟨⟨hcase, hnumeral⟩, rfl⟩
    have hc : ∀ d ∈ c, (d ≠ ' ' : Bool) = true := by
      intro d hd
      refine decide_eq_true ?_
      rintro rfl
      have hplain := (plain_of_isCaseId hcase).2 ' ' hd
      exact absurd hplain.1 (by decide)
    rw [List.drop_left, List.takeWhile_append_of_pos hc, List.dropWhile_append_of_pos hc]
    simp [hcase, hnumeral]

theorem strip_filter {p : Char → Bool} {s : List Char} (hp : ∀ c, isSpace c = false → p c = true) :
    strip (s.filter p) = (strip s).filter p := by
  obtain ⟨a, r, hs, ha, hr, hhead, hlast⟩ := strip_split s
  refine trim_eq_iff.mpr ⟨a.filter p, r.filter p, ?_, ?_, ?_, ?_, ?_⟩
  · conv_lhs => rw [hs]
    rw [List.filter_append, List.filter_append]
  · exact fun c hc => ha c (List.mem_of_mem_filter hc)
  · exact fun c hc => hr c (List.mem_of_mem_filter hc)
  · intro c hc
    cases htext : strip s with
    | nil => rw [htext] at hc; cases hc
    | cons d rest =>
        rw [htext] at hc hhead
        have hd := hhead d rfl
        rw [List.filter_cons_of_pos (hp d hd)] at hc
        obtain rfl : d = c := Option.some.inj hc
        exact hd
  · intro c hc
    rcases List.eq_nil_or_concat (strip s) with htext | ⟨init, d, htext⟩
    · rw [htext] at hc; cases hc
    · rw [htext, List.concat_eq_append] at hc hlast
      have hd := hlast d (List.getLast?_concat)
      rw [List.filter_append, List.filter_cons_of_pos (hp d hd), List.filter_nil, List.getLast?_concat] at hc
      obtain rfl : d = c := Option.some.inj hc
      exact hd

theorem not_mem_assistText (hw : IsNumeral w) (hcase : isCaseId caseId.toList = true) : '\n' ∉ assistText caseId w := by
  have hlabel : '\n' ∉ "WF-ASSIST ".toList := by decide
  have hplain := plain_of_isCaseId hcase
  unfold assistText
  generalize "WF-ASSIST ".toList = label at hlabel ⊢
  intro h
  rcases List.mem_append.mp h with h | h
  · exact hlabel h
  rcases List.mem_append.mp h with h | h
  · exact absurd (hplain.2 _ h).1 (by decide)
  rcases List.mem_cons.mp h with h | h
  · revert h
    decide
  · exact absurd (hw.plain.2 _ h).1 (by decide)

/-- What is matched: the trimmed content without its carriage returns. -/
def withoutReturns (content : String) : List Char := (strip content.toList).filter (· ≠ '\r')

/-- **What the parser of the requests for help accepts.** -/
theorem parseAssistCommand_ok (hnfkc : nfkc content = content) :
    parseAssistCommand nfkc content = .ok (caseId, n) ↔ ∃ w, (IsNumeral w ∧ w.length ≤ maxStrDigits ∧
      decimalValue w = n) ∧ isCaseId caseId.toList = true ∧ withoutReturns content = assistText caseId w := by
  have htext : strip (content.toList.filter (· ≠ '\r')) = withoutReturns content := by
    refine strip_filter fun c hc => decide_eq_true ?_
    rintro rfl
    revert hc
    decide
  unfold parseAssistCommand
  rw [hnfkc]
  dsimp only
  rw [htext]
  constructor
  · intro h
    obtain ⟨-, h⟩ := require_bind_eq_ok.mp h
    obtain ⟨⟨c, w⟩, hmatch, h⟩ := fetch_bind_eq_ok.mp h
    obtain ⟨⟨hcase, hnumeral⟩, hspelling⟩ := assistMatch?_eq_some.mp hmatch
    obtain ⟨v, hv, h⟩ := fetch_bind_eq_ok.mp h
    rw [pyInt_of_isNumeral hnumeral] at hv
    split at hv
    case isFalse => cases hv
    case isTrue hlength =>
      obtain rfl := Option.some.inj hv
      obtain ⟨rfl, rfl⟩ := Prod.mk.inj (Except.ok.inj h)
      have hlist : (String.ofList c).toList = c := String.toList_ofList
      refine ⟨w, ⟨hnumeral, hlength, rfl⟩, ?_, ?_⟩
      · rw [hlist]
        exact hcase
      · unfold assistText
        rw [hlist]
        exact hspelling
  · rintro ⟨w, ⟨hnumeral, hlength, rfl⟩, hcase, hspelling⟩
    have hmatch := assistMatch?_eq_some.mpr ⟨⟨hcase, hnumeral⟩, hspelling⟩
    have hline : '\n' ∉ withoutReturns content := by
      intro h
      rw [hspelling] at h
      exact not_mem_assistText hnumeral hcase h
    refine require_bind_eq_ok.mpr ⟨decide_eq_true hline, fetch_bind_eq_ok.mpr ⟨_, hmatch, ?_⟩⟩
    refine fetch_bind_eq_ok.mpr ⟨(decimalValue w : Int), ?_, ?_⟩
    · rw [pyInt_of_isNumeral hnumeral, if_pos hlength]
    · rw [String.ofList_toList]
      rfl

/-- A canonical request has no carriage return in it. -/
theorem AssistForm.facts (hw : IsNumeral w) (hcase : isCaseId caseId.toList = true)
    (h : AssistForm w (strip content.toList) caseId) : '\r' ∉ strip content.toList ∧
      splitWords (strip content.toList) = ["WF-ASSIST".toList, caseId.toList, w] := by
  have hplain := plain_of_isCaseId hcase
  have hwords : ∀ v ∈ ["WF-ASSIST".toList, caseId.toList, w], IsWord isSpace v := by
    refine List.forall_mem_cons.mpr ⟨isWord_of_plain (by decide) (isPlain_of_all (by decide)), ?_⟩
    refine List.forall_mem_cons.mpr ⟨isWord_of_plain hplain.1 hplain.2, ?_⟩
    exact List.forall_mem_cons.mpr ⟨isWord_of_plain hw.plain.1 hw.plain.2, by simp⟩
  obtain ⟨hnl, hcr⟩ := not_mem_of_spaced h hwords
  exact ⟨hcr, (words_trimmed trimmed_trim).mpr ⟨(spaced_line hnl hcr).mp h, hwords⟩⟩

/-- The spelling that the pattern has is canonical. -/
theorem assistForm_of_eq (h : strip content.toList = assistText caseId w) :
    AssistForm w (strip content.toList) caseId := by
  have hblank : IsGap isLineBlank [' '] := by
    intro c hc
    rw [List.mem_singleton.mp hc]
    decide
  rw [h]
  exact ⟨[' '], _, rfl, List.cons_ne_nil _ _, hblank, [' '], _, rfl, List.cons_ne_nil _ _, hblank, rfl⟩

/-- A request is spelled with single blanks and is not too long, and a content with carriage returns in it is no
    request without them. -/
def AssistSpelled (content : String) : Prop :=
  (∀ w caseId, IsNumeral w → isCaseId caseId.toList = true → AssistForm w (strip content.toList) caseId →
    strip content.toList = assistText caseId w ∧ w.length ≤ maxStrDigits) ∧
  ('\r' ∈ strip content.toList → ∀ w caseId, IsNumeral w → w.length ≤ maxStrDigits →
    isCaseId caseId.toList = true → withoutReturns content ≠ assistText caseId w)

theorem withoutReturns_eq (h : '\r' ∉ strip content.toList) : withoutReturns content = strip content.toList := by
  refine List.filter_eq_self.mpr fun c hc => decide_eq_true ?_
  rintro rfl
  exact h hc

/-- **The parser accepts the grammar's requests** where they are spelled as it has them. -/
theorem assist_agrees (hnfkc : nfkc content = content) :
    (∀ command, parseAssistCommand nfkc content = .ok command ↔ CanonicalAssist content command) ↔
      AssistSpelled content := by
  constructor
  · intro h
    constructor
    · intro w caseId hw hcase hform
      obtain ⟨hcr, hsplit⟩ := hform.facts hw hcase
      obtain ⟨w', ⟨hw', hlength, -⟩, -, htext⟩ :=
        (parseAssistCommand_ok hnfkc).mp ((h (caseId, decimalValue w)).mpr ⟨hcase, w, hw, rfl, hform⟩)
      rw [withoutReturns_eq hcr] at htext
      obtain ⟨-, hsplit'⟩ := (assistForm_of_eq htext).facts hw' hcase
      obtain rfl : w = w' := Option.some.inj (congrArg (·[2]?) (hsplit.symm.trans hsplit'))
      exact ⟨htext, hlength⟩
    · intro hmem w caseId hw hlength hcase htext
      have hparsed := (parseAssistCommand_ok hnfkc).mpr ⟨w, ⟨hw, hlength, rfl⟩, hcase, htext⟩
      obtain ⟨-, w', hw', -, hform⟩ := (h _).mp hparsed
      exact (hform.facts hw' hcase).1 hmem
  · rintro ⟨hspelling, hreturns⟩ ⟨caseId, n⟩
    rw [parseAssistCommand_ok hnfkc]
    constructor
    · rintro ⟨w, ⟨hw, hlength, hvalue⟩, hcase, htext⟩
      by_cases hmem : '\r' ∈ strip content.toList
      · exact absurd htext (hreturns hmem w caseId hw hlength hcase)
      · rw [withoutReturns_eq hmem] at htext
        exact ⟨hcase, w, hw, hvalue, assistForm_of_eq htext⟩
    · rintro ⟨hcase, w, hw, hvalue, hform⟩
      obtain ⟨htext, hlength⟩ := hspelling w caseId hw hcase hform
      refine ⟨w, ⟨hw, hlength, hvalue⟩, hcase, ?_⟩
      rw [withoutReturns_eq (hform.facts hw hcase).1]
      exact htext

end Assist

/-! ## Written commands -/

section Render

variable {nfkc : String → String}

/-- The words with one blank between them. -/
def row (words : List (List Char)) : List Char := List.intercalate [' '] words

theorem spaced_row (words : List (List Char)) : Spaced isLineBlank words (row words) := by
  induction words with
  | nil => rfl
  | cons w words ih =>
      cases words with
      | nil => exact List.intercalate_singleton
      | cons w' words =>
          refine ⟨[' '], row (w' :: words), ?_, List.cons_ne_nil _ _, fun c hc => ?_, ih⟩
          · unfold row
            rw [List.intercalate_cons_cons, List.append_assoc]
          · rw [List.mem_singleton.mp hc]
            decide

/-- The canonical spelling of a private command. -/
def renderPrivate (command : QQPrivateCommand) : String :=
  let version := numeral command.expectedVersion
  .ofList (match command.body with
    | .simple .pull => row [PrivateVerb.pull.keyword, command.caseId.toList, version]
    | .simple .accept => row [PrivateVerb.accept.keyword, command.caseId.toList, version]
    | .simple (.reject reason) => row [PrivateVerb.reject.keyword, command.caseId.toList, version, reason.toList]
    | .draft body => row [PrivateVerb.draft.keyword, command.caseId.toList, version] ++ '\n' :: body.toList)

def renderAssist (command : String × Nat) : String :=
  .ofList (row ["WF-ASSIST".toList, command.1.toList, numeral command.2])

/-- An approval behind a mention. -/
def renderGroup (mention : List Char) (command : GroupApprovalWords) : String :=
  .ofList (row [mention, "WF-APPROVE".toList, command.approvalRequestId.toList, command.candidateHashPrefix.toList,
    numeral command.expectedVersion])

/-- What a command carries besides its case and version: a reason token, or an ASCII body that ends in no blank. -/
def ValidBody : PrivateCommandBody → Prop
  | .simple .pull => True
  | .simple .accept => True
  | .simple (.reject reason) => isRejectionReason reason.toList = true
  | .draft body => IsAscii body.toList ∧ '\r' ∉ body.toList ∧
      ∃ c, body.toList.getLast? = some c ∧ isSpace c = false

def ValidPrivate (command : QQPrivateCommand) : Prop :=
  isCaseId command.caseId.toList = true ∧ 1 ≤ command.expectedVersion ∧ ValidBody command.body

def ValidAssist (command : String × Nat) : Prop := isCaseId command.1.toList = true ∧ 1 ≤ command.2

def ValidGroup (command : GroupApprovalWords) : Prop :=
  (isRequestId command.approvalRequestId.toList = true ∧ isHashPrefix command.candidateHashPrefix.toList = true) ∧
    1 ≤ command.expectedVersion

theorem IsPlain.isAscii {c : Char} (h : IsPlain c) : c.toNat < 128 := by
  unfold IsPlain at h
  omega

/-- A row of plain words is an ASCII text without line ends. -/
theorem row_plain {words : List (List Char)} (h : ∀ w ∈ words, ∀ c ∈ w, IsPlain c) :
    ∀ c ∈ row words, c = ' ' ∨ IsPlain c := by
  intro c hc
  rcases mem_intercalate hc with rfl | ⟨w, hw, hmem⟩
  · exact .inl rfl
  · exact .inr (h w hw c hmem)

theorem row_facts {words : List (List Char)} (h : ∀ w ∈ words, ∀ c ∈ w, IsPlain c) :
    IsAscii (row words) ∧ '\r' ∉ row words := by
  constructor
  · intro c hc
    rcases row_plain h c hc with rfl | hplain
    · decide
    · exact hplain.isAscii
  · intro hmem
    rcases row_plain h _ hmem with heq | hplain
    · revert heq
      decide
    · exact absurd hplain.1 (by decide)

/-- Reading back the written version. -/
theorem reads_numeral {n : Nat} (hn : 1 ≤ n) : Reads (numeral n) n ↔ n < 10 ^ maxStrDigits := by
  rw [(isNumeral_numeral hn).reads, length_numeral_le, decimalValue_numeral]
  exact and_iff_left rfl

theorem strip_row {w : List Char} {words : List (List Char)}
    (h : ∀ v ∈ w :: words, v ≠ [] ∧ ∀ c ∈ v, IsPlain c) : strip (row (w :: words)) = row (w :: words) := by
  have htrimmed := ((spaced_row (w :: words)).trimmed fun v hv => isWord_of_plain (h v hv).1 (h v hv).2).1
  exact trim_eq_iff.mpr ⟨[], [], by simp, isGap_nil, isGap_nil, htrimmed⟩

/-- The spelling of a private command is canonical, with its own version in it. -/
theorem renderPrivate_shape {command : QQPrivateCommand} (h : ValidPrivate command) :
    PrivateShape (renderPrivate command) (numeral command.expectedVersion) (command.caseId, command.body) ∧
      IsAscii (renderPrivate command).toList := by
  obtain ⟨hcase, hpos, hbody⟩ := h
  have hversion := (isNumeral_numeral hpos).plain
  have hwords : ∀ verb : PrivateVerb, ∀ v ∈ [verb.keyword, command.caseId.toList, numeral command.expectedVersion],
      v ≠ [] ∧ ∀ c ∈ v, IsPlain c := fun verb =>
    List.forall_mem_cons.mpr ⟨plain_keyword verb, List.forall_mem_cons.mpr ⟨plain_of_isCaseId hcase,
      List.forall_mem_cons.mpr ⟨hversion, by simp⟩⟩⟩
  -- a command on one line is its own trimmed text
  have hline : ∀ {w : List Char} {words : List (List Char)}, (∀ v ∈ w :: words, v ≠ [] ∧ ∀ c ∈ v, IsPlain c) →
      strip (lineEnds (row (w :: words))) = row (w :: words) ∧ IsAscii (row (w :: words)) := by
    intro w words hplain
    have hfacts := row_facts fun v hv => (hplain v hv).2
    have hends : lineEnds (row (w :: words)) = row (w :: words) := replaceCr_eq hfacts.2
    rw [hends]
    exact ⟨strip_row hplain, hfacts.1⟩
  unfold PrivateShape renderPrivate
  dsimp only
  rw [String.toList_ofList]
  cases hkind : command.body with
  | simple simple =>
    rw [hkind] at hbody
    cases simple with
    | pull =>
      obtain ⟨htext, hascii⟩ := hline (hwords .pull)
      rw [htext]
      exact ⟨⟨hcase, spaced_row _⟩, hascii⟩
    | accept =>
      obtain ⟨htext, hascii⟩ := hline (hwords .accept)
      rw [htext]
      exact ⟨⟨hcase, spaced_row _⟩, hascii⟩
    | reject reason =>
      have hall : ∀ v ∈ [PrivateVerb.reject.keyword, command.caseId.toList, numeral command.expectedVersion,
          reason.toList], v ≠ [] ∧ ∀ c ∈ v, IsPlain c := by
        intro v hv
        rcases List.mem_append.mp (show v ∈ [_, _, _] ++ [reason.toList] from hv) with hv | hv
        · exact hwords .reject v hv
        · rw [List.mem_singleton.mp hv]
          exact plain_of_isRejectionReason hbody
      obtain ⟨htext, hascii⟩ := hline hall
      rw [htext]
      exact ⟨⟨hcase, hbody, spaced_row _⟩, hascii⟩
  | draft body =>
    rw [hkind] at hbody
    obtain ⟨hascii, hcr, l, hlast, hl⟩ := hbody
    obtain ⟨hrowascii, hrowcr⟩ := row_facts fun v hv => (hwords .draft v hv).2
    have hspaced := spaced_row [PrivateVerb.draft.keyword, command.caseId.toList, numeral command.expectedVersion]
    have htrimmed := (hspaced.trimmed fun v hv => isWord_of_plain (hwords .draft v hv).1 (hwords .draft v hv).2)
    generalize row [PrivateVerb.draft.keyword, command.caseId.toList, numeral command.expectedVersion] = line
      at hspaced htrimmed hrowascii hrowcr ⊢
    have hends : lineEnds (line ++ '\n' :: body.toList) = line ++ '\n' :: body.toList := by
      refine replaceCr_eq fun hmem => ?_
      rcases List.mem_append.mp hmem with hmem | hmem
      · exact hrowcr hmem
      rcases List.mem_cons.mp hmem with heq | hmem
      · revert heq
        decide
      · exact hcr hmem
    have hstrip : strip (line ++ '\n' :: body.toList) = line ++ '\n' :: body.toList := by
      refine trim_eq_iff.mpr ⟨[], [], by simp, isGap_nil, isGap_nil, fun c hc => ?_, fun c hc => ?_⟩
      · rw [List.head?_append_of_ne_nil _ htrimmed.2] at hc
        exact htrimmed.1.1 c hc
      · have hend : (line ++ '\n' :: body.toList).getLast? = some l := by
          rw [List.getLast?_append, List.getLast?_cons, hlast]
          rfl
        rw [hend] at hc
        obtain rfl : l = c := Option.some.inj hc
        exact hl
    rw [hends, hstrip]
    refine ⟨⟨hcase, line, [], by rw [List.append_nil], isGap_nil, hspaced⟩, fun c hc => ?_⟩
    rcases List.mem_append.mp hc with hc | hc
    · exact hrowascii c hc
    rcases List.mem_cons.mp hc with rfl | hc
    · decide
    · exact hascii c hc

/-- The spelling of an approval is canonical, with its own version in it. -/
theorem renderGroup_shape {command : GroupApprovalWords} {mention : List Char} (hmention : IsMention mention)
    (hascii : IsAscii mention) (h : ValidGroup command) :
    GroupShape isSpace (renderGroup mention command) (numeral command.expectedVersion)
      (command.approvalRequestId, command.candidateHashPrefix) ∧ IsAscii (renderGroup mention command).toList := by
  obtain ⟨hids, hpos⟩ := h
  have hversion := (isNumeral_numeral hpos).plain
  have hkeyword : ∀ c ∈ "WF-APPROVE".toList, IsPlain c := isPlain_of_all (by decide)
  have hplain : ∀ v ∈ approvalWords (numeral command.expectedVersion)
      (command.approvalRequestId, command.candidateHashPrefix), ∀ c ∈ v, IsPlain c :=
    List.forall_mem_cons.mpr ⟨hkeyword, List.forall_mem_cons.mpr ⟨(plain_of_isRequestId hids.1).2,
      List.forall_mem_cons.mpr ⟨(plain_of_isHashPrefix hids.2).2, List.forall_mem_cons.mpr ⟨hversion.2, by simp⟩⟩⟩⟩
  have hwords : ∀ v ∈ approvalWords (numeral command.expectedVersion)
      (command.approvalRequestId, command.candidateHashPrefix), IsWord isSpace v :=
    isWord_approvalWords hids (isWord_of_plain hversion.1 hversion.2)
  have hspaced := spaced_row (approvalWords (numeral command.expectedVersion)
    (command.approvalRequestId, command.candidateHashPrefix))
  have hrow := (row_facts hplain).1
  have htrimmed := hspaced.trimmed hwords
  have htext : (renderGroup mention command).toList = mention ++ ([' '] ++ row (approvalWords
      (numeral command.expectedVersion) (command.approvalRequestId, command.candidateHashPrefix))) := by
    unfold renderGroup row approvalWords
    rw [String.toList_ofList, List.intercalate_cons_cons, List.append_assoc]
  have hgap : IsGap isSpace [' '] := by
    intro c hc
    rw [List.mem_singleton.mp hc]
    decide
  constructor
  · refine ⟨hids, mention, [' '], _, ?_, hmention, hgap, hspaced.mono fun c _ hc => (isLineBlank_iff.mp hc).1⟩
    refine strip_mention ?_ isGap_nil hmention isGap_nil htrimmed.2 htrimmed.1.2
    rw [List.append_nil]
    exact htext
  · rw [htext]
    intro c hc
    rcases List.mem_append.mp hc with hc | hc
    · exact hascii c hc
    rcases List.mem_append.mp hc with hc | hc
    · rw [List.mem_singleton.mp hc]
      decide
    · exact hrow c hc

theorem renderAssist_text {command : String × Nat} (h : ValidAssist command) :
    strip (renderAssist command).toList = assistText command.1 (numeral command.2) ∧
      IsAscii (renderAssist command).toList := by
  obtain ⟨hcase, hpos⟩ := h
  have hversion := (isNumeral_numeral hpos).plain
  have hkeyword : "WF-ASSIST".toList ≠ [] ∧ ∀ c ∈ "WF-ASSIST".toList, IsPlain c :=
    ⟨by decide, isPlain_of_all (by decide)⟩
  have hplain : ∀ v ∈ ["WF-ASSIST".toList, command.1.toList, numeral command.2], v ≠ [] ∧ ∀ c ∈ v, IsPlain c :=
    List.forall_mem_cons.mpr ⟨hkeyword, List.forall_mem_cons.mpr ⟨plain_of_isCaseId hcase,
      List.forall_mem_cons.mpr ⟨hversion, by simp⟩⟩⟩
  have hfacts := row_facts fun v hv => (hplain v hv).2
  unfold renderAssist
  rw [String.toList_ofList, strip_row hplain]
  refine ⟨?_, hfacts.1⟩
  have hlabel : "WF-ASSIST ".toList = "WF-ASSIST".toList ++ [' '] := rfl
  unfold row assistText
  rw [hlabel, List.intercalate_cons_cons, List.intercalate_cons_cons, List.intercalate_singleton]
  simp only [List.append_assoc, List.singleton_append]

end Render

/-! ## The parsers and the grammar -/

section Claims

variable (nfkc : String → String)

/-- **The private commands.** The parser accepts what the grammar has, where no version is misread. -/
theorem private_agrees {content : String} (hcontent : nfkc content = content) :
    (∀ command, parsePrivateCommand nfkc content = .ok command ↔ CanonicalPrivate content command) ↔
      ∀ w command, PrivateShape content w command → ¬ Misread w := by
  rw [← versions_agree (P := PrivateShape content) privateShape_version]
  constructor
  · intro h command n
    have hiff := h ⟨command.1, n, command.2⟩
    rw [parsePrivateCommand_ok hcontent, canonicalPrivate_iff] at hiff
    exact hiff
  · intro h command
    rw [parsePrivateCommand_ok hcontent, canonicalPrivate_iff]
    exact h _ _

/-- **The approvals.** The parser accepts what the grammar has, where no version is misread and no command goes
    over several lines. -/
theorem group_agrees {content : String} (hcontent : nfkc content = content) :
    (∀ command, parseGroupApproval nfkc content = .ok command ↔ CanonicalGroup content command) ↔
      ∀ w command, GroupShape isSpace content w command →
        (¬ LineBroken content → ¬ Misread w) ∧ (LineBroken content → ∀ n, ¬ Reads w n) := by
  have hcanonical : ∀ command : GroupApprovalWords, CanonicalGroup content command ↔ ∃ w,
      (IsNumeral w ∧ decimalValue w = command.expectedVersion) ∧
        GroupShape isSpace content w (command.approvalRequestId, command.candidateHashPrefix) ∧
        ¬ LineBroken content := by
    intro command
    constructor
    · rintro ⟨hids, w, hw, hvalue, hform⟩
      exact ⟨w, ⟨hw, hvalue⟩, (groupShape_blank (isWord_of_plain hw.plain.1 hw.plain.2)).mp ⟨hids, hform⟩⟩
    · rintro ⟨w, ⟨hw, hvalue⟩, hshape⟩
      obtain ⟨hids, hform⟩ := (groupShape_blank (isWord_of_plain hw.plain.1 hw.plain.2)).mpr hshape
      exact ⟨hids, w, hw, hvalue, hform⟩
  by_cases hbroken : LineBroken content
  · have hnone : ∀ command, ¬ CanonicalGroup content command := by
      intro command h
      obtain ⟨_, -, -, hline⟩ := (hcanonical command).mp h
      exact hline hbroken
    constructor
    · intro h w command hshape
      refine ⟨fun hline => absurd hbroken hline, fun _ n hreads => hnone ⟨command.1, command.2, n⟩ ?_⟩
      exact (h _).mp ((parseGroupApproval_ok hcontent).mpr ⟨w, hreads, hshape⟩)
    · intro h command
      refine iff_of_false (fun hparse => ?_) (hnone command)
      obtain ⟨w, hreads, hshape⟩ := (parseGroupApproval_ok hcontent).mp hparse
      exact (h w _ hshape).2 hbroken _ hreads
  · have hversions := versions_agree (P := GroupShape isSpace content) groupShape_version
    constructor
    · intro h w command hshape
      refine ⟨fun _ => hversions.mp (fun a n => ?_) w command hshape, fun hline => absurd hline hbroken⟩
      have hiff := h ⟨a.1, a.2, n⟩
      rw [parseGroupApproval_ok hcontent, hcanonical] at hiff
      exact hiff.trans (exists_congr fun w => and_congr_right fun _ => and_iff_left hbroken)
    · intro h command
      rw [parseGroupApproval_ok hcontent, hcanonical]
      have hiff := hversions.mpr (fun w command hshape => (h w command hshape).1 hbroken)
        (command.approvalRequestId, command.candidateHashPrefix) command.expectedVersion
      exact hiff.trans (exists_congr fun w => and_congr_right fun _ => (and_iff_left hbroken).symm)

/-- **The commands that are parsed.** On an ASCII content each parser accepts the commands that the grammar has,
    with their fields, exactly where

    * no version is misread, for the private commands;
    * the request is spelled as its pattern has it, for the requests for help;
    * no version is misread and the command does not go over several lines, for the approvals.

    A command's own spelling is parsed back exactly where its version is not too long for `int`. -/
theorem commands_parsed_iff (hnfkc : ∀ s : String, IsAscii s.toList → nfkc s = s) :
    (∀ content : String, IsAscii content.toList →
      ((∀ command, parsePrivateCommand nfkc content = .ok command ↔ CanonicalPrivate content command) ↔
        ∀ w command, PrivateShape content w command → ¬ Misread w) ∧
      ((∀ command, parseAssistCommand nfkc content = .ok command ↔ CanonicalAssist content command) ↔
        AssistSpelled content) ∧
      ((∀ command, parseGroupApproval nfkc content = .ok command ↔ CanonicalGroup content command) ↔
        ∀ w command, GroupShape isSpace content w command →
          (¬ LineBroken content → ¬ Misread w) ∧ (LineBroken content → ∀ n, ¬ Reads w n))) ∧
    (∀ command, ValidPrivate command → (parsePrivateCommand nfkc (renderPrivate command) = .ok command ↔
      command.expectedVersion < 10 ^ maxStrDigits)) ∧
    (∀ command, ValidAssist command → (parseAssistCommand nfkc (renderAssist command) = .ok command ↔
      command.2 < 10 ^ maxStrDigits)) ∧
    ∀ mention command, IsMention mention → IsAscii mention → ValidGroup command →
      (parseGroupApproval nfkc (renderGroup mention command) = .ok command ↔
        command.expectedVersion < 10 ^ maxStrDigits) := by
  refine ⟨fun content hascii => ?_, fun command hvalid => ?_, fun command hvalid => ?_,
    fun mention command hmention hascii hvalid => ?_⟩
  · have hcontent := hnfkc content hascii
    exact ⟨private_agrees nfkc hcontent, assist_agrees hcontent, group_agrees nfkc hcontent⟩
  · obtain ⟨hshape, hascii⟩ := renderPrivate_shape hvalid
    have hversion := (isNumeral_numeral hvalid.2.1).plain
    rw [parsePrivateCommand_ok (hnfkc _ hascii), ← reads_numeral hvalid.2.1]
    constructor
    · rintro ⟨w, hreads, hw⟩
      rw [privateShape_version (isWord_of_plain hversion.1 hversion.2)
        (isWord_of_plain hreads.plain.1 hreads.plain.2) hshape hw]
      exact hreads
    · exact fun hreads => ⟨_, hreads, hshape⟩
  · obtain ⟨htext, hascii⟩ := renderAssist_text hvalid
    obtain ⟨hcase, hpos⟩ := hvalid
    have hnumeral := isNumeral_numeral hpos
    have hform := assistForm_of_eq htext
    obtain ⟨hcr, hsplit⟩ := hform.facts hnumeral hcase
    obtain ⟨caseId, n⟩ := command
    rw [parseAssistCommand_ok (hnfkc _ hascii), ← length_numeral_le, withoutReturns_eq hcr]
    constructor
    · rintro ⟨w, ⟨hw, hlength, -⟩, -, htext'⟩
      obtain ⟨-, hsplit'⟩ := (assistForm_of_eq htext').facts hw hcase
      obtain rfl : numeral n = w := Option.some.inj (congrArg (·[2]?) (hsplit.symm.trans hsplit'))
      exact hlength
    · exact fun hlength => ⟨_, ⟨hnumeral, hlength, decimalValue_numeral n⟩, hcase, htext⟩
  · obtain ⟨hshape, hrender⟩ := renderGroup_shape hmention hascii hvalid
    have hversion := (isNumeral_numeral hvalid.2).plain
    rw [parseGroupApproval_ok (hnfkc _ hrender), ← reads_numeral hvalid.2]
    constructor
    · rintro ⟨w, hreads, hw⟩
      rw [groupShape_version (isWord_of_plain hversion.1 hversion.2)
        (isWord_of_plain hreads.plain.1 hreads.plain.2) hshape hw]
      exact hreads
    · exact fun hreads => ⟨_, hreads, hshape⟩

/-- A case id of the shortest kind. -/
def shortCaseId : String := "case_aaaaaaaaaaaaaaaaaaaaaaaa"

theorem third_pull_read_back : parsePrivateCommand id (renderPrivate ⟨shortCaseId, 3, .simple .pull⟩) =
    .ok ⟨shortCaseId, 3, .simple .pull⟩ := by
  refine ((commands_parsed_iff id fun _ _ => rfl).2.1 ⟨shortCaseId, 3, .simple .pull⟩
    ⟨by decide, by decide, trivial⟩).mpr ?_
  show 3 < 10 ^ maxStrDigits
  have hone : 10 ^ 1 ≤ 10 ^ maxStrDigits := Nat.pow_le_pow_right (by decide) (by decide)
  omega

/-- `+1` is read as a version. -/
theorem signed_version_accepted : ¬ ∀ content : String, IsAscii content.toList → ∀ command,
    parsePrivateCommand id content = .ok command ↔ CanonicalPrivate content command := by
  intro hall
  have htext : strip (lineEnds "WF-PULL case_aaaaaaaaaaaaaaaaaaaaaaaa +1".toList) =
      row [PrivateVerb.pull.keyword, shortCaseId.toList, "+1".toList] := by
    decide
  have hform : PrivateForm "+1".toList (strip (lineEnds "WF-PULL case_aaaaaaaaaaaaaaaaaaaaaaaa +1".toList))
      shortCaseId (.simple .pull) := by
    rw [htext]
    exact spaced_row _
  have hascii : IsAscii "WF-PULL case_aaaaaaaaaaaaaaaaaaaaaaaa +1".toList := by
    have hletters : ("WF-PULL case_aaaaaaaaaaaaaaaaaaaaaaaa +1".toList.all fun c =>
        decide (c.toNat < 128)) = true := by decide
    exact fun c hc => of_decide_eq_true (List.all_eq_true.mp hletters c hc)
  have hagrees := (private_agrees id rfl).mp (hall "WF-PULL case_aaaaaaaaaaaaaaaaaaaaaaaa +1" hascii)
  exact hagrees "+1".toList (shortCaseId, .simple .pull) ⟨by decide, hform⟩
    (.inl ⟨by decide, 1, by unfold Reads; decide⟩)

end Claims

end WeFlow
