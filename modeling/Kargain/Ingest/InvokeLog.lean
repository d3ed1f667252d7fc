/-
  Kargain.Ingest.InvokeLog — log-invoke-stack.ts and parse-transaction-ingest.ts.

  A transaction's events are lines of its log.  Which program a line is
  from, the ingest process finds out by walking a stack of invocations;
  whether lines are missing it guesses from the size of what is left.  The
  runtime drops the lines that do not fit its budget, and logs what still
  fits after them.

  `walk_lines`: the walk over the text finds the innermost invocation that
  the lines show; on a whole log that is the program which wrote the line
  (`innermost_lines`).  Main result: `ingest_right_iff`, when a transaction
  is ingested right.

  Left out: the ids of the rows, and the details of a refusal beyond its
  reason.
-/
import Mathlib
import Kargain.Base.LogBudget
import Kargain.Ingest.Projection

namespace Kargain.InvokeLog

open Kargain.Projection (Text trim)
open Kargain.LogBudget

/-! ## §1. Lines. -/

/-- `[1-9A-HJ-NP-Za-km-z]`. -/
def isBase58 (c : Char) : Bool :=
  ('1' ≤ c && c ≤ '9') || ('A' ≤ c && c ≤ 'H') || ('J' ≤ c && c ≤ 'N') || ('P' ≤ c && c ≤ 'Z') ||
    ('a' ≤ c && c ≤ 'k') || ('m' ≤ c && c ≤ 'z')

/-- `^Program ([1-9A-HJ-NP-Za-km-z]{32,44})` before something that is no base58: the program and
    the rest of the line. -/
def matchProgram (line : Text) : Option (Text × Text) :=
  if "Program ".toList.isPrefixOf line then
    let rest := line.drop 8
    let program := rest.takeWhile isBase58
    if 32 ≤ program.length ∧ program.length ≤ 44 then some (program, rest.dropWhile isBase58)
    else none
  else none

/-- `invoke \[(\d+)\]`, after the program. -/
def isInvoke (rest : Text) : Bool :=
  " invoke [".toList.isPrefixOf rest &&
    ((rest.drop 9).takeWhile Char.isDigit ≠ [] &&
      [']'].isPrefixOf ((rest.drop 9).dropWhile Char.isDigit))

/-- `PROGRAM_DATA_PREFIX`. -/
def programDataPrefix : Text := "Program data: ".toList

/-- What the walk makes of a line. -/
inductive Mark
  | invoke (program : Text)
  | ended (program : Text)
  | data
  | plain
deriving DecidableEq

/-- The tests of the walk, in their order. -/
def mark (line : Text) : Mark :=
  let otherwise := if programDataPrefix.isPrefixOf line then .data else .plain
  match matchProgram line with
  | some (program, rest) =>
    if isInvoke rest then .invoke program
    else if " success".toList.isPrefixOf rest then .ended program
    else if " failed:".toList.isPrefixOf rest then .ended program
    else otherwise
  | none => otherwise

/-- `popStack`; the top of the stack is the head of the list. -/
def popStack (stack : List Text) (programId : Text) : List Text :=
  match stack with
  | [] => []
  | top :: below =>
    if top = programId then below
    else if programId ∈ stack then (stack.dropWhile (· ≠ programId)).tail
    else stack

/-- The walk: for every line, the program on top of the stack if it is a data line. -/
def emittingPrograms : List Text → List Text → List (Option Text)
  | [], _ => []
  | line :: lines, stack =>
    match mark line with
    | .invoke program => none :: emittingPrograms lines (program :: stack)
    | .ended program => none :: emittingPrograms lines (popStack stack program)
    | .data => stack.head? :: emittingPrograms lines stack
    | .plain => none :: emittingPrograms lines stack

structure ProgramDataLineRef where
  logIndex : ℕ
  emittingProgram : Text
  sourceLine : Text

/-- The lines of `parseProgramDataFromLogMessages`. -/
def parseProgramDataFromLogMessages (logs : List Text) (followed : Text → Bool) :
    List ProgramDataLineRef :=
  ((logs.zip (emittingPrograms logs [])).zipIdx).filterMap fun ((line, program), logIndex) =>
    program.bind fun p => if followed p then some ⟨logIndex, p, line⟩ else none

/-- `SOLANA_LOG_LIMITS`. -/
def maxLogDataBytes : ℕ := 10000

def maxLogLines : ℕ := 64

/-- `Buffer.byteLength(line, "utf8")`. -/
def byteLength (line : Text) : ℕ := (line.map Char.utf8Size).sum

def isLogTruncationSuspect (logs : List Text) : Bool :=
  maxLogLines ≤ logs.length || maxLogDataBytes ≤ bytes byteLength logs

/-! ## §2. A transaction. -/

structure FollowedProgram where
  slug : Text
  programId : Text

/-- The event manifest and Node's base64. -/
structure Manifest where
  contractNameForProgramSlug : Text → Option Text
  lookupEventForProgram : List UInt8 → Text → Option (Text × Text)
  bufferFrom : Text → List UInt8

/-- Where a transaction is. -/
structure TransactionRef where
  chainId : ℕ
  slot : ℕ
  txIndexInBlock : ℕ
  txSignature : Text

structure StructuredPayload where
  tx : TransactionRef
  logIndex : ℕ
  emittingProgram : Text
  discriminator : List UInt8
  eventName : Text
  contractName : Text
  payloadBytes : List UInt8

inductive RefusalKind
  | logTruncated
  | unknownDiscriminator
  | payloadMalformed
deriving DecidableEq

structure IngestRefusal where
  refusalKind : RefusalKind
  tx : TransactionRef
  logIndex : Option ℕ
  emittingProgram : Option Text
  discriminator : Option (List UInt8)
  reason : String

structure ParsedTransactionIngest where
  payloads : List StructuredPayload
  refusals : List IngestRefusal

/-- `/^[A-Za-z0-9+/]+=*$/`. -/
def isBase64 (s : Text) : Bool :=
  let inAlphabet (c : Char) : Bool := c.isAlphanum || c = '+' || c = '/'
  s.takeWhile inAlphabet ≠ [] && (s.dropWhile inAlphabet).all (· = '=')

/-- What an observed line comes to. -/
inductive Reading
  | payload (discriminator : List UInt8) (eventName contractName : Text) (payloadBytes : List UInt8)
  | malformed (reason : String)
  | unknown (discriminator : List UInt8)
  | skipped
deriving DecidableEq

section Parse

variable (manifest : Manifest) (followedPrograms : List FollowedProgram)

/-- `contractNameForProgramId`: of two entries of a program the later one counts. -/
def contractNameForProgramId (programId : Text) : Option Text :=
  (followedPrograms.reverse.find? (·.programId = programId)).bind fun p =>
    if p.slug = [] then none else manifest.contractNameForProgramSlug p.slug

def followed (programId : Text) : Bool := followedPrograms.any (·.programId = programId)

/-- The body of the loop: `programDataPayloadFromLogLine`, `decodeProgramDataBase64`,
    `splitDiscriminatorAndBody`, `contractNameForProgramId` and `lookupEventForProgram`. -/
def readLine (emittingProgram sourceLine : Text) : Reading :=
  let trimmed := trim (sourceLine.drop programDataPrefix.length)
  if trimmed = [] then .malformed "empty Program data payload"
  else if ¬ isBase64 trimmed then .malformed "Program data base64 alphabet invalid"
  else
    let payloadBytes := manifest.bufferFrom trimmed
    if payloadBytes = [] then .malformed "Program data decoded to zero bytes"
    else if payloadBytes.length < 8 then .malformed "payload_shorter_than_discriminator"
    else
      match contractNameForProgramId manifest followedPrograms emittingProgram with
      | none => .skipped
      | some contractName =>
        match manifest.lookupEventForProgram (payloadBytes.take 8) contractName with
        | none => .unknown (payloadBytes.take 8)
        | some (contract, event) => .payload (payloadBytes.take 8) event contract payloadBytes

def payloadOf (tx : TransactionRef) (obs : ProgramDataLineRef) : Option StructuredPayload :=
  match readLine manifest followedPrograms obs.emittingProgram obs.sourceLine with
  | .payload discriminator eventName contractName payloadBytes =>
    some ⟨tx, obs.logIndex, obs.emittingProgram, discriminator, eventName, contractName,
      payloadBytes⟩
  | _ => none

def refusalOf (tx : TransactionRef) (obs : ProgramDataLineRef) : Option IngestRefusal :=
  match readLine manifest followedPrograms obs.emittingProgram obs.sourceLine with
  | .malformed reason =>
    some ⟨.payloadMalformed, tx, some obs.logIndex, some obs.emittingProgram, none, reason⟩
  | .unknown discriminator =>
    some ⟨.unknownDiscriminator, tx, some obs.logIndex, some obs.emittingProgram,
      some discriminator, ""⟩
  | _ => none

def parseTransactionForIngest (tx : TransactionRef) (logMessages : List Text) (metaErr : Bool) :
    ParsedTransactionIngest :=
  if metaErr then ⟨[], [⟨.logTruncated, tx, none, none, none, "transaction_failed"⟩]⟩
  else if isLogTruncationSuspect logMessages then
    ⟨[], [⟨.logTruncated, tx, none, none, none, "log_budget_exceeded"⟩]⟩
  else
    let lines := parseProgramDataFromLogMessages logMessages (followed followedPrograms)
    ⟨lines.filterMap (payloadOf manifest followedPrograms tx),
      lines.filterMap (refusalOf manifest followedPrograms tx)⟩

end Parse

/-! ## §3. What a transaction logs. -/

/-- The address of a program, in base58. -/
structure ProgramId where
  text : Text
  base58 : ∀ c ∈ text, isBase58 c = true
  long : 32 ≤ text.length
  short : text.length ≤ 44
deriving DecidableEq

/-- A line that is no mark to the walk. -/
abbrev PlainLine := { line : Text // mark line = .plain }

/-- What happens in an invocation, in its order, or at the top of a transaction. -/
inductive Steps
  | done
  | log (line : PlainLine) (rest : Steps)
  | data (payload : Text) (rest : Steps)
  | invoke (program : ProgramId) (inner rest : Steps)

/-- What a line says: of a data line, the program that wrote it, if it is not the top of the
    transaction. -/
inductive Said
  | opened (p : ProgramId)
  | closed (p : ProgramId)
  | data (emitter : Option ProgramId)
  | other
deriving DecidableEq

structure Line where
  text : Text
  said : Said
deriving DecidableEq

/-- The program a line is an event of, if it is one. -/
def Line.emitter (l : Line) : Option ProgramId :=
  match l.said with
  | .data emitter => emitter
  | _ => none

def invokeLine (p : ProgramId) (depth : ℕ) : Text :=
  "Program ".toList ++ (p.text ++ (" invoke [".toList ++ (Nat.toDigits 10 depth ++ [']'])))

def successLine (p : ProgramId) : Text := "Program ".toList ++ (p.text ++ " success".toList)

/-- The lines, in an invocation of `emitter` at a depth. -/
def Steps.lines : Steps → ℕ → Option ProgramId → List Line
  | .done, _, _ => []
  | .log line rest, depth, emitter => ⟨line.1, .other⟩ :: rest.lines depth emitter
  | .data payload rest, depth, emitter =>
    ⟨programDataPrefix ++ payload, .data emitter⟩ :: rest.lines depth emitter
  | .invoke p inner rest, depth, emitter =>
    ⟨invokeLine p depth, .opened p⟩ :: (inner.lines (depth + 1) (some p) ++
      ⟨successLine p, .closed p⟩ :: rest.lines depth emitter)

/-- The lines of a transaction, numbered. -/
def Steps.numbered (steps : Steps) : List (Line × ℕ) := (steps.lines 1 none).zipIdx

def notice : Line × ℕ := (⟨"Log truncated".toList, .other⟩, 0)

def lineSize (l : Line × ℕ) : ℕ := byteLength l.1.text

/-- What the runtime logs of a transaction. -/
def Steps.logged (steps : Steps) : List (Line × ℕ) :=
  collect lineSize maxLogDataBytes notice steps.numbered 0 false

/-- The lines it leaves out. -/
def Steps.dropped (steps : Steps) : List (Line × ℕ) :=
  LogBudget.dropped lineSize maxLogDataBytes steps.numbered 0

/-- At every data line, the innermost of the invocations that the lines before it have opened and
    not closed.  One that closes without having been opened changes nothing; one that closes around
    others closes these as well. -/
def innermost : List Line → List ProgramId → List (Option ProgramId)
  | [], _ => []
  | l :: lines, opened =>
    match l.said with
    | .opened p => none :: innermost lines (p :: opened)
    | .closed p =>
      none :: innermost lines (if p ∈ opened then (opened.dropWhile (· ≠ p)).tail else opened)
    | .data _ => opened.head? :: innermost lines opened
    | .other => none :: innermost lines opened

/-- The lines of the log, each with the innermost invocation the log shows there. -/
def Steps.shown (steps : Steps) : List ((Line × ℕ) × Option ProgramId) :=
  steps.logged.zip (innermost (steps.logged.map Prod.fst) [])

/-! ## §4. Marks. -/

theorem matchProgram_append (p : ProgramId) {rest : Text} (c : Char) (hc : isBase58 c = false) :
    matchProgram ("Program ".toList ++ (p.text ++ c :: rest)) = some (p.text, c :: rest) := by
  have htake : (p.text ++ c :: rest).takeWhile isBase58 = p.text := by
    rw [List.takeWhile_append_of_pos p.base58, List.takeWhile_cons_of_neg (by simp [hc]),
      List.append_nil]
  have hdrop : (p.text ++ c :: rest).dropWhile isBase58 = c :: rest := by
    rw [List.dropWhile_append_of_pos p.base58, List.dropWhile_cons_of_neg (by simp [hc])]
  have hrest : ("Program ".toList ++ (p.text ++ c :: rest)).drop 8 = p.text ++ c :: rest := rfl
  unfold matchProgram
  rw [if_pos (by simp)]
  simp only [hrest, htake, hdrop]
  exact if_pos ⟨p.long, p.short⟩

theorem mark_invokeLine (p : ProgramId) (depth : ℕ) : mark (invokeLine p depth) = .invoke p.text := by
  have hdigits : ∀ c ∈ Nat.toDigits 10 depth, c.isDigit = true :=
    fun c hc => Nat.isDigit_of_mem_toDigits (by decide) (by decide) hc
  have hmatch : matchProgram (invokeLine p depth) =
      some (p.text, " invoke [".toList ++ (Nat.toDigits 10 depth ++ [']'])) :=
    matchProgram_append p ' ' (by decide)
  have htail : (" invoke [".toList ++ (Nat.toDigits 10 depth ++ [']'])).drop 9 =
      Nat.toDigits 10 depth ++ [']'] := rfl
  have hinvoke : isInvoke (" invoke [".toList ++ (Nat.toDigits 10 depth ++ [']'])) = true := by
    unfold isInvoke
    rw [htail, List.takeWhile_append_of_pos hdigits, List.dropWhile_append_of_pos hdigits]
    simp [Nat.toDigits_ne_nil]
  unfold mark
  rw [hmatch]
  exact if_pos hinvoke

theorem mark_successLine (p : ProgramId) : mark (successLine p) = .ended p.text := by
  have hmatch : matchProgram (successLine p) = some (p.text, " success".toList) :=
    matchProgram_append p ' ' (by decide)
  unfold mark
  rw [hmatch]
  rfl

theorem mark_data (payload : Text) : mark (programDataPrefix ++ payload) = .data := rfl

/-- What a program logs with `msg!` is a plain line. -/
theorem mark_log (text : Text) : mark ("Program log: ".toList ++ text) = .plain := rfl

/-- An address has no colon, so no line that starts with one is a data line. -/
theorem not_data (p : ProgramId) (rest : Text) :
    programDataPrefix.isPrefixOf ("Program ".toList ++ (p.text ++ rest)) = false := by
  obtain ⟨program, base58, long, short⟩ := p
  match program with
  | [] | [_] | [_, _] | [_, _, _] | [_, _, _, _] => simp at long
  | a :: b :: c :: d :: e :: program =>
    have he : ':' ≠ e := by
      rintro rfl
      exact absurd (base58 ':' (by simp)) (by decide)
    have hstart : programDataPrefix = "Program ".toList ++ ['d', 'a', 't', 'a', ':', ' '] := rfl
    rw [Bool.eq_false_iff, ne_eq, List.isPrefixOf_iff_prefix, hstart,
      List.prefix_append_right_inj]
    simp [he]

/-- So is what it has consumed. -/
theorem mark_consumed (p : ProgramId) (text : Text) :
    mark ("Program ".toList ++ (p.text ++ (" consumed ".toList ++ text))) = .plain := by
  have hmatch : matchProgram ("Program ".toList ++ (p.text ++ (" consumed ".toList ++ text))) =
      some (p.text, " consumed ".toList ++ text) := matchProgram_append p ' ' (by decide)
  have hdata := not_data p (" consumed ".toList ++ text)
  have hinvoke : isInvoke (" consumed ".toList ++ text) = false := rfl
  have hsuccess : " success".toList.isPrefixOf (" consumed ".toList ++ text) = false := rfl
  have hfailed : " failed:".toList.isPrefixOf (" consumed ".toList ++ text) = false := rfl
  unfold mark
  rw [hmatch, hdata]
  simp only [hinvoke, hsuccess, hfailed, Bool.false_eq_true, if_false]

/-! ## §5. The walk over a log. -/

/-- The mark a line should have. -/
def Said.mark : Said → Mark
  | .opened p => .invoke p.text
  | .closed p => .ended p.text
  | .data _ => .data
  | .other => .plain

theorem mark_lines (steps : Steps) (depth : ℕ) (emitter : Option ProgramId) :
    ∀ l ∈ steps.lines depth emitter, mark l.text = l.said.mark := by
  induction steps generalizing depth emitter with
  | done => exact fun l hl => by cases hl
  | log line rest ih => exact List.forall_mem_cons.mpr ⟨line.2, ih depth emitter⟩
  | data payload rest ih => exact List.forall_mem_cons.mpr ⟨mark_data payload, ih depth emitter⟩
  | invoke p inner rest ihinner ihrest =>
    refine List.forall_mem_cons.mpr ⟨mark_invokeLine p depth, ?_⟩
    refine List.forall_mem_append.mpr ⟨ihinner (depth + 1) (some p), ?_⟩
    exact List.forall_mem_cons.mpr ⟨mark_successLine p, ihrest depth emitter⟩

theorem ProgramId.text_injective {p q : ProgramId} (h : p.text = q.text) : p = q := by
  cases p
  cases q
  cases h
  rfl

theorem popStack_map (p : ProgramId) (opened : List ProgramId) :
    popStack (opened.map (·.text)) p.text =
      (if p ∈ opened then (opened.dropWhile (· ≠ p)).tail else opened).map (·.text) := by
  cases opened with
  | nil => rfl
  | cons top below =>
    have hmem : p.text ∈ (top :: below).map (·.text) ↔ p ∈ top :: below :=
      List.mem_map_of_injective fun _ _ => ProgramId.text_injective
    have htop : top.text = p.text ↔ top = p := ⟨ProgramId.text_injective, congrArg _⟩
    have hdrop : ((top :: below).map (·.text)).dropWhile (· ≠ p.text) =
        ((top :: below).dropWhile (· ≠ p)).map (·.text) := by
      rw [List.dropWhile_map]
      congr 2
      funext q
      exact decide_eq_decide.mpr (not_congr ⟨ProgramId.text_injective, congrArg _⟩)
    show (if top.text = p.text then below.map (·.text)
      else if p.text ∈ (top :: below).map (·.text) then
        (((top :: below).map (·.text)).dropWhile (· ≠ p.text)).tail
      else (top :: below).map (·.text)) = _
    simp only [hdrop, hmem, htop]
    by_cases heq : top = p
    · subst heq
      simp
    · rw [if_neg heq]
      split
      · exact List.map_tail.symm
      · rfl

/-- **The walk finds what the log shows.** -/
theorem walk_lines {lines : List Line} (opened : List ProgramId)
    (h : ∀ l ∈ lines, mark l.text = l.said.mark) :
    emittingPrograms (lines.map (·.text)) (opened.map (·.text)) =
      (innermost lines opened).map (Option.map (·.text)) := by
  induction lines generalizing opened with
  | nil => rfl
  | cons l lines ih =>
    obtain ⟨hl, hlines⟩ := List.forall_mem_cons.mp h
    rw [List.map_cons, emittingPrograms, innermost, hl]
    cases l.said with
    | opened p => exact congrArg _ (ih (p :: opened) hlines)
    | closed p =>
      show none :: emittingPrograms _ (popStack (opened.map (·.text)) p.text) = _
      rw [popStack_map, ih _ hlines]
      rfl
    | data emitter =>
      show (opened.map (·.text)).head? :: _ = _
      rw [ih opened hlines, List.head?_map]
      rfl
    | other => exact congrArg _ (ih opened hlines)

/-- **A whole log shows the emitters**: over the lines of a tree, and back where it was after. -/
theorem innermost_lines (steps : Steps) (depth : ℕ) (emitter : Option ProgramId)
    (opened : List ProgramId) (more : List Line) (h : opened.head? = emitter) :
    innermost (steps.lines depth emitter ++ more) opened =
      (steps.lines depth emitter).map Line.emitter ++ innermost more opened := by
  induction steps generalizing depth emitter opened more with
  | done => rfl
  | log line rest ih => exact congrArg _ (ih depth emitter opened more h)
  | data payload rest ih =>
    show opened.head? :: _ = emitter :: _
    rw [h]
    exact congrArg _ (ih depth emitter opened more h)
  | invoke p inner rest ihinner ihrest =>
    simp only [Steps.lines, List.map_cons, List.map_append, List.cons_append, List.append_assoc]
    show none :: innermost _ (p :: opened) = _
    rw [ihinner (depth + 1) (some p) (p :: opened) _ rfl]
    show none :: (_ ++ none :: innermost _ (if p ∈ p :: opened then _ else _)) = _
    rw [if_pos List.mem_cons_self, List.dropWhile_cons_of_neg (by simp), List.tail_cons,
      ihrest depth emitter opened more h]
    rfl

/-! ## §6. Transactions ingested right. -/

section Ingest

variable (manifest : Manifest) (followedPrograms : List FollowedProgram) (tx : TransactionRef)
  (steps : Steps)

/-- An event as it is ingested: the program that wrote it and the number of its line, the program
    it is taken for an event of, and what its payload reads as. -/
abbrev Entry := Option (ProgramId × ℕ) × Text × Reading

/-- The program that wrote a line, if it is an event, and the number of the line. -/
def tag (l : Line × ℕ) : Option (ProgramId × ℕ) := l.1.emitter.map (·, l.2)

/-- What comes of a line that is taken for an event of a program. -/
def entryAs (l : Line × ℕ) (program : Text) : Option Entry :=
  if followed followedPrograms program then
    match readLine manifest followedPrograms program l.1.text with
    | .payload d e c b => some (tag l, program, .payload d e c b)
    | _ => none
  else none

/-- What should come of a line. -/
def expected (l : Line × ℕ) : Option Entry :=
  l.1.emitter.bind fun p => entryAs manifest followedPrograms l p.text

def ingest : ParsedTransactionIngest :=
  parseTransactionForIngest manifest followedPrograms tx (steps.logged.map (·.1.text)) false

/-- The event a payload row was made of. -/
def entryOf (payload : StructuredPayload) : Entry :=
  (steps.logged[payload.logIndex]?.bind tag, payload.emittingProgram,
    .payload payload.discriminator payload.eventName payload.contractName payload.payloadBytes)

/-- Every event of a followed program is a payload of that program, in the order of the events,
    and there is no other payload. -/
def Right : Prop :=
  (ingest manifest followedPrograms tx steps).payloads.map (entryOf steps) =
    steps.numbered.filterMap (expected manifest followedPrograms)

def Refused : Prop :=
  ∃ r ∈ (ingest manifest followedPrograms tx steps).refusals, r.refusalKind = .logTruncated

/-- A transaction is ingested right, or refused for its log; and one whose log is whole is
    ingested right and not refused. -/
def IngestedRight : Prop :=
  (Right manifest followedPrograms tx steps ∨ Refused manifest followedPrograms tx steps) ∧
    (steps.dropped = [] →
      Right manifest followedPrograms tx steps ∧ ¬ Refused manifest followedPrograms tx steps)

/-- What the log shows of a line. -/
def shownEntry (x : (Line × ℕ) × Option ProgramId) : Option Entry :=
  x.2.bind fun p => entryAs manifest followedPrograms x.1 p.text

variable {manifest followedPrograms tx steps}

theorem entryAs_tag {l : Line × ℕ} {program : Text} {v : Entry}
    (h : entryAs manifest followedPrograms l program = some v) : v.1 = tag l := by
  unfold entryAs at h
  split at h
  · split at h
    · cases h
      rfl
    · cases h
  · cases h

theorem expected_tag {l : Line × ℕ} {v : Entry}
    (h : expected manifest followedPrograms l = some v) : v.1 = tag l ∧ tag l ≠ none := by
  unfold expected at h
  obtain ⟨p, hp, h⟩ := Option.bind_eq_some_iff.mp h
  refine ⟨entryAs_tag h, ?_⟩
  simp [tag, hp]

theorem length_innermost (lines : List Line) (opened : List ProgramId) :
    (innermost lines opened).length = lines.length := by
  induction lines generalizing opened with
  | nil => rfl
  | cons line lines ih =>
    unfold innermost
    split <;> simp [ih]

theorem shown_fst : steps.shown.map Prod.fst = steps.logged := by
  unfold Steps.shown
  refine List.map_fst_zip ?_
  rw [length_innermost, List.length_map]

/-- Every line of the log has the mark it should have. -/
theorem mark_logged : ∀ l ∈ steps.logged.map Prod.fst, mark l.text = l.said.mark := by
  intro l hl
  obtain ⟨⟨line, i⟩, hline, rfl⟩ := List.mem_map.mp hl
  rcases mem_collect hline with h | h
  · cases h
    rfl
  · have hnumbered := (kept_dropped_perm steps.numbered 0).subset (List.mem_append_left _ h)
    exact mark_lines steps 1 none line (List.fst_mem_of_mem_zipIdx hnumbered)

/-- **The payloads** are what the log shows. -/
theorem payloads_eq (h : isLogTruncationSuspect (steps.logged.map (·.1.text)) = false) :
    (ingest manifest followedPrograms tx steps).payloads.map (entryOf steps) =
      steps.shown.filterMap (shownEntry manifest followedPrograms) := by
  have htexts : steps.logged.map (·.1.text) = (steps.logged.map Prod.fst).map (·.text) := by
    rw [List.map_map]
    rfl
  have hzip : (steps.logged.map (·.1.text)).zip
      (emittingPrograms (steps.logged.map (·.1.text)) []) =
        steps.shown.map (Prod.map (·.1.text) (Option.map (·.text))) := by
    have hwalk : emittingPrograms ((steps.logged.map Prod.fst).map (·.text)) [] =
        (innermost (steps.logged.map Prod.fst) []).map (Option.map (·.text)) :=
      walk_lines [] mark_logged
    unfold Steps.shown
    rw [← List.zip_map, ← hwalk, ← htexts]
  have hfst : steps.shown = steps.shown.zipIdx.map Prod.fst := by simp
  unfold ingest parseTransactionForIngest
  rw [if_neg Bool.false_ne_true, h, if_neg Bool.false_ne_true]
  conv_rhs => rw [hfst]
  simp only [parseProgramDataFromLogMessages, hzip, List.zipIdx_map, List.filterMap_map,
    List.filterMap_filterMap, List.map_filterMap]
  refine List.filterMap_congr fun x hx => ?_
  obtain ⟨⟨l, shown⟩, i⟩ := x
  -- the index of a row leads back to the line
  have hi : steps.logged[i]? = some l := by
    have hget := List.mem_zipIdx_iff_getElem?.mp hx
    have hmap : (steps.shown.map Prod.fst)[i]? = some l := by
      rw [List.getElem?_map, hget]
      rfl
    rwa [shown_fst] at hmap
  cases shown with
  | none => rfl
  | some p =>
    simp only [Function.comp, Prod.map, shownEntry, entryAs, Option.bind_some, Option.map_some]
    by_cases hf : followed followedPrograms p.text = true
    · simp only [hf, if_true, Option.bind_some, payloadOf]
      cases readLine manifest followedPrograms p.text l.1.text <;> simp [entryOf, hi]
    · simp [hf]

/-! ## §7. Lines and their tags. -/

theorem numbered_nodup : steps.numbered.Nodup := by
  refine List.Nodup.of_map Prod.snd ?_
  exact List.nodup_zipIdx_map_snd _

/-- A tag belongs to one line. -/
theorem eq_of_tag {l l' : Line × ℕ} (hl : l ∈ steps.numbered) (hl' : l' ∈ steps.numbered)
    (htag : tag l = tag l') (hsome : tag l' ≠ none) : l = l' := by
  obtain ⟨t, ht⟩ := Option.ne_none_iff_exists'.mp hsome
  obtain ⟨p', -, hp'⟩ := Option.map_eq_some_iff.mp ht
  obtain ⟨p, -, hp⟩ := Option.map_eq_some_iff.mp (htag.trans ht)
  have hi : l.2 = l'.2 := (Prod.mk.inj (hp.trans hp'.symm)).2
  have h := List.mem_zipIdx_iff_getElem?.mp hl
  rw [hi, List.mem_zipIdx_iff_getElem?.mp hl'] at h
  exact Prod.ext (Option.some.inj h).symm hi

theorem kept_perm :
    (kept lineSize maxLogDataBytes steps.numbered 0 ++ steps.dropped).Perm steps.numbered :=
  kept_dropped_perm steps.numbered 0

theorem mem_numbered_of_kept {l : Line × ℕ}
    (h : l ∈ kept lineSize maxLogDataBytes steps.numbered 0) : l ∈ steps.numbered :=
  kept_perm.subset (List.mem_append_left _ h)

theorem mem_numbered_of_dropped {l : Line × ℕ} (h : l ∈ steps.dropped) : l ∈ steps.numbered :=
  kept_perm.subset (List.mem_append_right _ h)

/-- A logged line with a tag was kept. -/
theorem kept_of_logged {l : Line × ℕ} (h : l ∈ steps.logged) (hsome : tag l ≠ none) :
    l ∈ kept lineSize maxLogDataBytes steps.numbered 0 := by
  rcases mem_collect h with rfl | h
  · exact absurd rfl hsome
  · exact h

theorem kept_dropped_nodup :
    (kept lineSize maxLogDataBytes steps.numbered 0 ++ steps.dropped).Nodup :=
  kept_perm.nodup_iff.mpr numbered_nodup

/-- The walk observes a tagged line once. -/
theorem shown_once {l : Line × ℕ} {a b : Option ProgramId} (ha : (l, a) ∈ steps.shown)
    (hb : (l, b) ∈ steps.shown) (hsome : tag l ≠ none) : a = b := by
  have hnodup : ((steps.shown.filter fun x => (tag x.1).isSome).map Prod.fst).Nodup := by
    have hfst : (steps.shown.filter fun x => (tag x.1).isSome).map Prod.fst =
        steps.logged.filter fun l => (tag l).isSome := by
      rw [← shown_fst, List.filter_map]
      rfl
    have hkept : (steps.logged.filter fun l => (tag l).isSome) =
        (kept lineSize maxLogDataBytes steps.numbered 0).filter fun l => (tag l).isSome := by
      have h : steps.logged.filterMap (Option.guard fun l => (tag l).isSome) =
          (kept lineSize maxLogDataBytes steps.numbered 0).filterMap
            (Option.guard fun l => (tag l).isSome) :=
        filterMap_collect rfl steps.numbered 0 false
      simpa only [List.filterMap_eq_filter] using h
    rw [hfst, hkept]
    exact (List.nodup_append.mp kept_dropped_nodup).1.filter _
  have hmem : ∀ c, (l, c) ∈ steps.shown →
      (l, c) ∈ steps.shown.filter fun x => (tag x.1).isSome := by
    intro c hc
    exact List.mem_filter.mpr ⟨hc, Option.isSome_iff_ne_none.mpr hsome⟩
  exact congrArg Prod.snd (List.inj_on_of_nodup_map hnodup (hmem a ha) (hmem b hb) rfl)

/-- **What the log still says** is right exactly if no event is among the lines left out, and every
    line that is left comes to what it should. -/
theorem shown_eq_iff :
    steps.shown.filterMap (shownEntry manifest followedPrograms) =
        steps.numbered.filterMap (expected manifest followedPrograms) ↔
      (∀ l ∈ steps.dropped, expected manifest followedPrograms l = none) ∧
        ∀ x ∈ steps.shown, shownEntry manifest followedPrograms x =
          expected manifest followedPrograms x.1 := by
  constructor
  · intro heq
    -- what is expected of a numbered line comes of that line, and it is logged
    have hfrom : ∀ l ∈ steps.numbered, ∀ v, expected manifest followedPrograms l = some v →
        l ∈ kept lineSize maxLogDataBytes steps.numbered 0 ∧
          ∃ a, (l, a) ∈ steps.shown ∧
            shownEntry manifest followedPrograms (l, a) = some v := by
      intro l hl v hv
      have hmem : v ∈ steps.numbered.filterMap (expected manifest followedPrograms) :=
        List.mem_filterMap.mpr ⟨l, hl, hv⟩
      rw [← heq] at hmem
      obtain ⟨⟨l', a⟩, hx, hx'⟩ := List.mem_filterMap.mp hmem
      obtain ⟨htag, hsome⟩ := expected_tag hv
      obtain ⟨p, -, hentry⟩ := Option.bind_eq_some_iff.mp hx'
      have htag' : tag l' = tag l := (entryAs_tag hentry).symm.trans htag
      have hlogged : l' ∈ steps.logged := by
        rw [← shown_fst]
        exact List.mem_map.mpr ⟨_, hx, rfl⟩
      have hkept := kept_of_logged hlogged (htag' ▸ hsome)
      obtain rfl := eq_of_tag (mem_numbered_of_kept hkept) hl htag' hsome
      exact ⟨hkept, a, hx, hx'⟩
    refine ⟨fun l hl => ?_, fun x hx => ?_⟩
    · by_contra hne
      obtain ⟨v, hv⟩ := Option.ne_none_iff_exists'.mp hne
      have hkept := (hfrom l (mem_numbered_of_dropped hl) v hv).1
      exact (List.nodup_append.mp kept_dropped_nodup).2.2 l hkept l hl rfl
    · obtain ⟨l, a⟩ := x
      have hlogged : l ∈ steps.logged := by
        rw [← shown_fst]
        exact List.mem_map.mpr ⟨_, hx, rfl⟩
      cases hobs : shownEntry manifest followedPrograms (l, a) with
      | some v =>
        have hmem : v ∈ steps.shown.filterMap (shownEntry manifest followedPrograms) :=
          List.mem_filterMap.mpr ⟨_, hx, hobs⟩
        rw [heq] at hmem
        obtain ⟨l', hl', hv⟩ := List.mem_filterMap.mp hmem
        obtain ⟨htag, hsome⟩ := expected_tag hv
        obtain ⟨p, -, hentry⟩ := Option.bind_eq_some_iff.mp hobs
        have htag' : tag l = tag l' := (entryAs_tag hentry).symm.trans htag
        have hkept := kept_of_logged hlogged (htag' ▸ hsome)
        obtain rfl := eq_of_tag (mem_numbered_of_kept hkept) hl' htag' hsome
        exact hv.symm
      | none =>
        symm
        by_contra hne
        obtain ⟨v, hv⟩ := Option.ne_none_iff_exists'.mp hne
        have hsome := (expected_tag hv).2
        have hkept := kept_of_logged hlogged hsome
        obtain ⟨-, b, hb, hb'⟩ := hfrom l (mem_numbered_of_kept hkept) v hv
        obtain rfl := shown_once hx hb hsome
        rw [hobs] at hb'
        cases hb'
  · rintro ⟨hdropped, hobserved⟩
    have hfst : steps.shown.filterMap (fun x => expected manifest followedPrograms x.1) =
        steps.logged.filterMap (expected manifest followedPrograms) := by
      rw [← shown_fst, List.filterMap_map]
      rfl
    rw [List.filterMap_congr hobserved, hfst]
    exact (filterMap_collect rfl steps.numbered 0 false).trans
      (filterMap_kept steps.numbered 0 hdropped)

/-! ## §8. When a transaction is ingested right. -/

theorem refused_of_suspect (h : isLogTruncationSuspect (steps.logged.map (·.1.text)) = true) :
    Refused manifest followedPrograms tx steps := by
  unfold Refused ingest parseTransactionForIngest
  rw [if_neg Bool.false_ne_true, if_pos h]
  exact ⟨_, List.mem_singleton_self _, rfl⟩

theorem refusalOf_kind {obs : ProgramDataLineRef} {r : IngestRefusal}
    (h : refusalOf manifest followedPrograms tx obs = some r) : r.refusalKind ≠ .logTruncated := by
  unfold refusalOf at h
  split at h
  · cases h
    exact RefusalKind.noConfusion
  · cases h
    exact RefusalKind.noConfusion
  · cases h

theorem refused_iff : Refused manifest followedPrograms tx steps ↔
    isLogTruncationSuspect (steps.logged.map (·.1.text)) = true := by
  refine ⟨fun h => ?_, refused_of_suspect⟩
  by_contra hsuspect
  obtain ⟨r, hr, hkind⟩ := h
  unfold ingest parseTransactionForIngest at hr
  rw [if_neg Bool.false_ne_true, if_neg hsuspect] at hr
  obtain ⟨obs, -, hobs⟩ := List.mem_filterMap.mp hr
  exact refusalOf_kind hobs hkind

theorem right_iff (h : isLogTruncationSuspect (steps.logged.map (·.1.text)) = false) :
    Right manifest followedPrograms tx steps ↔
      (∀ l ∈ steps.dropped, expected manifest followedPrograms l = none) ∧
        ∀ x ∈ steps.shown, shownEntry manifest followedPrograms x =
          expected manifest followedPrograms x.1 := by
  unfold Right
  rw [payloads_eq h, shown_eq_iff]

/-- A log that is whole shows what is so. -/
theorem shown_of_whole (h : steps.dropped = []) :
    ∀ x ∈ steps.shown, shownEntry manifest followedPrograms x =
      expected manifest followedPrograms x.1 := by
  have hlogged : steps.logged = steps.numbered := collect_of_fits steps.numbered false h
  have hlines : steps.numbered.map Prod.fst = steps.lines 1 none := List.zipIdx_map_fst 0 _
  have hshown : innermost (steps.lines 1 none) [] = (steps.lines 1 none).map Line.emitter := by
    have hinnermost := innermost_lines steps 1 none [] [] rfl
    simpa only [List.append_nil, innermost] using hinnermost
  intro x hx
  unfold Steps.shown at hx
  rw [hlogged, hlines, hshown, ← hlines, List.map_map, List.zip_map_right,
    List.zip_eq_zipWith, List.zipWith_self, List.map_map] at hx
  obtain ⟨l, -, rfl⟩ := List.mem_map.mp hx
  rfl

theorem suspect_of_whole (h : steps.dropped = []) :
    isLogTruncationSuspect (steps.logged.map (·.1.text)) = true ↔
      maxLogLines ≤ steps.numbered.length := by
  have hlogged : steps.logged = steps.numbered := collect_of_fits steps.numbered false h
  have hbytes : bytes byteLength (steps.numbered.map (·.1.text)) < maxLogDataBytes := by
    have hfit := (dropped_eq_nil_iff steps.numbered (by decide)).mp h
    rw [Nat.zero_add] at hfit
    unfold bytes at hfit ⊢
    rwa [List.map_map]
  rw [hlogged, isLogTruncationSuspect, Bool.or_eq_true, decide_eq_true_iff, decide_eq_true_iff,
    List.length_map]
  exact or_iff_left (Nat.not_le.mpr hbytes)

/-- **A transaction is ingested right** if its log is whole and shorter than the limit of lines;
    or if its log is not whole and what is left is still suspect, or says of every event of a
    followed program what is so. -/
theorem ingest_right_iff :
    IngestedRight manifest followedPrograms tx steps ↔
      if steps.dropped = [] then steps.numbered.length < maxLogLines
      else isLogTruncationSuspect (steps.logged.map (·.1.text)) = true ∨
        ((∀ l ∈ steps.dropped, expected manifest followedPrograms l = none) ∧
          ∀ x ∈ steps.shown, shownEntry manifest followedPrograms x =
            expected manifest followedPrograms x.1) := by
  unfold IngestedRight
  rw [refused_iff]
  split
  · next hwhole =>
    rw [suspect_of_whole hwhole, Nat.not_le]
    constructor
    · exact fun h => (h.2 hwhole).2
    · intro hlines
      have hsuspect : isLogTruncationSuspect (steps.logged.map (·.1.text)) = false := by
        rw [Bool.eq_false_iff, ne_eq, suspect_of_whole hwhole]
        exact Nat.not_le.mpr hlines
      have hright : Right manifest followedPrograms tx steps :=
        (right_iff hsuspect).mpr ⟨by simp [hwhole], shown_of_whole hwhole⟩
      exact ⟨Or.inl hright, fun _ => ⟨hright, hlines⟩⟩
  · next hcut =>
    cases hsuspect : isLogTruncationSuspect (steps.logged.map (·.1.text)) with
    | true => simp [hcut]
    | false =>
      rw [right_iff hsuspect]
      simp [hcut]

end Ingest

/-! ## §9. An event that is lost. -/

def vault : ProgramId where
  text := List.replicate 32 'K'
  base58 := by
    intro c hc
    rw [List.eq_of_mem_replicate hc]
    decide
  long := by rw [List.length_replicate]
  short := by
    rw [List.length_replicate]
    decide

/-- Eight bytes of zeros, and an event that has them for its discriminator. -/
def zeroPayload : Text := "AAAAAAAAAAA=".toList

def vaultManifest : Manifest where
  contractNameForProgramSlug slug := if slug = ['v'] then some ['V'] else none
  lookupEventForProgram discriminator contractName :=
    if discriminator = List.replicate 8 0 ∧ contractName = ['V'] then some (['V'], ['E']) else none
  bufferFrom s := if s = zeroPayload then List.replicate 8 0 else []

/-- A long message before the event: it is written, and the event no longer fits. -/
def message : PlainLine := ⟨"Program log: ".toList ++ List.replicate 9920 'a', mark_log _⟩

def wordy : Steps := .invoke vault (.log message (.data zeroPayload .done)) .done

def wordyTx : TransactionRef := ⟨1, 0, 0, []⟩

theorem wordy_numbered : wordy.numbered =
    [(⟨invokeLine vault 1, .opened vault⟩, 0), (⟨message.1, .other⟩, 1),
      (⟨programDataPrefix ++ zeroPayload, .data (some vault)⟩, 2),
      (⟨successLine vault, .closed vault⟩, 3)] := rfl

theorem byteLength_append (s t : Text) : byteLength (s ++ t) = byteLength s + byteLength t := by
  unfold byteLength
  rw [List.map_append, List.sum_append]

theorem byteLength_replicate (n : ℕ) : byteLength (List.replicate n 'a') = n := by
  unfold byteLength
  rw [List.map_replicate]
  induction n with
  | zero => rfl
  | succ n ih =>
    rw [List.replicate_succ, List.sum_cons, ih]
    exact Nat.add_comm 1 n

theorem byteLength_message : byteLength message.1 = 9933 := by
  have hstart : byteLength "Program log: ".toList = 13 := by decide
  show byteLength ("Program log: ".toList ++ List.replicate 9920 'a') = 9933
  rw [byteLength_append, hstart, byteLength_replicate]

theorem byteLength_invokeLine_vault : byteLength (invokeLine vault 1) = 51 := by decide

theorem byteLength_successLine_vault : byteLength (successLine vault) = 48 := by decide

theorem byteLength_zeroPayload : byteLength (programDataPrefix ++ zeroPayload) = 26 := by decide

theorem wordy_dropped : wordy.dropped =
    [(⟨programDataPrefix ++ zeroPayload, .data (some vault)⟩, 2),
      (⟨successLine vault, .closed vault⟩, 3)] := by
  unfold Steps.dropped
  rw [wordy_numbered]
  simp [LogBudget.dropped, lineSize, byteLength_message, byteLength_invokeLine_vault,
    byteLength_successLine_vault, byteLength_zeroPayload, maxLogDataBytes]

theorem wordy_logged : wordy.logged =
    [(⟨invokeLine vault 1, .opened vault⟩, 0), (⟨message.1, .other⟩, 1), notice] := by
  unfold Steps.logged
  rw [wordy_numbered]
  simp [collect, lineSize, byteLength_message, byteLength_invokeLine_vault,
    byteLength_successLine_vault, byteLength_zeroPayload, maxLogDataBytes]

theorem wordy_expected :
    expected vaultManifest [⟨['v'], vault.text⟩]
      (⟨programDataPrefix ++ zeroPayload, .data (some vault)⟩, 2) ≠ none := by
  decide

/-- Three lines are left and fewer bytes than the limit: the loss is not seen. -/
theorem wordy_not_right :
    ¬ IngestedRight vaultManifest [⟨['v'], vault.text⟩] wordyTx wordy := by
  have htexts : wordy.logged.map (·.1.text) =
      [invokeLine vault 1, message.1, "Log truncated".toList] := by
    rw [wordy_logged]
    rfl
  have hbytes : bytes byteLength [invokeLine vault 1, message.1, "Log truncated".toList] = 9997 := by
    have hnotice : byteLength "Log truncated".toList = 13 := by decide
    simp only [bytes, List.map_cons, List.map_nil, List.sum_cons, List.sum_nil,
      byteLength_invokeLine_vault, byteLength_message, hnotice, Nat.reduceAdd]
  have hsuspect : isLogTruncationSuspect (wordy.logged.map (·.1.text)) = false := by
    unfold isLogTruncationSuspect
    rw [htexts, hbytes]
    rfl
  rintro ⟨h, -⟩
  rw [refused_iff, hsuspect, right_iff hsuspect] at h
  have hdropped := (h.resolve_right Bool.false_ne_true).1 _
    (wordy_dropped ▸ List.mem_cons_self)
  exact wordy_expected hdropped

/-- **Truncation is seen by its size only**: not every transaction is ingested right. -/
theorem event_lost : ¬ ∀ manifest followedPrograms tx steps,
    IngestedRight manifest followedPrograms tx steps :=
  fun h => wordy_not_right (h _ _ _ _)

end Kargain.InvokeLog
