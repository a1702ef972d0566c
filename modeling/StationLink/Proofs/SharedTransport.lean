import StationLink.Proofs.SharedBank

namespace StationLink

/-!
# Keysets that share a transport

A bank at work reads whatever has come in, in pieces, and after every read and every action
writes what its keysets have queued. However the stream is cut into reads and whatever is done
with keysets in between, each keyset becomes and sends what it would by itself on just the
frames of its number and the actions meant for it, and what is reported is each frame with
what it did (`BankSession.keysets_independent`).
-/

open Keyset (Happening)

/-- Where all frames were taken, none is left. -/
theorem FrameDecoder.drain_drain
    (decoder : FrameDecoder) :
    decoder.drain.2.drain = ([], decoder.drain.2) := by
  have nothingMore := drain_push_of_drain decoder []
  have same : ∀ decoder : FrameDecoder, decoder.push [] = decoder := by
    intro decoder
    simp only [push, List.append_nil]
  rw [same, same] at nothingMore
  have noFrame := List.self_eq_append_right.mp (congrArg Prod.fst nothingMore)
  exact Prod.ext noFrame (congrArg Prod.snd nothingMore).symm

/-- Something that a bank deals with. -/
inductive BankInput where
  /-- Bytes come in and are read. -/
  | read (bytes : List UInt8)
  /-- Somebody does something with the keyset of a number. -/
  | act (id : InterfaceId) (action : KeysetAction)
  deriving Repr, DecidableEq

namespace BankInput

/-- The bytes that come in. -/
def bytesIn : BankInput → List UInt8
  | .read bytes => bytes
  | .act _ _ => []

/-- What happens to keysets: the frames that the bytes complete come in, and actions are done. -/
def history (decoder : FrameDecoder) : List BankInput → List (InterfaceId × Happening)
  | [] => []
  | .read bytes :: rest =>
      let (frames, decoder) := (decoder.push bytes).drain
      KeysetBank.incoming frames ++ history decoder rest
  | .act id action :: rest => (id, .did action) :: history decoder rest

/-- The frames of all reads are those of all bytes, with those left over from before. -/
theorem drain_append_framesIn
    (decoder : FrameDecoder)
    (inputs : List BankInput) :
    decoder.drain.1 ++ KeysetBank.framesIn (history decoder.drain.2 inputs) =
      (decoder.push (inputs.flatMap bytesIn)).drain.1 := by
  induction inputs generalizing decoder with
  | nil =>
      simp [history, KeysetBank.framesIn, FrameDecoder.push]
  | cons input rest inductionHypothesis =>
      cases input with
      | read bytes =>
          have later := inductionHypothesis (decoder.drain.2.push bytes)
          have joined : (decoder.drain.2.push bytes).push (rest.flatMap bytesIn) =
              decoder.drain.2.push ((BankInput.read bytes :: rest).flatMap bytesIn) := by
            simp [FrameDecoder.push, bytesIn]
          rw [FrameDecoder.drain_push_of_drain, ← joined, ← later, history,
            KeysetBank.framesIn_append, KeysetBank.framesIn_incoming]
      | act id action =>
          exact inductionHypothesis decoder

/-- The frames that come in are those of the whole stream at once. -/
theorem framesIn_history
    (inputs : List BankInput) :
    KeysetBank.framesIn (history .empty inputs) =
      (FrameDecoder.scanAll (inputs.flatMap bytesIn)).1 := by
  have nothing : FrameDecoder.empty.drain = ([], .empty) :=
    FrameDecoder.drain_of_next_none rfl
  have found := drain_append_framesIn .empty inputs
  rw [nothing] at found
  exact found

end BankInput

namespace BankSession

variable {session : BankSession}

/-! ## What is observed -/

/-- What was observed, in order. -/
def occurrences (session : BankSession) : List (Occurrence BankReport) :=
  session.journal.reverse.map Entry.occurrence

/-- The frames that were written. -/
def sentFrames (session : BankSession) : List Frame :=
  session.occurrences.filterMap Occurrence.sent?

/-- The reports that the owner received. -/
def reports (session : BankSession) : List BankReport :=
  session.occurrences.filterMap Occurrence.reported?

/-- What is observed is added to what occurred before. -/
theorem occurrences_observe
    (session : BankSession)
    (observed : List (Occurrence BankReport)) :
    (session.observe observed).occurrences = session.occurrences ++ observed := by
  have noted : (session.observe observed).journal =
      (observed.map (⟨session.now, ·⟩)).reverse ++ session.journal :=
    List.foldl_flip_cons_eq_append
  simp [occurrences, noted, Function.comp_def]

/-- The frames among what is observed are added to those sent before. -/
theorem sentFrames_observe
    (session : BankSession)
    (observed : List (Occurrence BankReport)) :
    (session.observe observed).sentFrames =
      session.sentFrames ++ observed.filterMap Occurrence.sent? := by
  rw [sentFrames, occurrences_observe, List.filterMap_append]
  rfl

/-- The reports among what is observed are added to those made before. -/
theorem reports_observe
    (session : BankSession)
    (observed : List (Occurrence BankReport)) :
    (session.observe observed).reports =
      session.reports ++ observed.filterMap Occurrence.reported? := by
  rw [reports, occurrences_observe, List.filterMap_append]
  rfl

/-- Frames that are sent are observed as frames, and no report is. -/
theorem observed_of_sent
    (frames : List Frame) :
    let observed : List (Occurrence BankReport) := frames.map .sent
    observed.filterMap Occurrence.sent? = frames ∧
      observed.filterMap Occurrence.reported? = [] := by
  simp [List.filterMap_map, Function.comp_def, Occurrence.sent?, Occurrence.reported?]

/-- Reports that are made are observed as reports, and no frame is. -/
theorem observed_of_reported
    (reports : List BankReport) :
    let observed : List (Occurrence BankReport) := reports.map .reported
    observed.filterMap Occurrence.sent? = [] ∧
      observed.filterMap Occurrence.reported? = reports := by
  simp [List.filterMap_map, Function.comp_def, Occurrence.sent?, Occurrence.reported?]

/-! ## A bank at work -/

/-- The bank is at work, its line takes every write and its owner takes every report. -/
structure AtWork (session : BankSession) : Prop where
  notStopped : session.outcome? = none
  goesOn : session.inbound.ending? = none
  attached : session.line.attached = true
  accepts : ∀ number, session.line.accepts number = true
  reading : session.reading = true
  hasOwner : session.hasOwner = true

theorem AtWork.not_isSome
    (atWork : session.AtWork) :
    ¬ session.outcome?.isSome = true := by
  rw [atWork.notStopped]
  exact Bool.false_ne_true

/-- A session at work sends all frames, as its line takes them. -/
theorem send_of_atWork
    (atWork : session.AtWork)
    (frames : List Frame) :
    session.send frames =
      { session with
        line := { session.line with attempts := session.line.attempts + frames.length }
      }.observe (frames.map .sent) := by
  induction frames generalizing session with
  | nil =>
      rfl
  | cons frame rest inductionHypothesis =>
      let written := { session with
        line := { session.line with attempts := session.line.attempts + 1 }
      }.observe [.sent frame]
      have wrote : session.send (frame :: rest) = written.send rest := by
        simp [send, Line.write, atWork.attached, atWork.accepts, Line.Attempt.occurrence?, written]
      have stillAtWork : written.AtWork := { atWork with }
      rw [wrote, inductionHypothesis stillAtWork, List.length_cons,
        Nat.add_comm rest.length 1, ← Nat.add_assoc]
      rfl

/-- A session at work makes all reports. -/
theorem report_of_atWork
    (atWork : session.AtWork)
    (reports : List BankReport) :
    session.report reports = session.observe (reports.map .reported) := by
  simp [report, atWork.hasOwner, atWork.reading]

/-- A session at work sends all that its keysets have ready. -/
theorem flush_of_atWork
    (atWork : session.AtWork) :
    session.flush =
      { session with
        bank := session.bank.takeOutput.2
        line := { session.line with
          attempts := session.line.attempts + session.bank.takeOutput.1.length }
      }.observe (session.bank.takeOutput.1.map .sent) := by
  have stillAtWork : { session with bank := session.bank.takeOutput.2 : BankSession }.AtWork :=
    { atWork with }
  exact send_of_atWork stillAtWork session.bank.takeOutput.1

/-! ## Keeping track -/

variable {start : InterfaceId → Option Keyset} {history : List (InterfaceId × Happening)}

/--
The bank at work began with some keysets and has dealt with a history: it serves its keysets
as the frames that it wrote say, and it has reported every frame with what it did.
-/
structure Tracks
    (start : InterfaceId → Option Keyset)
    (history : List (InterfaceId × Happening))
    (session : BankSession) : Prop where
  atWork : session.AtWork
  serves : KeysetBank.Serves start history session.sentFrames session.bank
  accounts : ∃ effects,
    KeysetBank.Accounts start history effects ∧
      session.reports = effects.flatMap BankReport.ofEffect

/-- No keyset has anything queued. -/
def Flushed (session : BankSession) : Prop :=
  ∀ {id keyset}, session.bank.keysets.get? id = some keyset → keyset.output = []

/-- Writing what keysets have queued changes nothing but that it is sent. -/
theorem Tracks.flush
    (tracks : Tracks start history session) :
    Tracks start history session.flush ∧ session.flush.Flushed ∧
      session.flush.inbound = session.inbound ∧
      session.flush.bank.decoder = session.bank.decoder := by
  obtain ⟨atWork, serves, effects, accounts, reports⟩ := tracks
  obtain ⟨sent, noReport⟩ := observed_of_sent session.bank.takeOutput.1
  rw [flush_of_atWork atWork]
  refine ⟨⟨{ atWork with }, ?_, effects, accounts, ?_⟩, ?_, rfl, rfl⟩
  · rw [sentFrames_observe, sent]
    exact serves.takeOutput
  · rw [reports_observe, noReport, List.append_nil]
    exact reports
  · intro id keyset found
    have taken := (session.bank.get?_takeOutput id).symm.trans found
    obtain ⟨before, _, rfl⟩ := Option.map_eq_some_iff.mp taken
    rfl

/-- The bank reads bytes: the frames that they complete come in. -/
theorem Tracks.read?
    (tracks : Tracks start history session)
    (notEmpty : session.inbound.bytes ≠ []) :
    let found :=
      (session.bank.decoder.push (session.inbound.bytes.take Inbound.readSize)).drain
    ∃ after, session.read? = some after ∧
      Tracks start (history ++ KeysetBank.incoming found.1) after ∧
      after.Flushed ∧
      after.inbound.bytes = session.inbound.bytes.drop Inbound.readSize ∧
      after.bank.decoder = found.2 := by
  intro found
  obtain ⟨atWork, serves, effects, accounts, reports⟩ := tracks
  let bytes := session.inbound.bytes
  let inbound := { session.inbound with bytes := bytes.drop Inbound.readSize }
  let decoded : KeysetBank := { session.bank with decoder := found.2 }
  let received := decoded.receiveFrames found.1
  let reported := { session with inbound, bank := received.1 }.report received.2
  have isRead : session.inbound.read = (.bytes (bytes.take Inbound.readSize), inbound) := by
    unfold Inbound.read
    split
    · next isNil =>
        exact (notEmpty isNil).elim
    · rfl
  have reads : session.read? = some reported.flush := by
    rw [BankSession.read?, if_neg atWork.not_isSome, isRead]
    rfl
  have stillAtWork : { session with inbound, bank := received.1 : BankSession }.AtWork :=
    { atWork with }
  have decodedServes : KeysetBank.Serves start history session.sentFrames decoded :=
    ⟨serves.growing, serves.alone, serves.owns, serves.unowned⟩
  obtain ⟨finallyServes, others, finallyAccounts, isReport⟩ :=
    decodedServes.receiveFrames accounts found.1
  obtain ⟨noFrame, areReports⟩ := observed_of_reported received.2
  have isReported : reported =
      { session with inbound, bank := received.1 : BankSession }.observe
        (received.2.map .reported) :=
    report_of_atWork stillAtWork received.2
  have reportedTracks : Tracks start (history ++ KeysetBank.incoming found.1) reported := by
    rw [isReported]
    refine ⟨{ stillAtWork with }, ?_, effects ++ others, finallyAccounts, ?_⟩
    · rw [sentFrames_observe, noFrame, List.append_nil]
      exact finallyServes
    · rw [reports_observe, areReports, List.flatMap_append, ← isReport, ← reports]
      rfl
  obtain ⟨finallyTracks, flushed, sameInbound, sameDecoder⟩ := reportedTracks.flush
  refine ⟨reported.flush, reads, finallyTracks, flushed, ?_, ?_⟩
  · rw [sameInbound, isReported]
    rfl
  · rw [sameDecoder, isReported]
    exact KeysetBank.decoder_receiveFrames decoded found.1

/-- The bank reads until nothing is left: the frames of all that came in have come in. -/
theorem Tracks.reads
    (tracks : Tracks start history session)
    (drained : session.bank.decoder.drain = ([], session.bank.decoder))
    {count : Nat}
    (enough : session.inbound.bytes.length < count) :
    let found := (session.bank.decoder.push session.inbound.bytes).drain
    let after := reads count session
    Tracks start (history ++ KeysetBank.incoming found.1) after ∧
      (session.Flushed ∨ session.inbound.bytes ≠ [] → after.Flushed) ∧
      after.inbound.bytes = [] ∧
      after.bank.decoder = found.2 := by
  induction count generalizing session history with
  | zero =>
      exact (Nat.not_lt_zero _ enough).elim
  | succ count inductionHypothesis =>
      intro found after
      by_cases isNil : session.inbound.bytes = []
      · have nothing : session.read? = none := by
          simp [BankSession.read?, Inbound.read, isNil, tracks.atWork.goesOn]
        have isSession : after = session := by
          simp only [after, BankSession.reads, nothing]
        have noFrame : found = ([], session.bank.decoder) := by
          simp only [found, isNil, FrameDecoder.push, List.append_nil]
          exact drained
        have noHappening : history ++ KeysetBank.incoming [] = history := List.append_nil history
        have still : Tracks start (history ++ KeysetBank.incoming []) session :=
          noHappening.symm ▸ tracks
        rw [isSession, noFrame]
        exact ⟨still, fun flushed => flushed.resolve_right fun notNil => notNil isNil, isNil, rfl⟩
      · obtain ⟨next, reads, nextTracks, flushed, isRest, isDecoder⟩ := tracks.read? isNil
        have isAfter : after = BankSession.reads count next := by
          simp only [after, BankSession.reads, reads]
        have joined : found =
            ((session.bank.decoder.push (session.inbound.bytes.take Inbound.readSize)).drain.1 ++
                (next.bank.decoder.push next.inbound.bytes).drain.1,
              (next.bank.decoder.push next.inbound.bytes).drain.2) := by
          have inParts : session.bank.decoder.push session.inbound.bytes =
              (session.bank.decoder.push (session.inbound.bytes.take Inbound.readSize)).push
                (session.inbound.bytes.drop Inbound.readSize) := by
            simp only [FrameDecoder.push, List.append_assoc, List.take_append_drop]
          rw [isDecoder, isRest, ← FrameDecoder.drain_push_of_drain, ← inParts]
        have nextDrained : next.bank.decoder.drain = ([], next.bank.decoder) := by
          rw [isDecoder, FrameDecoder.drain_drain]
        have shorter : next.inbound.bytes.length < count := by
          have positive : 0 < session.inbound.bytes.length := List.length_pos_iff.mpr isNil
          rw [isRest, List.length_drop, Inbound.readSize]
          omega
        obtain ⟨finallyTracks, finallyFlushed, isEmpty, finallyDecoder⟩ :=
          inductionHypothesis nextTracks nextDrained shorter
        rw [isAfter, joined]
        refine ⟨?_, fun _ => finallyFlushed (.inl flushed), isEmpty, finallyDecoder⟩
        rw [KeysetBank.incoming, List.map_append, ← List.append_assoc]
        exact finallyTracks

/-! ## Between inputs -/

/-- The bank has read all that came in, and no complete frame is left in its decoder. -/
structure Rests
    (start : InterfaceId → Option Keyset)
    (history : List (InterfaceId × Happening))
    (session : BankSession) : Prop where
  tracks : Tracks start history session
  allRead : session.inbound.bytes = []
  drained : session.bank.decoder.drain = ([], session.bank.decoder)

/-- Deal with an input. -/
def handle (session : BankSession) : BankInput → BankSession
  | .read bytes => session.receive bytes
  | .act id action => (session.perform id action).2

/-- Deal with inputs one after another. -/
def handleAll (session : BankSession) (inputs : List BankInput) : BankSession :=
  inputs.foldl handle session

/-- A session at rest is so again when it has read some bytes. -/
theorem Rests.receive
    (rests : Rests start history session)
    (bytes : List UInt8) :
    let found := (session.bank.decoder.push bytes).drain
    let after := session.receive bytes
    Rests start (history ++ KeysetBank.incoming found.1) after ∧
      (session.Flushed ∨ bytes ≠ [] → after.Flushed) ∧
      after.bank.decoder = found.2 := by
  intro found after
  let filled := { session with inbound := session.inbound.push bytes }
  have isBytes : filled.inbound.bytes = bytes := by
    simp [filled, Inbound.push, rests.allRead]
  have fills : Tracks start history filled :=
    ⟨{ rests.tracks.atWork with }, rests.tracks.serves, rests.tracks.accounts⟩
  obtain ⟨tracks, flushed, isEmpty, isDecoder⟩ :=
    fills.reads rests.drained (Nat.lt_succ_self filled.inbound.bytes.length)
  have isAfter : reads (filled.inbound.bytes.length + 1) filled = after := rfl
  rw [isAfter] at tracks flushed isEmpty isDecoder
  rw [isBytes] at tracks flushed isDecoder
  refine ⟨⟨tracks, isEmpty, ?_⟩, flushed, isDecoder⟩
  have finallyDrained := FrameDecoder.drain_drain (session.bank.decoder.push bytes)
  rw [← isDecoder] at finallyDrained
  exact finallyDrained

/-- A session at rest is so again when an action was asked of a keyset. -/
theorem Rests.perform
    (rests : Rests start history session)
    (id : InterfaceId)
    (action : KeysetAction) :
    let after := (session.perform id action).2
    Rests start (history ++ [(id, .did action)]) after ∧
      after.Flushed ∧
      after.bank.decoder = session.bank.decoder := by
  intro after
  obtain ⟨atWork, serves, effects, accounts, reports⟩ := rests.tracks
  let done := { session with bank := session.bank.perform id action }
  have isAfter : after = done.flush := by
    simp only [after, BankSession.perform, if_neg atWork.not_isSome]
    rfl
  have sameDecoder : done.bank.decoder = session.bank.decoder := by
    simp only [done, KeysetBank.perform]
    split <;> rfl
  have did : Tracks start (history ++ [(id, .did action)]) done :=
    ⟨{ atWork with }, serves.happen (KeysetBank.happens_perform session.bank id action) rfl,
      effects, accounts.did id action, reports⟩
  obtain ⟨tracks, flushed, sameInbound, stillDecoder⟩ := did.flush
  have isDecoder : done.flush.bank.decoder = session.bank.decoder :=
    stillDecoder.trans sameDecoder
  rw [isAfter]
  refine ⟨⟨tracks, ?_, ?_⟩, flushed, isDecoder⟩
  · rw [sameInbound]
    exact rests.allRead
  · rw [isDecoder]
    exact rests.drained

/-- A bank keeps track of all that it deals with. -/
theorem Rests.handleAll
    (rests : Rests start history session)
    (inputs : List BankInput) :
    Rests start (history ++ BankInput.history session.bank.decoder inputs)
        (session.handleAll inputs) ∧
      (session.Flushed ∨ (∃ input ∈ inputs, input ≠ .read []) →
        (session.handleAll inputs).Flushed) := by
  induction inputs generalizing session history with
  | nil =>
      rw [BankInput.history, List.append_nil]
      exact ⟨rests, fun flushed => flushed.resolve_right (by simp)⟩
  | cons input rest inductionHypothesis =>
      cases input with
      | read bytes =>
          obtain ⟨later, flushed, isDecoder⟩ := rests.receive bytes
          obtain ⟨finally_, finallyFlushed⟩ := inductionHypothesis later
          rw [isDecoder, List.append_assoc] at finally_
          refine ⟨finally_, fun dealt => finallyFlushed ?_⟩
          rcases dealt with isFlushed | ⟨input, member, notNothing⟩
          · exact .inl (flushed (.inl isFlushed))
          · rcases List.mem_cons.mp member with isFirst | isLater
            · subst isFirst
              exact .inl (flushed (.inr fun isNil => notNothing (congrArg BankInput.read isNil)))
            · exact .inr ⟨input, isLater, notNothing⟩
      | act id action =>
          obtain ⟨later, flushed, isDecoder⟩ := rests.perform id action
          obtain ⟨finally_, finallyFlushed⟩ := inductionHypothesis later
          rw [isDecoder, List.append_assoc] at finally_
          exact ⟨finally_, fun _ => finallyFlushed (.inl flushed)⟩

/-- A session begins at rest. -/
theorem rests_ofKeysets
    {keysets : List Keyset}
    (distinct : (keysets.map Keyset.id).Nodup)
    (own : ∀ keyset ∈ keysets, keyset.OwnsOutput) :
    Rests (KeysetBank.ofKeysets keysets).keysets.get? [] { bank := .ofKeysets keysets } where
  tracks := {
    atWork := ⟨rfl, rfl, rfl, fun _ => rfl, rfl, rfl⟩
    serves := KeysetBank.serves_ofKeysets distinct own
    accounts := ⟨[], KeysetBank.accounts_nil _, rfl⟩ }
  allRead := rfl
  drained := FrameDecoder.drain_of_next_none rfl

/--
Keysets of different numbers share a transport; each of them owns what it has queued, as all
do (`Keyset.ownsOutput_undergoAll`). However the bytes that come in are cut into reads and
whatever is done with keysets in between, each keyset becomes and sends what it would by itself
on the frames of its number and the actions meant for it, in order; nothing is sent or done for
a number without a keyset; and the reports are the frames of the whole stream, each followed at
most by what it did, which is what it would have done to its keyset by itself.
-/
theorem keysets_independent
    {keysets : List Keyset}
    (distinct : (keysets.map Keyset.id).Nodup)
    (own : ∀ keyset ∈ keysets, keyset.OwnsOutput)
    (inputs : List BankInput) :
    let session := handleAll { bank := .ofKeysets keysets } inputs
    let history := BankInput.history .empty inputs
    (∀ keyset ∈ keysets,
      let alone := keyset.undergoAll (KeysetBank.meantFor keyset.id history)
      ∃ unsent,
        session.bank.keysets.get? keyset.id = some { alone with output := unsent } ∧
          alone.output = session.sentFrames.filter (·.id = keyset.id) ++ unsent ∧
          ((∃ input ∈ inputs, input ≠ .read []) → unsent = [])) ∧
      (∀ id ∉ keysets.map Keyset.id,
        session.bank.keysets.get? id = none ∧ session.sentFrames.filter (·.id = id) = []) ∧
      ∃ effects : List (Frame × Option KeysetUpdate),
        effects.map Prod.fst = (FrameDecoder.scanAll (inputs.flatMap BankInput.bytesIn)).1 ∧
          session.reports = effects.flatMap BankReport.ofEffect ∧
          (∀ keyset ∈ keysets,
            (effects.filter (·.1.id = keyset.id)).map Prod.snd =
              keyset.answers (KeysetBank.meantFor keyset.id history)) ∧
          ∀ effect ∈ effects, effect.1.id ∉ keysets.map Keyset.id → effect.2 = none := by
  intro session history
  let start := (KeysetBank.ofKeysets keysets).keysets.get?
  have started : ∀ keyset ∈ keysets, start keyset.id = some keyset := fun keyset member =>
    (KeysetBank.get?_ofKeysets distinct keyset.id keyset).mpr ⟨member, rfl⟩
  have missing : ∀ id ∉ keysets.map Keyset.id, start id = none := by
    intro id notMember
    rw [Option.eq_none_iff_forall_ne_some]
    intro keyset found
    obtain ⟨member, isOwn⟩ := (KeysetBank.get?_ofKeysets distinct id keyset).mp found
    exact notMember (isOwn ▸ List.mem_map_of_mem member)
  have begins : Rests start [] { bank := .ofKeysets keysets } := rests_ofKeysets distinct own
  obtain ⟨⟨tracks, _, _⟩, flushed⟩ := begins.handleAll inputs
  obtain ⟨_, serves, effects, accounts, isReport⟩ := tracks
  refine ⟨fun keyset member => ?_, fun id notMember => ?_, effects, ?_, isReport,
    fun keyset member => accounts.own (started keyset member),
    fun effect member notOwned => accounts.unowned effect member (missing _ notOwned)⟩
  · intro alone
    have same := serves.alone keyset.id
    rw [started keyset member, Option.map_some, Option.map_eq_some_iff] at same
    obtain ⟨held, found, same⟩ := same
    have isAlone : held.behind (session.sentFrames.filter (·.id = keyset.id)) = alone := same
    refine ⟨held.output, ?_, ?_, fun dealt => flushed (.inr dealt) found⟩
    · rw [← isAlone]
      exact found
    · rw [← isAlone]
      rfl
  · have same := serves.alone id
    rw [missing id notMember, Option.map_none, Option.map_eq_none_iff] at same
    exact ⟨same, serves.unowned (missing id notMember)⟩
  · rw [accounts.frames]
    exact BankInput.framesIn_history inputs

/-- One keyset answers a probe and ends its link, another probes, and a third is not there. -/
theorem keysets_independent_of_missing :
    let keysets : List Keyset := [.ofSettings (.ofId 2), .ofSettings (.ofId 1)]
    let toMissing := (Frame.probe 9 1).encode
    let inputs : List BankInput :=
      [.read ((Frame.probe 2 1).encode ++ toMissing.take 3), .act 1 .probe,
        .read (toMissing.drop 3 ++ (Frame.ack 1).encode), .act 9 .probe, .act 2 .disconnect]
    let session := handleAll { bank := .ofKeysets keysets } inputs
    ((keysets.map Keyset.id).Nodup ∧ ∀ keyset ∈ keysets, keyset.OwnsOutput) ∧
      session.sentFrames.filter (·.id = 2) = [.ack 2, .disconnect 2] ∧
      session.sentFrames.filter (·.id = 1) = [.probe 1 1] ∧
      session.sentFrames.filter (·.id = 9) = [] := by
  intro keysets toMissing inputs session
  have distinct : (keysets.map Keyset.id).Nodup := by
    decide
  have own : ∀ keyset ∈ keysets, keyset.OwnsOutput := by
    intro keyset member
    rcases List.mem_cons.mp member with rfl | isOther
    · exact Keyset.ownsOutput_undergoAll (.ofId 2) []
    · obtain rfl := List.mem_singleton.mp isOther
      exact Keyset.ownsOutput_undergoAll (.ofId 1) []
  have history : BankInput.history .empty inputs =
      [(2, .received (.probe 2 1)), (1, .did .probe), (9, .received (.probe 9 1)),
        (1, .received (.ack 1)), (9, .did .probe), (2, .did .disconnect)] := by
    cbv
  have dealt : ∃ input ∈ inputs, input ≠ .read [] :=
    ⟨.act 1 .probe, List.mem_cons_of_mem _ List.mem_cons_self, by decide⟩
  obtain ⟨independent, unowned, _⟩ := keysets_independent distinct own inputs
  obtain ⟨unsent, _, isSent, allSent⟩ := independent _ List.mem_cons_self
  obtain ⟨otherUnsent, _, otherIsSent, otherAllSent⟩ :=
    independent _ (List.mem_cons_of_mem _ List.mem_cons_self)
  rw [history, allSent dealt, List.append_nil] at isSent
  rw [history, otherAllSent dealt, List.append_nil] at otherIsSent
  exact ⟨⟨distinct, own⟩, isSent.symm, otherIsSent.symm, (unowned 9 (by decide)).2⟩

end BankSession

end StationLink
