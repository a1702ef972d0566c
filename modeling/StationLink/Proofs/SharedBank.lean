import StationLink.Proofs.BankReception

namespace StationLink

/-!
# Keysets that share a bank

A keyset never looks at the frames that it has queued, so one whose frames were
taken goes on like one whose frames still wait (`Keyset.undergo_behind`). A bank
hands what bears the number of a keyset to that keyset and to no other, and what
it takes of a keyset bears the keyset's number. So whatever happens and however
often output is taken, each keyset is as it would be by itself, but for the frames
that were taken of it (`KeysetBank.Serves.happen`, `KeysetBank.Serves.takeOutput`).
-/

/-- Numbers of interfaces are ordered by size. -/
instance : IsStrictTotalOrder InterfaceId (· < ·) where
  irrefl := UInt16.lt_irrefl
  trans _ _ _ := UInt16.lt_trans
  trichotomous _ _ notLess notMore :=
    UInt16.le_antisymm (UInt16.not_lt.mp notMore) (UInt16.not_lt.mp notLess)

/-- All frames of a message carry the number of its interface. -/
theorem Frame.id_of_mem_ofMessage
    {id : InterfaceId}
    {command : Bool}
    {message : List UInt8}
    {frame : Frame}
    (member : frame ∈ ofMessage id command message) :
    frame.id = id := by
  obtain ⟨block, _, rfl⟩ := List.mem_map.mp member
  rfl

namespace Keyset

variable {keyset : Keyset}

/-! ## Frames that wait -/

/-- The keyset with frames waiting in front of those that it has queued. -/
def behind (keyset : Keyset) (earlier : List Frame) : Keyset :=
  { keyset with output := earlier ++ keyset.output }

/-- Frames queue up behind what waits already, whatever that is. -/
theorem queue_behind
    (keyset : Keyset)
    (earlier frames : List Frame) :
    (keyset.behind earlier).queue frames = (keyset.queue frames).behind earlier := by
  simp only [behind, queue, List.append_assoc]

/-- What a keyset signals queues up behind what waits already. -/
theorem signal_behind
    (keyset : Keyset)
    (earlier : List Frame)
    (control : String)
    (kind : EventKind) :
    (keyset.behind earlier).signal control kind = (keyset.signal control kind).behind earlier :=
  queue_behind keyset earlier (keyset.train control kind)

/-- An action does the same to a keyset whatever waits in it, and queues up behind that. -/
theorem perform_behind
    (keyset : Keyset)
    (earlier : List Frame)
    (action : KeysetAction) :
    (keyset.behind earlier).perform action = (keyset.perform action).behind earlier := by
  cases action with
  | inject event =>
      simp only [perform, inject]
      cases event.encode with
      | error error =>
          rfl
      | ok message =>
          exact queue_behind keyset earlier _
  | press control =>
      simp only [perform, press, signal_behind]
  | dial digits =>
      exact queue_behind keyset earlier _
  | hook lifted =>
      cases lifted with
      | true =>
          exact signal_behind { keyset with panel := { keyset.panel with ringing? := none } }
            earlier "" .offHook
      | false =>
          exact signal_behind keyset earlier "" .onHook
  | answer answering =>
      rfl
  | probe =>
      exact queue_behind keyset earlier _
  | disconnect =>
      exact queue_behind { keyset with linked := false, reassembler := .empty } earlier _

/-- A frame does the same to a keyset whatever waits in it, and has the same effect. -/
theorem receive_behind
    (keyset : Keyset)
    (earlier : List Frame)
    (frame : Frame) :
    (keyset.behind earlier).receive frame =
      ((keyset.receive frame).1.behind earlier, (keyset.receive frame).2) := by
  unfold receive
  cases frame.kind with
  | probe =>
      have same : (keyset.behind earlier).settings = keyset.settings := rfl
      simp only [same]
      split
      · exact congrArg linkUp (queue_behind keyset earlier _)
      · rfl
  | ack | disconnect =>
      rfl
  | data =>
      have same : (keyset.behind earlier).reassembler = keyset.reassembler := rfl
      simp only [same]
      split
      · rcases keyset.reassembler.push frame.block with ⟨reassembler, error | _ | message⟩
        · rfl
        · rfl
        · simp only [receiveMessage]
          cases Command.decode message <;> rfl
      · rfl

/-- Frames of it are taken to be sent. -/
def Happening.takes : Happening → Bool
  | .received _ => false
  | .did _ => false
  | .taken _ => true

/-- Frames that wait make no difference to anything that happens. -/
theorem undergo_behind
    (keyset : Keyset)
    (earlier : List Frame)
    {happening : Happening}
    (notTaken : happening.takes = false) :
    (keyset.behind earlier).undergo happening = (keyset.undergo happening).behind earlier := by
  cases happening with
  | received frame =>
      exact congrArg Prod.fst (receive_behind keyset earlier frame)
  | did action =>
      exact perform_behind keyset earlier action
  | taken count =>
      cases notTaken

/-! ## Whose frames they are -/

/-- The keyset has kept its number and may have queued frames that bear it. -/
def Queues (keyset after : Keyset) : Prop :=
  after.id = keyset.id ∧
    ∃ added, after.output = keyset.output ++ added ∧ ∀ frame ∈ added, frame.id = keyset.id

namespace Queues

variable {after last : Keyset}

theorem of_same
    (id : after.id = keyset.id)
    (output : after.output = keyset.output) :
    keyset.Queues after :=
  ⟨id, [], by rw [output, List.append_nil], fun _ member => (List.not_mem_nil member).elim⟩

/-- What is queued in two steps is queued in one. -/
theorem trans
    (first : keyset.Queues after)
    (second : after.Queues last) :
    keyset.Queues last := by
  obtain ⟨sameId, added, output, own⟩ := first
  obtain ⟨stillSameId, others, lastOutput, othersOwn⟩ := second
  refine ⟨stillSameId.trans sameId, added ++ others, ?_, fun frame member => ?_⟩
  · rw [lastOutput, output, List.append_assoc]
  · rcases List.mem_append.mp member with isFirst | isSecond
    · exact own frame isFirst
    · exact (othersOwn frame isSecond).trans sameId

end Queues

/-- Frames of its own may be queued by a keyset. -/
theorem queues_queue
    {frames : List Frame}
    (own : ∀ frame ∈ frames, frame.id = keyset.id) :
    keyset.Queues (keyset.queue frames) :=
  ⟨rfl, frames, rfl, own⟩

/-- The frames of a signal carry the number of the keyset. -/
theorem id_of_mem_train
    {control : String}
    {kind : EventKind}
    {frame : Frame}
    (member : frame ∈ keyset.train control kind) :
    frame.id = keyset.id := by
  unfold train at member
  split at member
  · exact Frame.id_of_mem_ofMessage member
  · cases member

/-- A signal only queues frames of the keyset's own. -/
theorem queues_signal
    (keyset : Keyset)
    (control : String)
    (kind : EventKind) :
    keyset.Queues (keyset.signal control kind) :=
  queues_queue fun _ => id_of_mem_train

/-- An action only queues frames of the keyset's own. -/
theorem queues_perform
    (keyset : Keyset)
    (action : KeysetAction) :
    keyset.Queues (keyset.perform action) := by
  cases action with
  | inject event =>
      simp only [perform, inject]
      cases event.encode with
      | error error =>
          exact .of_same rfl rfl
      | ok message =>
          exact queues_queue fun _ => Frame.id_of_mem_ofMessage
  | press control =>
      exact (queues_signal keyset control .keyPress).trans (queues_signal _ control .keyRelease)
  | dial digits =>
      refine queues_queue fun frame member => ?_
      obtain ⟨digit, _, isOwn⟩ := List.mem_flatMap.mp member
      rcases List.mem_append.mp isOwn with isPress | isRelease
      · exact id_of_mem_train isPress
      · exact id_of_mem_train isRelease
  | hook lifted =>
      cases lifted with
      | true =>
          exact queues_signal { keyset with panel := { keyset.panel with ringing? := none } }
            "" .offHook
      | false =>
          exact queues_signal keyset "" .onHook
  | answer answering =>
      exact .of_same rfl rfl
  | probe =>
      exact queues_queue fun _ member => List.mem_singleton.mp member ▸ rfl
  | disconnect =>
      have isDown :
          keyset.Queues { keyset with linked := false, reassembler := .empty } :=
        .of_same rfl rfl
      exact isDown.trans (queues_queue fun _ member => List.mem_singleton.mp member ▸ rfl)

/-- A frame that arrives only makes a keyset queue frames of its own. -/
theorem queues_receive
    (keyset : Keyset)
    (frame : Frame) :
    keyset.Queues (keyset.receive frame).1 := by
  refine ⟨id_receive keyset frame, _, output_receive keyset frame, ?_⟩
  intro answer member
  split at member
  · rw [List.mem_singleton.mp member]
    rfl
  · cases member

/-- Whatever happens, a keyset queues nothing but frames that bear its number. -/
theorem queues_undergo
    (keyset : Keyset)
    {happening : Happening}
    (notTaken : happening.takes = false) :
    keyset.Queues (keyset.undergo happening) := by
  cases happening with
  | received frame =>
      exact queues_receive keyset frame
  | did action =>
      exact queues_perform keyset action
  | taken count =>
      cases notTaken

/-- All that the keyset has queued bears its number. -/
def OwnsOutput (keyset : Keyset) : Prop :=
  ∀ frame ∈ keyset.output, frame.id = keyset.id

/-- A keyset that owns what it is about to send still does so when it has queued more. -/
theorem OwnsOutput.later
    {after : Keyset}
    (owns : keyset.OwnsOutput)
    (queues : keyset.Queues after) :
    after.OwnsOutput := by
  obtain ⟨sameId, added, output, own⟩ := queues
  intro frame member
  rw [output] at member
  rw [sameId]
  rcases List.mem_append.mp member with isEarlier | isNew
  · exact owns frame isEarlier
  · exact own frame isNew

/-- Whatever has happened to a keyset since it was set up, it owns what it has queued. -/
theorem ownsOutput_undergoAll
    (settings : KeysetSettings)
    (history : List Happening) :
    ((ofSettings settings).undergoAll history).OwnsOutput := by
  induction history using List.reverseRecOn with
  | nil =>
      exact fun _ member => (List.not_mem_nil member).elim
  | append_singleton earlier happening inductionHypothesis =>
      rw [undergoAll, List.foldl_append]
      cases happening with
      | received frame =>
          exact inductionHypothesis.later (queues_receive _ frame)
      | did action =>
          exact inductionHypothesis.later (queues_perform _ action)
      | taken count =>
          exact fun frame member => inductionHypothesis frame (List.mem_of_mem_drop member)

/-- Happenings are undergone one after another. -/
theorem undergoAll_append
    (keyset : Keyset)
    (first second : List Happening) :
    keyset.undergoAll (first ++ second) = (keyset.undergoAll first).undergoAll second :=
  List.foldl_append

/-! ## What frames do -/

/-- What a frame that comes in does to the keyset; nothing else that happens does anything. -/
def answer (keyset : Keyset) : Happening → List (Option KeysetUpdate)
  | .received frame => [(keyset.receive frame).2]
  | .did _ => []
  | .taken _ => []

/-- What the frames that come in do to the keyset, one after another. -/
def answers (keyset : Keyset) : List Happening → List (Option KeysetUpdate)
  | [] => []
  | happening :: rest => keyset.answer happening ++ (keyset.undergo happening).answers rest

/-- What happens later is answered by the keyset that the earlier happenings leave. -/
theorem answers_append
    (keyset : Keyset)
    (first second : List Happening) :
    keyset.answers (first ++ second) =
      keyset.answers first ++ (keyset.undergoAll first).answers second := by
  induction first generalizing keyset with
  | nil =>
      rfl
  | cons happening rest inductionHypothesis =>
      rw [List.cons_append, answers, inductionHypothesis, answers, List.append_assoc]
      rfl

end Keyset

/-- The frame that came in, if one did. -/
def Keyset.Happening.frame? : Keyset.Happening → Option Frame
  | .received frame => some frame
  | .did _ => none
  | .taken _ => none

/-- The report that a frame came in, and the report of what it did. -/
def BankReport.ofEffect (effect : Frame × Option KeysetUpdate) : List BankReport :=
  .frame effect.1 :: (effect.2.map (ofUpdate effect.1.id)).toList

namespace KeysetBank

open Keyset (Happening)

variable {start : InterfaceId → Option Keyset} {history : List (InterfaceId × Happening)}
variable {sent : List Frame} {effects : List (Frame × Option KeysetUpdate)} {bank : KeysetBank}

/-! ## Histories of a bank -/

/-- What is meant for the keyset of a number. -/
def meantFor (id : InterfaceId) (history : List (InterfaceId × Happening)) : List Happening :=
  (history.filter (·.1 = id)).map Prod.snd

/-- The frames that came in, for whichever keyset. -/
def framesIn (history : List (InterfaceId × Happening)) : List Frame :=
  history.filterMap (·.2.frame?)

/-- Frames come in, each for the keyset of its number. -/
def incoming (frames : List Frame) : List (InterfaceId × Happening) :=
  frames.map fun frame => (frame.id, .received frame)

/-- What a longer history means for a keyset is what its two parts mean for it. -/
theorem meantFor_append
    (id : InterfaceId)
    (first second : List (InterfaceId × Happening)) :
    meantFor id (first ++ second) = meantFor id first ++ meantFor id second := by
  rw [meantFor, List.filter_append, List.map_append]
  rfl

/-- A happening is meant for one keyset alone. -/
theorem meantFor_singleton
    (id other : InterfaceId)
    (happening : Happening) :
    meantFor id [(other, happening)] = if other = id then [happening] else [] := by
  by_cases isOwn : other = id
  · simp [meantFor, isOwn]
  · simp [meantFor, isOwn]

theorem framesIn_append
    (first second : List (InterfaceId × Happening)) :
    framesIn (first ++ second) = framesIn first ++ framesIn second :=
  List.filterMap_append

/-- A read is a history in which its frames arrive, and nothing else. -/
theorem framesIn_incoming
    (frames : List Frame) :
    framesIn (incoming frames) = frames := by
  rw [framesIn, incoming, List.filterMap_map]
  exact List.filterMap_some

/-! ## Keysets as they would be by themselves -/

/--
The bank began with some keysets, and after a history, of which frames were sent, each of
its keysets is as it would be by itself if the frames sent of it were put back.
-/
structure Serves
    (start : InterfaceId → Option Keyset)
    (history : List (InterfaceId × Happening))
    (sent : List Frame)
    (bank : KeysetBank) : Prop where
  growing : bank.keysets.Growing
  alone : ∀ id,
    (bank.keysets.get? id).map (·.behind (sent.filter (·.id = id))) =
      (start id).map (·.undergoAll (meantFor id history))
  owns : ∀ {id keyset}, bank.keysets.get? id = some keyset →
    keyset.id = id ∧ keyset.OwnsOutput
  unowned : ∀ {id}, start id = none → sent.filter (·.id = id) = []

/-- Something happens to the keyset of a number, if there is one, and to no other. -/
structure Happens
    (bank : KeysetBank)
    (id : InterfaceId)
    (happening : Happening)
    (after : KeysetBank) : Prop where
  growing : bank.keysets.Growing → after.keysets.Growing
  get? : ∀ other, after.keysets.get? other =
    (bank.keysets.get? other).map fun keyset =>
      if other = id then keyset.undergo happening else keyset

/-- A frame happens to the keyset that it is addressed to, and to no other. -/
theorem happens_receiveFrame
    (bank : KeysetBank)
    (frame : Frame) :
    bank.Happens frame.id (.received frame) (bank.receiveFrame frame).1 where
  growing := by
    intro growing
    unfold receiveFrame
    split
    · exact growing
    · exact growing.insert _ _
  get? := by
    intro other
    rw [get?_receiveFrame]
    by_cases isOwn : other = frame.id
    · subst other
      simp [Keyset.receiveAll, Keyset.undergo]
    · have isOther : frame.id ≠ other := Ne.symm isOwn
      simp [Keyset.receiveAll, isOwn, isOther]

/-- An action happens to the keyset it is asked of, and to no other. -/
theorem happens_perform
    (bank : KeysetBank)
    (id : InterfaceId)
    (action : KeysetAction) :
    bank.Happens id (.did action) (bank.perform id action) where
  growing := by
    intro growing
    unfold perform
    split
    · exact growing.insert _ _
    · exact growing
  get? := by
    intro other
    unfold perform
    by_cases isOwn : other = id
    · subst other
      cases found : bank.keysets.get? id <;> simp [found, Keyset.undergo]
    · cases bank.keysets.get? id <;> simp [isOwn]

/-- A bank that serves each keyset by itself still does when one of them has had its turn. -/
theorem Serves.happen
    (serves : Serves start history sent bank)
    {id : InterfaceId}
    {happening : Happening}
    {after : KeysetBank}
    (happens : bank.Happens id happening after)
    (notTaken : happening.takes = false) :
    Serves start (history ++ [(id, happening)]) sent after where
  growing := happens.growing serves.growing
  alone := by
    intro other
    rw [happens.get?, meantFor_append, meantFor_singleton]
    by_cases isOwn : other = id
    · subst other
      simp only [if_true, Option.map_map, Function.comp_def, Keyset.undergoAll_append]
      simp only [← Keyset.undergo_behind _ _ notTaken]
      have earlier := congrArg (Option.map (·.undergo happening)) (serves.alone id)
      simp only [Option.map_map, Function.comp_def] at earlier
      exact earlier
    · have isOther : id ≠ other := Ne.symm isOwn
      simp only [if_neg isOwn, if_neg isOther, List.append_nil, Option.map_id']
      exact serves.alone other
  owns := by
    intro other keyset found
    rw [happens.get?, Option.map_eq_some_iff] at found
    obtain ⟨before, held, rfl⟩ := found
    obtain ⟨isOwn, owns⟩ := serves.owns held
    split
    · have queues := before.queues_undergo notTaken
      exact ⟨queues.1.trans isOwn, owns.later queues⟩
    · exact ⟨isOwn, owns⟩
  unowned := serves.unowned

/-! ## Taking what is to be sent -/

/-- Of what is taken of keysets that own it, the part with a number is that keyset's. -/
theorem filter_flatMap_output
    {entries : List (InterfaceId × Keyset)}
    (nodup : (entries.map Prod.fst).Nodup)
    (owns : ∀ entry ∈ entries, ∀ frame ∈ entry.2.output, frame.id = entry.1)
    (id : InterfaceId) :
    ((entries.map Prod.snd).flatMap Keyset.output).filter (·.id = id) =
      ((entries.lookup id).map Keyset.output).getD [] := by
  induction entries with
  | nil =>
      rfl
  | cons entry rest inductionHypothesis =>
      obtain ⟨key, keyset⟩ := entry
      obtain ⟨notLater, restNodup⟩ := List.nodup_cons.mp nodup
      obtain ⟨ownFirst, ownRest⟩ := List.forall_mem_cons.mp owns
      have later := inductionHypothesis restNodup ownRest
      rw [List.map_cons, List.flatMap_cons, List.filter_append, later,
        AssociationList.lookup_cons_eq_ite]
      by_cases isFirst : id = key
      · subst key
        have nothing : rest.lookup id = none := by
          rw [List.lookup_eq_none_iff]
          intro other member
          have differs : other.1 ≠ id := fun same =>
            notLater (List.mem_map.mpr ⟨other, member, same⟩)
          exact bne_iff_ne.mpr (Ne.symm differs)
        have all : keyset.output.filter (·.id = id) = keyset.output :=
          List.filter_eq_self.mpr fun frame member => decide_eq_true (ownFirst frame member)
        simp [nothing, all]
      · have none : keyset.output.filter (·.id = id) = [] :=
          List.filter_eq_nil_iff.mpr fun frame member isId =>
            isFirst ((of_decide_eq_true isId).symm.trans (ownFirst frame member))
        rw [none, if_neg isFirst, List.nil_append]

/-- When the output of a bank is taken, it is taken of each keyset. -/
theorem get?_takeOutput
    (bank : KeysetBank)
    (id : InterfaceId) :
    bank.takeOutput.2.keysets.get? id =
      (bank.keysets.get? id).map (·.takeOutput.2) := by
  have changed := AssociationList.lookup_map_value
    (fun _ keyset => (Keyset.takeOutput keyset).2) bank.keysets.entries id
  exact changed

/-- What is taken of a bank for an interface is what its keyset had ready. -/
theorem Serves.filter_taken
    (serves : Serves start history sent bank)
    (id : InterfaceId) :
    bank.takeOutput.1.filter (·.id = id) =
      ((bank.keysets.get? id).map Keyset.output).getD [] := by
  have nodup : (bank.keysets.entries.map Prod.fst).Nodup := serves.growing.nodup_keys
  refine filter_flatMap_output nodup ?_ id
  rintro ⟨key, keyset⟩ member frame isQueued
  have found := (serves.growing.mem_entries_iff key keyset).mp member
  obtain ⟨isOwn, owns⟩ := serves.owns found
  exact (owns frame isQueued).trans isOwn

/-- Taking the output changes no keyset but for the frames that were taken of it. -/
theorem Serves.takeOutput
    (serves : Serves start history sent bank) :
    Serves start history (sent ++ bank.takeOutput.1) bank.takeOutput.2 where
  growing := by
    have growing := serves.growing
    unfold SortedMap.Growing at growing ⊢
    exact List.Pairwise.map _ (fun _ _ less => less) growing
  alone := by
    intro id
    rw [← serves.alone id, get?_takeOutput, List.filter_append, serves.filter_taken]
    cases bank.keysets.get? id with
    | none =>
        rfl
    | some keyset =>
        simp [Keyset.behind, Keyset.takeOutput]
  owns := by
    intro id keyset found
    rw [get?_takeOutput, Option.map_eq_some_iff] at found
    obtain ⟨before, held, rfl⟩ := found
    refine ⟨(serves.owns held).1, fun frame member => ?_⟩
    cases member
  unowned := by
    intro id isUnowned
    have missing := serves.alone id
    rw [isUnowned, Option.map_none, Option.map_eq_none_iff] at missing
    rw [List.filter_append, serves.unowned isUnowned, serves.filter_taken, missing]
    rfl

/-! ## What frames did -/

/-- What a frame does to the keyset of its number, if there is one. -/
def effect (bank : KeysetBank) (frame : Frame) : Option KeysetUpdate :=
  (bank.keysets.get? frame.id).bind fun keyset => (keyset.receive frame).2

/-- A bank reports the effect that a frame has on the keyset it is addressed to. -/
theorem reports_receiveFrame
    (bank : KeysetBank)
    (frame : Frame) :
    (bank.receiveFrame frame).2 = BankReport.ofEffect (frame, bank.effect frame) := by
  unfold receiveFrame effect BankReport.ofEffect
  cases bank.keysets.get? frame.id <;> rfl

/--
Each frame of a history with what it did, which is what it would have done to its keyset by
itself, and nothing if there is no such keyset.
-/
structure Accounts
    (start : InterfaceId → Option Keyset)
    (history : List (InterfaceId × Happening))
    (effects : List (Frame × Option KeysetUpdate)) : Prop where
  frames : effects.map Prod.fst = framesIn history
  own : ∀ {id keyset}, start id = some keyset →
    (effects.filter (·.1.id = id)).map Prod.snd = keyset.answers (meantFor id history)
  unowned : ∀ effect ∈ effects, start effect.1.id = none → effect.2 = none

/-- The effect of one more frame is accounted for by the keyset it is addressed to. -/
theorem Accounts.receiveFrame
    (accounts : Accounts start history effects)
    (serves : Serves start history sent bank)
    (frame : Frame) :
    Accounts start (history ++ [(frame.id, .received frame)])
      (effects ++ [(frame, bank.effect frame)]) where
  frames := by
    rw [List.map_append, accounts.frames, framesIn_append]
    rfl
  own := by
    intro id keyset started
    rw [List.filter_append, List.map_append, accounts.own started, meantFor_append,
      meantFor_singleton, Keyset.answers_append]
    by_cases isOwn : frame.id = id
    · subst id
      have same := serves.alone frame.id
      rw [started, Option.map_some, Option.map_eq_some_iff] at same
      obtain ⟨held, found, same⟩ := same
      have answer : bank.effect frame =
          ((keyset.undergoAll (meantFor frame.id history)).receive frame).2 := by
        rw [effect, found, ← same, Keyset.receive_behind]
        rfl
      simp [answer, Keyset.answers, Keyset.answer]
    · simp [isOwn, Keyset.answers]
  unowned := by
    intro effect member isUnowned
    rcases List.mem_append.mp member with isEarlier | isNew
    · exact accounts.unowned effect isEarlier isUnowned
    · obtain rfl := List.mem_singleton.mp isNew
      have missing := serves.alone frame.id
      rw [isUnowned, Option.map_none, Option.map_eq_none_iff] at missing
      simp [KeysetBank.effect, missing]

/-- An action has no effect that a report could tell of. -/
theorem Accounts.did
    (accounts : Accounts start history effects)
    (id : InterfaceId)
    (action : KeysetAction) :
    Accounts start (history ++ [(id, .did action)]) effects where
  frames := by
    rw [accounts.frames, framesIn_append]
    exact (List.append_nil _).symm
  own := by
    intro other keyset started
    rw [accounts.own started, meantFor_append, meantFor_singleton, Keyset.answers_append]
    split <;> exact (List.append_nil _).symm
  unowned := accounts.unowned

/-- Frames come in one after another. -/
theorem Serves.receiveFrames
    (serves : Serves start history sent bank)
    (accounts : Accounts start history effects)
    (frames : List Frame) :
    Serves start (history ++ incoming frames) sent (bank.receiveFrames frames).1 ∧
      ∃ others,
        Accounts start (history ++ incoming frames) (effects ++ others) ∧
          (bank.receiveFrames frames).2 = others.flatMap BankReport.ofEffect := by
  induction frames generalizing history effects bank with
  | nil =>
      simp only [incoming, List.map_nil, List.append_nil]
      exact ⟨serves, [], (List.append_nil effects).symm ▸ accounts, rfl⟩
  | cons frame rest inductionHypothesis =>
      have stillServes := serves.happen (happens_receiveFrame bank frame) rfl
      have stillAccounts := accounts.receiveFrame serves frame
      obtain ⟨finallyServes, others, finallyAccounts, reports⟩ :=
        inductionHypothesis stillServes stillAccounts
      have joined : history ++ [(frame.id, .received frame)] ++ incoming rest =
          history ++ incoming (frame :: rest) := by
        rw [List.append_assoc]
        rfl
      rw [joined] at finallyServes finallyAccounts
      refine ⟨finallyServes, (frame, bank.effect frame) :: others, ?_, ?_⟩
      · rw [List.append_cons]
        exact finallyAccounts
      · simp only [KeysetBank.receiveFrames, reports_receiveFrame, reports, List.flatMap_cons]

/-! ## The beginning -/

/-- The keysets of a bank are found under their numbers. -/
theorem get?_ofKeysets
    {keysets : List Keyset}
    (distinct : (keysets.map Keyset.id).Nodup)
    (id : InterfaceId)
    (keyset : Keyset) :
    (ofKeysets keysets).keysets.get? id = some keyset ↔ keyset ∈ keysets ∧ keyset.id = id := by
  have nodup : (((keysets.map fun each => (each.id, each)).reverse).map Prod.fst).Nodup := by
    rw [List.map_reverse, List.nodup_reverse, List.map_map]
    exact distinct
  rw [ofKeysets, SortedMap.get?_ofList, AssociationList.lookup_eq_some_iff_mem nodup,
    List.mem_reverse, List.mem_map]
  constructor
  · rintro ⟨each, member, isEach⟩
    cases isEach
    exact ⟨member, rfl⟩
  · rintro ⟨member, rfl⟩
    exact ⟨keyset, member, rfl⟩

/-- A bank of keysets that own their output serves each of them from the beginning. -/
theorem serves_ofKeysets
    {keysets : List Keyset}
    (distinct : (keysets.map Keyset.id).Nodup)
    (own : ∀ keyset ∈ keysets, keyset.OwnsOutput) :
    Serves (ofKeysets keysets).keysets.get? [] [] (ofKeysets keysets) where
  growing := .ofList _
  alone := fun _ => rfl
  owns := by
    intro id keyset found
    obtain ⟨member, isOwn⟩ := (get?_ofKeysets distinct id keyset).mp found
    exact ⟨isOwn, own keyset member⟩
  unowned := fun _ => rfl

theorem accounts_nil
    (start : InterfaceId → Option Keyset) :
    Accounts start [] [] where
  frames := rfl
  own := fun _ => rfl
  unowned := fun _ member => (List.not_mem_nil member).elim

end KeysetBank

end StationLink
