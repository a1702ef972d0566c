import StationLink.Proofs.Closing

namespace StationLink.Multiplexer

/-!
# After the end of the transport

When the transport is lost, or when the multiplexer is closed, the owner hears once of each
link that was up. From then on the multiplexer is dead: interfaces can still be registered
and removed, but none is brought up, nothing is sent, and no timer is linked again
(`dead_for_good`).
-/

/-- No link is up, no timer is linked, and neither training nor sending can begin. -/
structure Dead (mux : Multiplexer) : Prop where
  notRunning : ∀ id, mux.table.state id ≠ .running
  unlinked : ∀ handle, mux.table.timers.isLinked handle = false
  notRaised : ∀ id now, mux.raise id now = .error .transportClosed
  notSent : ∀ id sending, ∃ error, mux.submit id sending = (.error error, { mux })

/-- Without an attempt to write nothing is written. -/
theorem written_of_noneTried
    {journal : List (Occurrence Report)}
    (noneTried : tried journal = []) :
    written journal = [] := by
  refine List.filterMap_eq_nil_iff.mpr fun occurrence member => ?_
  have notTried := List.filterMap_eq_nil_iff.mp noneTried occurrence member
  cases occurrence with
  | sent frame =>
      cases notTried
  | _ =>
      rfl

namespace Orderly

variable {mux : Multiplexer}

theorem dead
    (orderly : mux.Orderly)
    (isClosed : mux.isOpen = false) :
    mux.Dead where
  notRunning := by
    intro id isRunning
    have notRunning := (orderly.disabled isClosed id).isRunning_eq_false
    have stillRunning := (LinkTable.state_eq_running_iff _ id).mp isRunning
    exact Bool.false_ne_true (notRunning.symm.trans stillRunning)
  unlinked := by
    intro handle
    rw [TimerQueue.isLinked_eq]
    cases slot : mux.table.timers.get? handle with
    | none =>
        rfl
    | some timer =>
        have dormant := orderly.inStep.dormant (orderly.disabled isClosed timer.data)
        exact dormant.unlinked handle timer slot rfl
  notRaised := raise_of_notOpen isClosed
  notSent := exists_error_of_notOpen isClosed

/-- The loss of the transport is no reason to write, so no write of it can fail. -/
theorem carriedOut_loseTransport
    (orderly : mux.Orderly) :
    mux.stranded.CarriedOut [] mux.table.transportLost.2 [] (mux.loseTransport none) := by
  obtain ⟨ids, carriedOut⟩ := orderly.exists_carriedOut_loseTransport
  have noneFailed : ids = [] := by
    refine List.eq_nil_iff_forall_not_mem.mpr fun failed member => ?_
    obtain ⟨frame, isFrame, _⟩ := carriedOut.failed failed member
    rw [LinkTable.frames_transportLost] at isFrame
    cases isFrame
  exact noneFailed ▸ carriedOut

theorem about_delivered_loseTransport
    (orderly : mux.Orderly)
    (id : InterfaceId) :
    Report.about id (delivered (mux.loseTransport none).journal) = mux.table.losses id := by
  have wanted : mux.stranded.reports.isWanted = !mux.closed := orderly.wanted
  rw [orderly.carriedOut_loseTransport.delivered, wanted, LinkTable.shutAll, List.append_nil,
    List.append_nil]
  cases closed : mux.closed with
  | true =>
      exact (orderly.losses_of_notOpen (orderly.released closed) id).1.symm
  | false =>
      exact LinkTable.reports_transportLost orderly.inStep id

/-- However it ends, the owner hears once of each link that was up, and of nothing else. -/
theorem about_delivered_ending
    (orderly : mux.Orderly)
    {ending : Operation}
    (isEnding : ending = .loseTransport ∨ ending = .close)
    (id : InterfaceId) :
    Report.about id (delivered (mux.perform ending).journal) = mux.table.losses id := by
  rcases isEnding with isLoss | isClose
  · subst isLoss
    exact orderly.about_delivered_loseTransport id
  · subst isClose
    exact orderly.about_delivered_close id

theorem isOpen_ending
    (orderly : mux.Orderly)
    {ending : Operation}
    (isEnding : ending = .loseTransport ∨ ending = .close) :
    (mux.perform ending).mux.isOpen = false := by
  rcases isEnding with isLoss | isClose
  · subst isLoss
    exact orderly.carriedOut_loseTransport.standing.isOpen
  · subst isClose
    cases closed : mux.closed with
    | true =>
        simp only [Multiplexer.perform, close_of_closed closed]
        exact orderly.released closed
    | false =>
        exact (orderly.closes closed).isOpen

end Orderly

/--
However a multiplexer came to be as it is, and whichever writes fail: when its transport is
lost or it is closed, the loss of each link that is up is reported once, and nothing else
is. The loss of the transport is no reason to write. Whatever is done afterwards is done to
the end, but nothing is written or tried, nothing is reported, and the multiplexer is dead.
-/
theorem dead_for_good
    (settings : LinkSettings)
    (accepts : Nat → Bool)
    (refusal : String)
    (before after : List Operation)
    (ending : Operation)
    (isEnding : ending = .loseTransport ∨ ending = .close) :
    let mux := ((onFallibleLine settings accepts refusal).run before).mux
    let atEnd := mux.perform ending
    let last := atEnd.mux.run after
    (∀ id, Report.about id (delivered atEnd.journal) = mux.table.losses id) ∧
      (ending = .loseTransport → tried atEnd.journal = []) ∧
      last.backlog = [] ∧ delivered last.journal = [] ∧
      tried last.journal = [] ∧ written last.journal = [] ∧
      last.mux.Dead := by
  intro mux atEnd last
  have orderly : mux.Orderly := ((Orderly.onFallibleLine settings accepts refusal).run before).2
  have isClosed : atEnd.mux.isOpen = false := orderly.isOpen_ending isEnding
  have afterwards : atEnd.mux.Orderly := (orderly.perform ending).2
  have silent := afterwards.silent_run isClosed after
  obtain ⟨complete, stillOrderly⟩ := afterwards.run after
  refine ⟨orderly.about_delivered_ending isEnding, ?_, complete, silent.delivered, silent.tried,
    written_of_noneTried silent.tried, stillOrderly.dead silent.isOpen⟩
  intro isLoss
  subst isLoss
  exact orderly.carriedOut_loseTransport.tried

/--
One link is up and another is in training when the transport is lost. What is done later
includes registering a third interface and all that could have brought it up.
-/
theorem dead_after_loss :
    let desk : InterfaceParams := { channel := 1, hardwareName? := some "desk" }
    let before : List Operation :=
      [.addInterface 1 (some desk) 0, .addInterface 2 none 0, .raise 1 0, .raise 2 0, .sweep 0,
        .receive [.ack 1] 1]
    let after : List Operation :=
      [.addInterface 3 none 2, .raise 3 2, .raise 2 2, .sweep 9000, .send 1 false [65],
        .lower 1, .removeInterface 2, .setFilter none, .receive [.ack 3] 9001, .close]
    let mux := ((onFallibleLine {} (fun _ => true) "refused").run before).mux
    let atEnd := mux.perform .loseTransport
    let last := atEnd.mux.run after
    Report.about 1 (delivered atEnd.journal) = [.ofLinkStatus 1 "desk" .lost] ∧
      Report.about 2 (delivered atEnd.journal) = [] ∧ tried atEnd.journal = [] ∧
      delivered last.journal = [] ∧ written last.journal = [] ∧ last.mux.Dead := by
  intro desk before after mux atEnd last
  have first : mux.table.losses 1 = [.ofLinkStatus 1 "desk" .lost] := by
    decide +kernel
  have second : mux.table.losses 2 = [] := by
    decide +kernel
  obtain ⟨reported, noneTried, _, silent, _, noneWritten, dead⟩ :=
    dead_for_good {} (fun _ => true) "refused" before after .loseTransport (.inl rfl)
  exact ⟨(reported 1).trans first, (reported 2).trans second, noneTried rfl, silent,
    noneWritten, dead⟩

end StationLink.Multiplexer
