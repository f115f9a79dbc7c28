/-
SpimDriver.Lifecycle — requests and the end-of-transfer event.

No request checks that the driver is initialized: from an idle driver,
Send, Receive and Transfer accept a request whether or not the SPIM end
of transfer is routed to the FC (`transfer_accepted`). What clears `buzy`
is the completion interrupt, Initialize, Uninitialize, and the Control
calls that abort (`buzy_cleared_by`). So a request accepted while the
event is masked, with no raised event in the FIFO, leaves the driver
busy in every later state of every run that makes none of those calls:
no end of transfer can be raised or delivered there (`StuckBusy`,
`stuckBusy_steps`, `masked_request_stuck`).
-/
import SpimDriver.System
import SpimDriver.ControlTheorems
import SpimDriver.RequestTheorems

namespace SpimDriver

/-- The calls that clear `buzy` without an interrupt or unmask the end of
transfer: Initialize, Uninitialize, and the Control calls that abort. -/
def Event.releases : Event → Bool
  | .call (.init _) | .call .deinit => true
  | .call (.control ctl _ _ _) => decide (abortPath ctl)
  | _ => false

/-- Busy, with the end of transfer masked and none raised: no interrupt can come. -/
structure StuckBusy (s : State) : Prop where
  buzy : s.drv.buzy = true
  masked : s.soc.eotEvent = false
  noEot : s.soc.eot = 0
  noStale : s.soc.staleEot = 0

section Lifecycle

variable {P : Pulp}

/-- A call that does not release a busy driver keeps it busy and leaves
the end-of-transfer fields alone: a request is rejected, a query reads,
a Control that does not abort touches neither `buzy` nor the events. -/
theorem call_of_busy {s : State} (hb : s.drv.buzy = true) (c : Call)
    (hc : (Event.call c).releases = false) :
    (c.run P s).1.drv.buzy = true ∧ (c.run P s).1.soc.eotEvent = s.soc.eotEvent ∧
    (c.run P s).1.soc.eot = s.soc.eot ∧ (c.run P s).1.soc.staleEot = s.soc.staleEot := by
  by_cases ht : c.isTransfer = true
  · rcases @transfer_cases P s c ht with h | ⟨hb', -⟩
    · simp [h, hb]
    · rw [hb] at hb'; cases hb'
  · cases c with
    | control ctl arg freq clockdiv =>
      have ha : ¬abortPath ctl := by simpa [Event.releases] using hc
      rw [control_buzy, control_soc, if_neg ha]
      split_ifs <;> simp [hb, ha]
    | getStatus => simp [run_getStatus, hb]
    | getDataCount => simp [run_getDataCount, hb]
    | _ => simp [Event.releases, Call.isTransfer] at hc ht

theorem stuckBusy_call {s : State} (hs : StuckBusy s) (c : Call) (hc : (Event.call c).releases = false) :
    StuckBusy (c.run P s).1 := by
  obtain ⟨hb, hm, he, hst⟩ := call_of_busy hs.buzy c hc
  exact ⟨hb, hm.trans hs.masked, he.trans hs.noEot, hst.trans hs.noStale⟩

/-- No end of transfer is raised or taken in a stuck state. -/
theorem stuckBusy_step {s s' : State} {e : Event} (hs : StuckBusy s) (he : e.releases = false)
    (h : s.step P e = some s') : StuckBusy s' := by
  rcases step_cases h with ⟨c, rfl, rfl⟩ | ⟨-, -, hev, -⟩ | ⟨-, c, hc, -⟩
  · exact stuckBusy_call hs c he
  · rw [hs.masked] at hev; cases hev
  · simp [Soc.take?, hs.noEot, hs.noStale] at hc

theorem stuckBusy_steps {s s' : State} {es : List Event} (hs : StuckBusy s)
    (hes : ∀ e ∈ es, e.releases = false) (h : s.steps P es = some s') : StuckBusy s' :=
  @steps_invariant_on P StuckBusy (fun e => e.releases = false)
    (fun _ _ _ he hs h => stuckBusy_step hs he h) es s s' hes hs h

/-- Only the interrupt and the releasing calls clear `buzy`. -/
theorem buzy_cleared_by {s s' : State} {e : Event} (hb : s.drv.buzy = true)
    (h : s.step P e = some s') (hb' : s'.drv.buzy = false) : e = .irq ∨ e.releases = true := by
  rcases step_cases h with ⟨c, rfl, rfl⟩ | ⟨rfl, -, -, rfl⟩ | ⟨rfl, -⟩
  · cases he : (Event.call c).releases
    · rw [(call_of_busy hb c he).1] at hb'; cases hb'
    · exact .inr rfl
  · simp [hb] at hb'
  · exact .inl rfl

end Lifecycle

/-- From process start, before any Initialize, Send accepts a request:
the driver is busy with the end of transfer masked. -/
theorem masked_request_accepted :
    let r := (Call.send ⟨0, [1, 2]⟩ 2 0).run Pulp.sample State.init
    State.init.steps Pulp.sample [.call (.send ⟨0, [1, 2]⟩ 2 0)] = some r.1 ∧
    r.2 = ddDriverOk ∧ r.1.drv.buzy = true ∧ r.1.soc.eotEvent = false :=
  ⟨rfl, by decide⟩

/-- A request with at least one item is accepted from every idle driver,
the end of transfer masked or not. Accepted with it masked and none
raised, it leaves the driver busy, with no end of transfer to raise or
take, along every run that makes no Initialize, Uninitialize or aborting
Control. And only the interrupt and those calls ever clear `buzy`. -/
theorem masked_request_stuck (P : Pulp) (s : State) (c : Call)
    (hc : c.isTransfer = true) (hb : s.drv.buzy = false) (hn : c.count ≠ 0) :
    (c.run P s).2 = ddDriverOk ∧
    (s.soc.eotEvent = false → s.soc.eot = 0 → s.soc.staleEot = 0 →
      ∀ es s', (∀ e ∈ es, e.releases = false) → (c.run P s).1.steps P es = some s' →
        s'.drv.buzy = true ∧ s'.soc.raise? = none ∧ s'.soc.take? = none) ∧
    (∀ (t t' : State) e, t.drv.buzy = true → t.step P e = some t' → t'.drv.buzy = false →
      e = .irq ∨ e.releases = true) := by
  have hok := @transfer_accepted P s c hc hb hn
  refine ⟨hok, fun hmask heot hstale es s' hes hrun => ?_, fun _ _ _ => buzy_cleared_by⟩
  have hs : StuckBusy (c.run P s).1 := by
    rcases @transfer_cases P s c hc with h | ⟨-, _, _, _, _, h, -⟩
    · rw [h] at hok; exact absurd hok (by simp [ddDriverOk, ddDriverErrorBusy])
    · rw [h]; exact ⟨rfl, by simp [hmask], by simp [heot], by simp [hstale]⟩
  have h' := stuckBusy_steps hs hes hrun
  exact ⟨h'.buzy, by simp [Soc.raise?, h'.masked], by simp [Soc.take?, h'.noEot, h'.noStale]⟩

theorem masked_request_stuck_init :
    ((Call.send ⟨0, [1, 2]⟩ 2 0).run Pulp.sample State.init).2 = ddDriverOk ∧
    (State.init.soc.eotEvent = false → State.init.soc.eot = 0 → State.init.soc.staleEot = 0 →
      ∀ es s', (∀ e ∈ es, e.releases = false) →
        ((Call.send ⟨0, [1, 2]⟩ 2 0).run Pulp.sample State.init).1.steps Pulp.sample es = some s' →
        s'.drv.buzy = true ∧ s'.soc.raise? = none ∧ s'.soc.take? = none) ∧
    (∀ (t t' : State) e, t.drv.buzy = true → t.step Pulp.sample e = some t' → t'.drv.buzy = false →
      e = .irq ∨ e.releases = true) :=
  masked_request_stuck Pulp.sample State.init _ rfl rfl (by decide)

end SpimDriver
