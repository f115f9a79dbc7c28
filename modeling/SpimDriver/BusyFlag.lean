/-
SpimDriver.BusyFlag — what `buzy` says about the transfers, and that the
hardware always clears it.

In every run of whole calls `buzy` is set only while a transaction is
outstanding (`reachable_busyOutstanding`): only an accepted request sets
it, and it enqueues its command block in the same call; only Control's
abort clears the CMD channel, and it clears `buzy` too. The converse
fails without a discipline (`exclusion_counterexample`: Initialize and a
stale interrupt clear `buzy` under a transfer; `callback_abort_request`:
so does a callback that aborts and then makes a request, which is why
`Move.allowed` restricts what the registered callback calls), and
`Exclusive` gives it for the runs `Move.allowed` admits. `atomic_runAllowed` carries the first
half from runs of whole calls to every state between calls of an allowed
interleaving, so there the flag is exact: `DD_SPI_GetStatus` reports
busy, and a request is rejected, exactly when a transaction is
outstanding (`status_exact`).

`hardware_completes` is the other side of `masked_request_stuck`: with
the end of transfer routed to the FC, the hardware alone completes the
outstanding transaction of every state between calls, an end of
transfer if its block still runs and then the interrupt, and leaves the
driver idle with nothing else changed.
-/
import SpimDriver.Atomicity
import SpimDriver.ControlTheorems
import SpimDriver.RequestTheorems

namespace SpimDriver

/-- `buzy` is set only while a transaction is outstanding. -/
def BusyOutstanding (s : State) : Prop := s.drv.buzy = true → 0 < s.outstanding

section Runs

variable {P : Pulp}

/-- Every whole call keeps `buzy` backed by a transaction: an accepted
request opens one, a rejected one and a query change nothing, Control
touches `buzy` and the CMD channel only when it aborts and then clears
both, and Initialize and Uninitialize clear `buzy`. -/
theorem busyOutstanding_call (s : State) (c : Call) (hs : BusyOutstanding s) :
    BusyOutstanding (c.run P s).1 := by
  intro hb
  by_cases ht : c.isTransfer = true
  · by_cases hok : (c.run P s).2 = ddDriverOk
    · have := transfer_cmdBlocks c ht hok
      simp only [State.outstanding]
      omega
    · rw [transfer_rejected c ht hok] at hb ⊢
      exact hs hb
  · cases c with
    | control ctl arg freq clockdiv =>
      rw [control_buzy, Bool.and_eq_true] at hb
      have ha : ¬abortPath ctl := by simpa using hb.2
      have h := hs hb.1
      simp only [State.outstanding, control_soc, if_neg ha] at h ⊢
      split_ifs <;> exact h
    | init cb => simp [run_init] at hb
    | deinit => simp [run_deinit] at hb
    | getStatus => rw [run_getStatus] at hb ⊢; exact hs hb
    | getDataCount => rw [run_getDataCount] at hb ⊢; exact hs hb
    | _ => simp [Call.isTransfer] at ht

/-- The end of transfer moves a transaction to the FIFO, and the interrupt
ends with `buzy` clear. -/
theorem busyOutstanding_step {s s' : State} {ev : Event} (hs : BusyOutstanding s)
    (h : s.step P ev = some s') : BusyOutstanding s' := by
  rcases step_cases h with ⟨c, -, rfl⟩ | ⟨-, hc, -, rfl⟩ | ⟨-, c, -, rfl⟩
  · exact busyOutstanding_call s c hs
  · intro _
    simp only [State.outstanding]
    omega
  · intro hb
    simp [ddSpiIrqCallback_spim0] at hb

theorem reachable_busyOutstanding {s : State} (hs : Reachable P s) : BusyOutstanding s := by
  obtain ⟨es, hes⟩ := hs
  exact steps_invariant (fun _ _ _ hs h => busyOutstanding_step hs h) es _ _ (fun h => by cases h) hes

end Runs

/-- A callback that aborts and then makes a request leaves a transaction
outstanding with `buzy` clear after the interrupt that runs it: the abort
clears `buzy`, the request passes its test of `buzy` and enqueues its
block, and `DD_SPI_IrqCallback` then clears the `buzy` the request set. -/
theorem callback_abort_request (P : Pulp) (s s' : State) (arg freq : UInt32) (clockdiv : UInt8) (c : Call)
    (hcb : s.drv.callback = some [.control ddSpiAbortTransferCode arg freq clockdiv, c])
    (hc : c.isTransfer = true) (hn : c.count ≠ 0) (h : s.step P .irq = some s') :
    s'.drv.buzy = false ∧ 0 < s'.outstanding := by
  obtain ⟨-, soc, -, rfl⟩ := (step_cases h).resolve_left (by simp) |>.resolve_left (by simp)
  have hb₁ : ((Call.control ddSpiAbortTransferCode arg freq clockdiv).run P
      { s with soc := soc }).1.drv.buzy = false := by
    simp [control_buzy, abortPath]
  have hblk := (@transfer_cmdBlocks P _ c hc (transfer_accepted c hc hb₁ hn)).1
  simp only [ddSpiIrqCallback_spim0, hcb, runCalls_cons, runCalls_nil, State.outstanding, hblk, true_and]
  omega

/-- From process start, Initialize registers a callback that aborts and
then sends; a Send, its end of transfer and the interrupt leave a
transaction outstanding with `buzy` clear, and a second Send makes two.
Every other part of `Move.allowed` holds along the run: Initialize finds
the driver idle, and the abort runs after the interrupt has taken the
only raised end of transfer. -/
theorem callback_abort_request_run :
    let cb := [Call.control ddSpiAbortTransferCode 0 0 0, .send ⟨0, [1, 2]⟩ 2 0]
    let es := [Event.call (.init (some cb)), .call (.send ⟨0, [1, 2]⟩ 2 0), .eot]
    let s := (State.init.steps Pulp.sample es).getD State.init
    let s' := (s.step Pulp.sample .irq).getD s
    State.init.steps Pulp.sample (es ++ [.irq]) = some s' ∧ s.soc.take?.map (·.eot) = some 0 ∧
    s'.drv.buzy = false ∧ 0 < s'.outstanding ∧
    ((Call.send ⟨0, [1, 2]⟩ 2 0).run Pulp.sample s').1.outstanding = 2 := by
  intro cb es s s'
  have h := callback_abort_request Pulp.sample s s' 0 0 0 (.send ⟨0, [1, 2]⟩ 2 0) rfl rfl (by decide) rfl
  exact ⟨rfl, rfl, h.1, h.2, by decide⟩

/-- Between calls of every allowed interleaving from process start,
`DD_SPI_GetStatus` reports busy exactly when a transaction is
outstanding, and a request with at least one item is accepted exactly
when none is. -/
theorem status_exact (P : Pulp) (mvs : List Move) (m : Machine) (h : Machine.init.runAllowed P mvs = some m)
    (hfg : m.fg = none) :
    (Call.getStatus.run P m.st).2 = (if 0 < m.st.outstanding then 1 else 0) ∧
    ∀ c : Call, c.isTransfer = true → c.count ≠ 0 → ((c.run P m.st).2 = ddDriverOk ↔ m.st.outstanding = 0) := by
  have hb : m.st.drv.buzy = true ↔ 0 < m.st.outstanding :=
    ⟨reachable_busyOutstanding ((atomic_runAllowed h).idle hfg),
      (exclusive_runAllowed mvs _ _ exclusive_init h).drv.busy⟩
  refine ⟨by simp only [run_getStatus, hb], fun c hc hn => ⟨fun hok => ?_, fun h0 => ?_⟩⟩
  · have hidle := (transfer_cmdBlocks c hc hok).2.2
    by_contra hne
    rw [hb.mpr (Nat.pos_of_ne_zero hne)] at hidle
    cases hidle
  · exact transfer_accepted c hc (by simpa [h0] using hb.not) hn

theorem status_exact_send :
    let mvs := (Move.begin (.init none) :: List.replicate 7 .exec) ++
      (Move.begin (.send ⟨0, [1, 2]⟩ 2 0) :: List.replicate 10 .exec)
    let m := (Machine.init.runAllowed Pulp.sample mvs).getD Machine.init
    m.fg = none ∧ ((Call.getStatus.run Pulp.sample m.st).2 = (if 0 < m.st.outstanding then 1 else 0) ∧
      ∀ c : Call, c.isTransfer = true → c.count ≠ 0 →
        ((c.run Pulp.sample m.st).2 = ddDriverOk ↔ m.st.outstanding = 0)) := by
  intro mvs m
  exact ⟨rfl, status_exact Pulp.sample mvs m rfl rfl⟩

/-- From every state between calls of an allowed interleaving in which the
end of transfer is routed to the FC, the hardware alone completes the
outstanding transaction: an end of transfer if its command block still
runs, then the interrupt. They leave `buzy` clear, nothing outstanding,
and every other field as it was. -/
theorem hardware_completes (P : Pulp) (mvs : List Move) (m : Machine)
    (h : Machine.init.runAllowed P mvs = some m) (hfg : m.fg = none) (hev : m.st.soc.eotEvent = true) :
    ∃ hw : List Move, (∀ mv ∈ hw, mv = .eot ∨ mv = .irq) ∧
      m.runAllowed P hw = some ⟨m.st.hw false 0 0, none⟩ := by
  have hbo := reachable_busyOutstanding ((atomic_runAllowed h).idle hfg)
  obtain ⟨hone, hbusy, hst, hcb⟩ := (exclusive_runAllowed mvs _ _ exclusive_init h).drv
  obtain ⟨s, fg⟩ := m
  cases hfg
  simp only [BusyOutstanding, State.outstanding] at hone hbusy hbo
  rcases Nat.eq_zero_or_pos s.soc.cmdBlocks with hc | hc
  · rcases Nat.eq_zero_or_pos s.soc.eot with he | he
    · have hb : s.drv.buzy = false := by
        cases hb : s.drv.buzy
        · rfl
        · have := hbo hb; omega
      exact ⟨[], by simp, by rw [State.hw_of_eq hb hc he]; rfl⟩
    · refine ⟨[.irq], by simp, ?_⟩
      simp [Machine.runAllowed, Move.allowed, Machine.move, step_irq_of hst he (hbusy (by omega)) hcb, hc,
        show s.soc.eot - 1 = 0 by omega]
  · refine ⟨[.eot, .irq], by simp, ?_⟩
    have hb := hbusy (by omega)
    have hirq : (s.hw s.drv.buzy 0 1).step P .irq = some (s.hw false 0 0) := step_irq_of hst Nat.one_pos hb hcb
    simp [Machine.runAllowed, Move.allowed, Machine.move, step_eot_of hc hev, hirq,
      show s.soc.cmdBlocks - 1 = 0 by omega, show s.soc.eot = 0 by omega]

theorem hardware_completes_send :
    let mvs := (Move.begin (.init none) :: List.replicate 7 .exec) ++
      (Move.begin (.send ⟨0, [1, 2]⟩ 2 0) :: List.replicate 10 .exec)
    let m := (Machine.init.runAllowed Pulp.sample mvs).getD Machine.init
    m.fg = none ∧ m.st.soc.eotEvent = true ∧ ∃ hw : List Move, (∀ mv ∈ hw, mv = .eot ∨ mv = .irq) ∧
      m.runAllowed Pulp.sample hw = some ⟨m.st.hw false 0 0, none⟩ := by
  intro mvs m
  exact ⟨rfl, rfl, hardware_completes Pulp.sample mvs m rfl rfl rfl⟩

end SpimDriver
