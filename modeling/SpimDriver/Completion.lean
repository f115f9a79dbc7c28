/-
SpimDriver.Completion — the completion path, `irq_handler` and
`DD_SPI_IrqCallback`, seen from the user callback.

`DD_SPI_IrqCallback` invokes the callback first and clears `buzy` after
it returns (`Driver_SPI.c` lines 509-519). So a callback that runs on a
busy driver sees it busy: `GetStatus` reads 1, and every Send, Receive
and Transfer it makes is rejected with `DD_DRIVER_ERROR_BUSY` and changes
nothing (`irqCallback_of_busy`). When it returns, `buzy` is cleared.
`callback_sees_busy` is such a completion, at the end of a run from
process start.
-/
import SpimDriver.System

namespace SpimDriver

/-- On a busy driver, a callback of queries and requests reads `busy`,
has each request rejected, and changes nothing; then `buzy` is cleared. -/
theorem irqCallback_of_busy (P : Pulp) (s : State) (cb : List Call) (hcb : s.drv.callback = some cb)
    (hreq : ∀ c ∈ cb, c.isRequest = true) (hb : s.drv.buzy = true) :
    ddSpiIrqCallback P P.archiSocEventSpim0Eot s =
      ({ s with drv := { s.drv with buzy := false } }, cb.map (Call.busyReply s.drv)) := by
  simp only [ddSpiIrqCallback_spim0, hcb, runCalls_of_busy P s cb hreq hb]

/-- A callback that reads the status and chains a two-item Send, registered
by Initialize, at the completion of a Send: it reads busy, its Send is
rejected, and the driver is idle afterwards. -/
theorem callback_sees_busy :
    let cb := [Call.getStatus, .send ⟨0, [1, 2]⟩ 2 0]
    let s := ((Call.send ⟨0, [1, 2]⟩ 2 0).run Pulp.sample ((Call.init (some cb)).run Pulp.sample State.init).1).1
    State.init.steps Pulp.sample [.call (.init (some cb)), .call (.send ⟨0, [1, 2]⟩ 2 0)] = some s ∧
    0 < s.outstanding ∧ s.drv.buzy = true ∧
    (ddSpiIrqCallback Pulp.sample Pulp.sample.archiSocEventSpim0Eot s).2 = [1, ddDriverErrorBusy] ∧
    (ddSpiIrqCallback Pulp.sample Pulp.sample.archiSocEventSpim0Eot s).1.drv.buzy = false ∧
    (ddSpiIrqCallback Pulp.sample Pulp.sample.archiSocEventSpim0Eot s).1.soc.cmdBlocks = s.soc.cmdBlocks :=
  ⟨rfl, by decide⟩

theorem irqCallback_of_busy_send :
    let cb := [Call.getStatus, .send ⟨0, [1, 2]⟩ 2 0]
    let s := ((Call.send ⟨0, [1, 2]⟩ 2 0).run Pulp.sample ((Call.init (some cb)).run Pulp.sample State.init).1).1
    ddSpiIrqCallback Pulp.sample Pulp.sample.archiSocEventSpim0Eot s =
      ({ s with drv := { s.drv with buzy := false } }, cb.map (Call.busyReply s.drv)) :=
  irqCallback_of_busy Pulp.sample _ _ rfl (by decide) rfl

end SpimDriver
