/-
SpimDriver.Interleaving — the driver one statement at a time, with the
completion interrupt between any two statements of a foreground call.

A `Machine` is the driver's state and the foreground call in progress, if
any: the statements it has still to run and its result local. A `Move` is
the application starting a call (`begin`, only when no call is in
progress), the foreground running its next statement (`exec`, which also
returns from the call when none is left or `ifIdle` finds the driver
busy), the hardware raising an end of transfer (`eot`), or the FC taking
the interrupt (`irq`). The hardware moves are `State.step`'s: the
interrupt runs `irq_handler` whole, the callback's calls with it, since
the FC does not nest the SoC-event interrupt.

`SpimDriver.Atomicity` connects the two levels of the model: in the
interleavings the driver's protocol allows, every call takes effect as
if `Call.run` ran it whole.
-/
import SpimDriver.System

namespace SpimDriver

/-- The driver and the foreground call in progress. -/
structure Machine where
  st : State
  fg : Option (List Stmt × Int)

def Machine.init : Machine := ⟨State.init, none⟩

inductive Move
  | begin (c : Call)
  | exec
  | eot
  | irq

def Machine.move (P : Pulp) (m : Machine) : Move → Option Machine
  | .begin c => if m.fg.isNone then some ⟨m.st, some (c.stmts P, 0)⟩ else none
  | .exec =>
    match m.fg with
    | none => none
    | some ([], _) => some ⟨m.st, none⟩
    | some (st :: rest, e) =>
      match st.exec P (m.st, e) with
      | none => some ⟨m.st, none⟩
      | some (s', e') => some ⟨s', some (rest, e')⟩
  | .eot => (m.st.step P .eot).map fun s => ⟨s, m.fg⟩
  | .irq => (m.st.step P .irq).map fun s => ⟨s, m.fg⟩

def Machine.run (P : Pulp) : Machine → List Move → Option Machine
  | m, [] => some m
  | m, mv :: mvs => (m.move P mv).bind fun m' => m'.run P mvs

end SpimDriver
