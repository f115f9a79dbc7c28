/-
SpimDriver.System — the driver in its environment, one whole call at a
time.

An `Event` is a call of the interface by the application, the hardware
raising the end of transfer of a running command block, or the FC taking
the SoC-event interrupt. `State.steps` runs a list of events from a
state; `Reachable` is every state some list reaches from `State.init`.

The environment is the one the spec describes (§4.3, §5): the hardware
raises at most one end of transfer per command block, at any time after
its enqueue while the block is still on the channel, and only while the
event is routed to the FC (`soc_eu_fcEventMask`); a raised event stays in
the FIFO until the interrupt takes it, even if an abort clears its block
in between. Interrupts preempting a call halfway are the subject of
`SpimDriver.Interleaving`; here a call runs whole.

`steps_invariant` is the induction every run lemma of the development
goes through: a property that holds of a state and that every event
keeps holds of every state a run reaches from it.
-/
import SpimDriver.DriverTheorems

namespace SpimDriver

/-- What can happen next. -/
inductive Event
  | call (c : Call)
  | eot
  | irq

/-- The hardware raises the end of transfer of a running command block. -/
def Soc.raise? (c : Soc) : Option Soc :=
  if 0 < c.cmdBlocks ∧ c.eotEvent = true then
    some { c with cmdBlocks := c.cmdBlocks - 1, eot := c.eot + 1 }
  else none

/-- The interrupt takes the oldest event of the FIFO. Stale events were
raised before the abort that made them stale, so they come first. -/
def Soc.take? (c : Soc) : Option Soc :=
  if 0 < c.staleEot then some { c with staleEot := c.staleEot - 1 }
  else if 0 < c.eot then some { c with eot := c.eot - 1 }
  else none

def State.step (P : Pulp) (s : State) : Event → Option State
  | .call c => some (c.run P s).1
  | .eot => s.soc.raise?.map fun c => { s with soc := c }
  | .irq => s.soc.take?.map fun c => irqHandler P P.archiSocEventSpim0Eot { s with soc := c }

def State.steps (P : Pulp) : State → List Event → Option State
  | s, [] => some s
  | s, e :: es => (s.step P e).bind fun s' => s'.steps P es

/-- The states the driver reaches from process start. -/
def Reachable (P : Pulp) (s : State) : Prop := ∃ es, State.init.steps P es = some s

section

variable {P : Pulp}

@[simp] theorem steps_nil (s : State) : s.steps P [] = some s := rfl

theorem steps_cons (s : State) (e : Event) (es : List Event) :
    s.steps P (e :: es) = (s.step P e).bind fun s' => s'.steps P es := rfl

theorem steps_append (s : State) (es es' : List Event) :
    s.steps P (es ++ es') = (s.steps P es).bind fun s' => s'.steps P es' := by
  induction es generalizing s with
  | nil => rfl
  | cons e es ih =>
    simp only [List.cons_append, steps_cons]
    cases s.step P e <;> simp [ih]

@[simp] theorem irqHandler_eot (s : State) :
    irqHandler P P.archiSocEventSpim0Eot s = (ddSpiIrqCallback P P.archiSocEventSpim0Eot s).1 := if_pos rfl

/-- Every step is one of the three kinds, with its guard. -/
theorem step_cases {s s' : State} {e : Event} (h : s.step P e = some s') :
    (∃ c, e = .call c ∧ s' = (c.run P s).1) ∨
    (e = .eot ∧ 0 < s.soc.cmdBlocks ∧ s.soc.eotEvent = true ∧
      s' = { s with soc := { s.soc with cmdBlocks := s.soc.cmdBlocks - 1, eot := s.soc.eot + 1 } }) ∨
    (e = .irq ∧ ∃ c, s.soc.take? = some c ∧
      s' = (ddSpiIrqCallback P P.archiSocEventSpim0Eot { s with soc := c }).1) := by
  cases e with
  | call c => exact .inl ⟨c, rfl, (Option.some.inj h).symm⟩
  | eot =>
    simp only [State.step, Soc.raise?] at h
    split_ifs at h with hg
    · simp only [Option.map_some', Option.some.injEq] at h
      exact .inr (.inl ⟨rfl, hg.1, hg.2, h.symm⟩)
    · simp at h
  | irq =>
    simp only [State.step] at h
    obtain ⟨c, hc, rfl⟩ := Option.map_eq_some'.mp h
    exact .inr (.inr ⟨rfl, c, hc, by simp⟩)

/-- A run through an event is a run to it, the event, and a run from its result. -/
theorem steps_split {s s' : State} {es es' : List Event} {e : Event}
    (h : s.steps P (es ++ e :: es') = some s') :
    ∃ s₀ s₁, s.steps P es = some s₀ ∧ s₀.step P e = some s₁ ∧ s₁.steps P es' = some s' := by
  rw [steps_append] at h
  obtain ⟨s₀, h₀, h⟩ := Option.bind_eq_some.mp h
  obtain ⟨s₁, h₁, h⟩ := Option.bind_eq_some.mp h
  exact ⟨s₀, s₁, h₀, h₁, h⟩

/-- A property every allowed event keeps holds along every run of allowed events. -/
theorem steps_invariant_on {Inv : State → Prop} {Adm : Event → Prop}
    (hstep : ∀ s e s', Adm e → Inv s → s.step P e = some s' → Inv s') :
    ∀ (es : List Event) (s s' : State), (∀ e ∈ es, Adm e) → Inv s → s.steps P es = some s' → Inv s'
  | [], s, s', _, hs, h => by cases h; exact hs
  | e :: es, s, s', hadm, hs, h => by
    rw [steps_cons] at h
    obtain ⟨s₁, h₁, h₂⟩ := Option.bind_eq_some.mp h
    exact steps_invariant_on hstep es s₁ s' (fun e he => hadm e (.tail _ he))
      (hstep s e s₁ (hadm e (.head _)) hs h₁) h₂

/-- A property every event keeps holds along every run. -/
theorem steps_invariant {Inv : State → Prop}
    (hstep : ∀ s e s', Inv s → s.step P e = some s' → Inv s') (es : List Event) (s s' : State)
    (hs : Inv s) (h : s.steps P es = some s') : Inv s' :=
  @steps_invariant_on P Inv (fun _ => True) (fun s e s' _ => hstep s e s') es s s' (fun _ _ => trivial) hs h

/-- The calls of a callback keep what every call keeps. -/
theorem runCalls_invariant {Inv : State → Prop} (hcall : ∀ (c : Call) s, Inv s → Inv (c.run P s).1) :
    ∀ (cb : List Call) (s : State), Inv s → Inv (runCalls P cb s).1
  | [], _, hs => hs
  | c :: cb, s, hs => runCalls_invariant hcall cb _ (hcall c s hs)

/-- A property of the driver record that every call keeps, and that
clearing `buzy` keeps, holds along every run: the hardware's events touch
the SoC only, and the interrupt runs calls and then clears `buzy`. -/
theorem steps_drv_invariant {Inv : DriverSpi → Prop}
    (hcall : ∀ (c : Call) (s : State), Inv s.drv → Inv (c.run P s).1.drv)
    (hidle : ∀ d, Inv d → Inv { d with buzy := false }) :
    ∀ (es : List Event) (s s' : State), Inv s.drv → s.steps P es = some s' → Inv s'.drv :=
  @steps_invariant P (fun s => Inv s.drv) fun s _ _ hs h => by
    rcases step_cases h with ⟨c, -, rfl⟩ | ⟨-, -, -, rfl⟩ | ⟨-, c, -, rfl⟩
    · exact hcall c s hs
    · exact hs
    · rw [ddSpiIrqCallback_spim0]
      apply hidle
      split
      · exact @runCalls_invariant P (fun s => Inv s.drv) hcall _ _ hs
      · exact hs

end

end SpimDriver
