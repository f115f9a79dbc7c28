/-
SpimDriver.InterleavingTheorems — one transaction at a time, in the runs
where the driver is used as its protocol needs.

## Without a discipline

`exclusion_counterexample`: Send, then Initialize, then Send, each run to
its end from process start, leave two transactions on the CMD channel:
Initialize clears `buzy` without aborting the transfer in flight, so the
second Send passes its test of `buzy`. An abort while an end of transfer
waits in the FIFO leaves it stale, and its interrupt later clears `buzy`
under the next transaction.

## The discipline and the invariant

`Move.allowed` admits the runs in which Initialize is called only on an
idle driver and registers a callback of queries and requests, and in
which the CMD channel is cleared only when no raised end of transfer
waits for its interrupt (such an event, stale after the abort, would
clear `buzy` under the next transaction).

`Exclusive` is the invariant: at most one transaction is outstanding,
`buzy` is set while one is, no stale event is in the FIFO, the callback
makes only queries and requests (`DriverInv`), and the statements left of
the foreground call agree with the state (`FrameInv`). The last part is
what an interrupt between two statements needs: a request that has
passed its test of `buzy` and not yet enqueued its command block sees no
transaction; one that has also set `buzy` sees it set; a function that
clears `buzy` without clearing the CMD channel first runs with none
outstanding.

The frame conditions follow from the order of the statements alone:
`Stmt.kind` sorts the statements the argument reads, `wellShaped` states
what must come after each, and `stmts_shape` checks it for every driver
function. `exec_kind` is the one fact about a statement's effect the
argument uses. `exclusive_move` is the step lemma and `one_transaction`
the run theorem.
-/
import SpimDriver.Interleaving

namespace SpimDriver

/-! ## Without a discipline -/

/-- From process start: Send then Initialize leave a transaction
outstanding with `buzy` clear, and a second Send makes two. And with
Initialize first: an abort while the first Send's end of transfer waits
in the FIFO makes it stale, and its interrupt clears `buzy` under the
next Send's transaction. -/
theorem exclusion_counterexample :
    let send := Move.begin (.send ⟨0, [1, 2]⟩ 2 0) :: List.replicate 10 .exec
    let init := Move.begin (.init none) :: List.replicate 7 .exec
    let abort := Move.begin (.control ddSpiAbortTransferCode 0 0 0) :: List.replicate 9 .exec
    (Machine.init.run Pulp.sample (send ++ init)).map (fun m => (m.st.outstanding, m.st.drv.buzy)) =
      some (1, false) ∧
    (Machine.init.run Pulp.sample (send ++ init ++ send)).map (·.st.outstanding) = some 2 ∧
    (Machine.init.run Pulp.sample (init ++ send ++ [.eot] ++ abort ++ send ++ [.irq])).map
      (fun m => (m.st.outstanding, m.st.drv.buzy)) = some (1, false) := by
  decide

/-! ## The statements the argument reads -/

inductive Kind
  | guard | setBusy | clearBusy | enqCmd | enqData | clearCmd | other
  deriving DecidableEq

def Stmt.kind : Stmt → Kind
  | .ifIdle => .guard
  | .buzy b => if b then .setBusy else .clearBusy
  | .enqueue ch _ _ _ => if ch = .cmd then .enqCmd else .enqData
  | .clear ch => if ch = .cmd then .clearCmd else .other
  | .result _ | .callback _ | .bitsword _ | .clampBits | .lsbfirst _ | .sizeClass | .cmd _ _
  | .dataLeft _ | .eotEvent _ | .clock _ => .other

/-- Whether a statement of kind `k` is among `l`. -/
def hasKind (l : List Stmt) (k : Kind) : Bool := l.any fun st => st.kind = k

@[simp] theorem hasKind_nil (k : Kind) : hasKind [] k = false := rfl

@[simp] theorem hasKind_cons (st : Stmt) (l : List Stmt) (k : Kind) :
    hasKind (st :: l) k = (decide (st.kind = k) || hasKind l k) := rfl

/-- What a statement of each kind does to the outstanding transactions. -/
def Kind.outstanding : Kind → Nat → Nat
  | .enqCmd, n => n + 1
  | .clearCmd, _ => 0
  | _, n => n

def Kind.buzy : Kind → Bool → Bool
  | .setBusy, _ => true
  | .clearBusy, _ => false
  | _, b => b

/-- A statement changes the transactions, `buzy` and the stale events as
its kind says; `ifIdle` goes on only on an idle driver. -/
theorem exec_kind {P : Pulp} {st : Stmt} {s s' : State} {e e' : Int}
    (h : st.exec P (s, e) = some (s', e')) :
    s'.outstanding = st.kind.outstanding s.outstanding ∧ s'.drv.buzy = st.kind.buzy s.drv.buzy ∧
    s'.soc.staleEot = (if st.kind = .clearCmd then s.soc.staleEot + s.soc.eot else s.soc.staleEot) ∧
    (st.kind = .guard → s.drv.buzy = false) := by
  cases st with
  | ifIdle =>
    simp only [Stmt.exec] at h
    split_ifs at h with hb
    cases h
    simpa [Stmt.kind, Kind.outstanding, Kind.buzy] using hb
  | clampBits =>
    simp only [Stmt.exec] at h
    split_ifs at h <;> cases h <;> simp [Stmt.kind, Kind.outstanding, Kind.buzy, State.outstanding]
  | buzy b => cases h; cases b <;> simp [Stmt.kind, Kind.outstanding, Kind.buzy, State.outstanding]
  | enqueue ch =>
    cases h
    cases ch <;> simp [Stmt.kind, Kind.outstanding, Kind.buzy, State.outstanding, Soc.enqueue]
    omega
  | clear ch => cases h; cases ch <;> simp [Stmt.kind, Kind.outstanding, Kind.buzy, State.outstanding, Soc.clear]
  | _ => cases h; simp [Stmt.kind, Kind.outstanding, Kind.buzy, State.outstanding]

/-! ## The shape of the driver functions -/

/-- What must come after a statement: after the test of `buzy`, a request
sets `buzy` before its command block; after `buzy := false`, the CMD
channel is not cleared and nothing is enqueued; after the command block,
nothing tests or changes `buzy` or enqueues another; a data buffer is
followed by its command block and by no test of `buzy`. -/
def Stmt.fitsBefore (st : Stmt) (rest : List Stmt) : Bool :=
  match st.kind with
  | .guard => !hasKind rest .enqCmd || hasKind rest .setBusy
  | .clearBusy => !hasKind rest .clearCmd && !hasKind rest .enqCmd
  | .enqCmd =>
    !(hasKind rest .guard || hasKind rest .setBusy || hasKind rest .enqCmd || hasKind rest .clearBusy)
  | .enqData => hasKind rest .enqCmd && !hasKind rest .guard
  | _ => true

def wellShaped : List Stmt → Bool
  | [] => true
  | st :: rest => st.fitsBefore rest && wellShaped rest

def Call.isInit : Call → Bool
  | .init _ => true
  | _ => false

/-- Every driver function is well shaped, tests `buzy` before it enqueues
a command block, and clears the CMD channel whenever it clears `buzy`,
Initialize apart. Stated as one Boolean check, which each branch of a
function's statement list evaluates. -/
theorem stmts_shape (P : Pulp) (c : Call) :
    (wellShaped (c.stmts P) && (!hasKind (c.stmts P) .enqCmd || hasKind (c.stmts P) .guard) &&
      (c.isInit || !hasKind (c.stmts P) .clearBusy || hasKind (c.stmts P) .clearCmd)) = true := by
  cases c with
  | init cb => cases cb <;> rfl
  | control =>
    simp only [Call.stmts, ddSpiControl]
    split
    · simp only [controlMisc]; split_ifs <;> rfl
    · simp only [controlMode]; split_ifs <;> rfl
  | send => simp only [Call.stmts, ddSpiSend]; split_ifs <;> rfl
  | _ => rfl

/-! ## The discipline -/

/-- A statement that registers a callback of queries and requests, if any. -/
def Stmt.registersOk : Stmt → Bool
  | .callback (some cb) => cb.all Call.isRequest
  | _ => true

def Call.registersOk : Call → Bool
  | .init cb => cb.all fun cb => cb.all Call.isRequest
  | _ => true

/-- A call that `Call.registersOk` admits runs only statements that
`Stmt.registersOk` admits: Initialize's callback is its argument, and no
other function registers one. -/
theorem stmts_registers (P : Pulp) (c : Call) (hc : c.registersOk = true) :
    ∀ st ∈ c.stmts P, st.registersOk = true := by
  refine List.all_eq_true.mp ?_
  cases c with
  | init cb =>
    cases cb with
    | none => rfl
    | some cb => simpa [Call.stmts, ddSpiInitialize, Stmt.ret, Stmt.registersOk, Call.registersOk] using hc
  | control =>
    simp only [Call.stmts, ddSpiControl]
    split
    · simp only [controlMisc]; split_ifs <;> rfl
    · simp only [controlMode]; split_ifs <;> rfl
  | send => simp only [Call.stmts, ddSpiSend]; split_ifs <;> rfl
  | _ => rfl

/-- The moves of the runs the result is about: Initialize only on an idle
driver and with a callback of queries and requests, and the CMD channel
cleared only when no raised end of transfer waits for its interrupt. -/
def Move.allowed (m : Machine) : Move → Bool
  | .begin c => c.registersOk && (!c.isInit || !m.st.drv.buzy)
  | .exec =>
    match m.fg with
    | some (st :: _, _) => st.kind != .clearCmd || m.st.soc.eot == 0
    | _ => true
  | .eot | .irq => true

/-- A run of allowed moves; it stops at the first move that is not. -/
def Machine.runAllowed (P : Pulp) : Machine → List Move → Option Machine
  | m, [] => some m
  | m, mv :: mvs => if mv.allowed m then (m.move P mv).bind fun m' => m'.runAllowed P mvs else none

/-! ## The invariant -/

/-- The registered callback makes only queries and requests. -/
def CallbackOk (d : DriverSpi) : Prop := ∀ cb, d.callback = some cb → ∀ c ∈ cb, c.isRequest = true

structure DriverInv (s : State) : Prop where
  atMostOne : s.outstanding ≤ 1
  busy : 0 < s.outstanding → s.drv.buzy = true
  noStale : s.soc.staleEot = 0
  callback : CallbackOk s.drv

/-- The statements `l` left of the foreground call, against the state. -/
structure FrameInv (s : State) (l : List Stmt) : Prop where
  shape : wellShaped l = true
  registers : ∀ st ∈ l, st.registersOk = true
  pending : hasKind l .enqCmd = true → hasKind l .guard = false → s.outstanding = 0
  pendingBusy : hasKind l .enqCmd = true → hasKind l .guard = false → hasKind l .setBusy = false →
    s.drv.buzy = true
  clearing : hasKind l .clearBusy = true → hasKind l .clearCmd = false → s.outstanding = 0

structure Exclusive (m : Machine) : Prop where
  drv : DriverInv m.st
  frame : ∀ l e, m.fg = some (l, e) → FrameInv m.st l

theorem DriverInv.idle {s : State} (h : DriverInv s) (hb : s.drv.buzy = false) : s.outstanding = 0 := by
  by_contra hne
  rw [h.busy (Nat.pos_of_ne_zero hne)] at hb
  cases hb

/-- The frame conditions read the state only through the transactions and `buzy`. -/
theorem FrameInv.of_eq {s s' : State} {l : List Stmt} (h : FrameInv s l)
    (ho : s'.outstanding = s.outstanding) (hb : s'.drv.buzy = s.drv.buzy) : FrameInv s' l :=
  ⟨h.shape, h.registers, fun h1 h2 => ho ▸ h.pending h1 h2, fun h1 h2 h3 => hb ▸ h.pendingBusy h1 h2 h3,
    fun h1 h2 => ho ▸ h.clearing h1 h2⟩

/-- A statement keeps the callback one of queries and requests. -/
theorem callbackOk_exec {P : Pulp} {st : Stmt} {s s' : State} {e e' : Int}
    (h : st.exec P (s, e) = some (s', e')) (hc : CallbackOk s.drv) (hr : st.registersOk = true) :
    CallbackOk s'.drv := by
  cases st with
  | callback cb =>
    cases h
    intro cb' h'
    cases h'
    exact List.all_eq_true.mp hr
  | ifIdle => simp only [Stmt.exec] at h; split_ifs at h; cases h; exact hc
  | clampBits =>
    simp only [Stmt.exec] at h
    split_ifs at h <;> cases h <;> exact fun cb h' => hc cb h'
  | _ => cases h; exact fun cb h' => hc cb (by simpa using h')

section Steps

variable {P : Pulp}

/-- A call starts with a frame that meets the frame conditions. -/
theorem exclusive_begin {m m' : Machine} {c : Call} (hm : Exclusive m)
    (ha : (Move.begin c).allowed m = true) (h : m.move P (.begin c) = some m') : Exclusive m' := by
  simp only [Machine.move] at h
  split_ifs at h
  cases h
  simp only [Move.allowed, Bool.and_eq_true, Bool.or_eq_true, Bool.not_eq_true'] at ha
  obtain ⟨⟨hws, hguard⟩, hclr⟩ := by simpa only [Bool.and_eq_true] using stmts_shape P c
  refine ⟨hm.drv, fun l e he => ?_⟩
  cases he
  refine ⟨hws, stmts_registers P c ha.1, fun h1 h2 => ?_, fun h1 h2 _ => ?_, fun h1 h2 => ?_⟩
  · simp [h1, h2] at hguard
  · simp [h1, h2] at hguard
  · cases hi : c.isInit
    · simp [hi, h1, h2] at hclr
    · exact hm.drv.idle (by simpa [hi] using ha.2)

/-- One statement keeps the invariant, and the frame conditions pass to
the statements after it. -/
theorem exclusive_stmt {s s' : State} {st : Stmt} {rest : List Stmt} {e e' : Int}
    (hd : DriverInv s) (hf : FrameInv s (st :: rest)) (hclr : st.kind = .clearCmd → s.soc.eot = 0)
    (h : st.exec P (s, e) = some (s', e')) : DriverInv s' ∧ FrameInv s' rest := by
  obtain ⟨ho, hb, hst, hg⟩ := exec_kind h
  obtain ⟨hshape, hreg, hpend, hpb, hclear⟩ := hf
  obtain ⟨hfit, hws⟩ := (Bool.and_eq_true _ _).mp hshape
  have hcb := callbackOk_exec h hd.callback (hreg st (.head _))
  have hreg' : ∀ x ∈ rest, x.registersOk = true := fun x hx => hreg x (.tail _ hx)
  cases hk : st.kind <;>
    simp only [hk, Kind.outstanding, Kind.buzy, Stmt.fitsBefore, hasKind_cons, reduceCtorEq,
      decide_False, decide_True, Bool.false_or, Bool.true_or, if_true, if_false, true_implies,
      Bool.or_eq_true, Bool.and_eq_true, Bool.not_eq_true', Bool.or_eq_false_iff, not_true_eq_false,
      false_implies, forall_const] at ho hb hst hg hfit hpend hpb hclear hclr
  case guard =>
    have h0 := hd.idle hg
    refine ⟨⟨by omega, fun h => absurd h (by omega), hst ▸ hd.noStale, hcb⟩, hws, hreg',
      fun _ _ => by omega, fun h1 _ h3 => ?_, fun _ _ => by omega⟩
    simp [h1, h3] at hfit
  case setBusy =>
    exact ⟨⟨ho ▸ hd.atMostOne, fun _ => hb, hst ▸ hd.noStale, hcb⟩, hws, hreg',
      fun h1 h2 => ho ▸ hpend h1 h2, fun _ _ _ => hb, fun h1 h2 => ho ▸ hclear h1 h2⟩
  case clearBusy =>
    have h0 := hclear hfit.1
    refine ⟨⟨by omega, fun h => absurd h (by omega), hst ▸ hd.noStale, hcb⟩, hws, hreg',
      fun h1 _ => ?_, fun h1 _ _ => ?_, fun _ _ => by omega⟩ <;> simp [hfit.2] at h1
  case enqCmd =>
    have h0 := hpend hfit.1.1.1
    have hb0 := hpb hfit.1.1.1 hfit.1.1.2
    refine ⟨⟨by omega, fun _ => hb.trans hb0, hst ▸ hd.noStale, hcb⟩, hws, hreg',
      fun h1 _ => ?_, fun h1 _ _ => ?_, fun h1 _ => ?_⟩ <;> simp [hfit] at h1
  case clearCmd =>
    exact ⟨⟨by omega, fun h => absurd h (by omega), by rw [hst, hd.noStale, hclr], hcb⟩, hws, hreg',
      fun _ _ => ho, fun h1 h2 h3 => hb ▸ hpb h1 h2 h3, fun _ _ => ho⟩
  all_goals
    exact ⟨⟨ho ▸ hd.atMostOne, fun h => hb ▸ hd.busy (ho ▸ h), hst ▸ hd.noStale, hcb⟩, hws, hreg',
      fun h1 h2 => ho ▸ hpend h1 h2, fun h1 h2 h3 => hb ▸ hpb h1 h2 h3, fun h1 h2 => ho ▸ hclear h1 h2⟩

/-- The hardware raising an end of transfer moves a transaction from the
channel to the FIFO: the count of outstanding ones does not change. -/
theorem driverInv_eot {s s' : State} (hd : DriverInv s) (h : s.step P .eot = some s') :
    DriverInv s' ∧ s'.outstanding = s.outstanding ∧ s'.drv.buzy = s.drv.buzy := by
  rcases step_cases h with ⟨_, he, -⟩ | ⟨-, hc, -, rfl⟩ | ⟨he, -⟩
  · cases he
  · have hone := hd.atMostOne
    simp only [State.outstanding] at hone
    refine ⟨⟨?_, fun h => hd.busy ?_, hd.noStale, hd.callback⟩, ?_, rfl⟩ <;>
      simp only [State.outstanding] at * <;> omega
  · cases he

/-- The completion path on a busy driver whose callback only queries and
requests: only `buzy` changes. -/
theorem irqCallback_busy (d : DriverSpi) (c : Soc) (hb : d.buzy = true) (hcb : CallbackOk d) :
    (ddSpiIrqCallback P P.archiSocEventSpim0Eot ⟨d, c⟩).1 = ⟨{ d with buzy := false }, c⟩ := by
  rw [ddSpiIrqCallback_spim0]
  split
  · rename_i cb hcb'
    rw [runCalls_of_busy P ⟨d, c⟩ cb (hcb cb hcb') hb]
  · rfl

/-- The interrupt completes the one outstanding transaction: the callback's
requests are rejected, and nothing is left outstanding. -/
theorem driverInv_irq {s s' : State} (hd : DriverInv s) (h : s.step P .irq = some s') :
    DriverInv s' ∧ s'.outstanding = 0 ∧ 0 < s.outstanding := by
  rcases step_cases h with ⟨_, he, -⟩ | ⟨he, -⟩ | ⟨-, c, hc, rfl⟩
  · cases he
  · cases he
  · simp only [Soc.take?, hd.noStale, Nat.lt_irrefl, if_false] at hc
    split_ifs at hc with heot
    cases hc
    have hone := hd.atMostOne
    simp only [State.outstanding] at hone
    have hpos : 0 < s.outstanding := by simp only [State.outstanding]; omega
    rw [irqCallback_busy s.drv _ (hd.busy hpos) hd.callback]
    refine ⟨⟨?_, fun h => absurd h ?_, rfl, hd.callback⟩, ?_, hpos⟩ <;>
      simp only [State.outstanding] <;> omega

/-- Every allowed move keeps the invariant. -/
theorem exclusive_move {m m' : Machine} {mv : Move} (hm : Exclusive m) (ha : mv.allowed m = true)
    (h : m.move P mv = some m') : Exclusive m' := by
  cases mv with
  | begin c => exact exclusive_begin hm ha h
  | exec =>
    rcases hfg : m.fg with _ | ⟨_ | ⟨st, rest⟩, e⟩ <;> simp only [Machine.move, hfg] at h
    · cases h
    · cases h; exact ⟨hm.drv, fun _ _ h => by cases h⟩
    · have hclr : st.kind = .clearCmd → m.st.soc.eot = 0 := by
        intro hk
        simp only [Move.allowed, hfg, hk, bne_self_eq_false, Bool.false_or, beq_iff_eq] at ha
        exact ha
      cases hx : st.exec P (m.st, e) with
      | none => rw [hx] at h; cases h; exact ⟨hm.drv, fun _ _ h => by cases h⟩
      | some r =>
        rw [hx] at h; cases h
        obtain ⟨hd, hf⟩ := exclusive_stmt hm.drv (hm.frame _ _ hfg) hclr hx
        exact ⟨hd, fun l e h => by cases h; exact hf⟩
  | eot =>
    simp only [Machine.move] at h
    obtain ⟨s, hs, rfl⟩ := Option.map_eq_some'.mp h
    obtain ⟨hd, ho, hb⟩ := driverInv_eot hm.drv hs
    exact ⟨hd, fun l e hl => (hm.frame l e hl).of_eq ho hb⟩
  | irq =>
    simp only [Machine.move] at h
    obtain ⟨s, hs, rfl⟩ := Option.map_eq_some'.mp h
    obtain ⟨hd, h0, hpos⟩ := driverInv_irq hm.drv hs
    refine ⟨hd, fun l e hl => ?_⟩
    have hf := hm.frame l e hl
    exact ⟨hf.shape, hf.registers, fun _ _ => h0,
      fun h1 h2 _ => absurd (hf.pending h1 h2) (by omega), fun _ _ => h0⟩

theorem exclusive_runAllowed (mvs : List Move) :
    ∀ m m', Exclusive m → m.runAllowed P mvs = some m' → Exclusive m' := by
  induction mvs with
  | nil => intro m m' hm h; cases h; exact hm
  | cons mv mvs ih =>
    intro m m' hm h
    simp only [Machine.runAllowed] at h
    split_ifs at h with ha
    obtain ⟨m₁, h₁, h⟩ := Option.bind_eq_some.mp h
    exact ih m₁ m' (exclusive_move hm ha h₁) h

theorem exclusive_init : Exclusive Machine.init :=
  ⟨⟨by decide, fun h => absurd h (by decide), rfl, fun _ h => by cases h⟩, fun _ _ h => by cases h⟩

end Steps

/-- In every allowed interleaving from process start: at most one
transaction is outstanding, `buzy` is set whenever one is, and every
enqueue a request makes, of a data buffer or of its command block, runs
with none outstanding. -/
theorem one_transaction (P : Pulp) (mvs : List Move) (m : Machine)
    (h : Machine.init.runAllowed P mvs = some m) :
    m.st.outstanding ≤ 1 ∧ (0 < m.st.outstanding → m.st.drv.buzy = true) ∧
    ∀ st rest e, m.fg = some (st :: rest, e) → (st.kind = .enqCmd ∨ st.kind = .enqData) →
      m.st.outstanding = 0 := by
  have hm := exclusive_runAllowed mvs _ _ exclusive_init h
  refine ⟨hm.drv.atMostOne, hm.drv.busy, fun st rest e hfg hk => ?_⟩
  have hf := hm.frame _ _ hfg
  have hfit := ((Bool.and_eq_true _ _).mp hf.shape).1
  rcases hk with hk | hk <;>
    simp only [Stmt.fitsBefore, hk, Bool.not_eq_true', Bool.or_eq_false_iff, Bool.and_eq_true] at hfit <;>
    exact hf.pending (by simp [hk, hfit]) (by simp [hk, hfit])

theorem one_transaction_send :
    let mvs := (Move.begin (.init none) :: List.replicate 7 .exec) ++
      (Move.begin (.send ⟨0, [1, 2]⟩ 2 0) :: List.replicate 5 .exec)
    let m := (Machine.init.runAllowed Pulp.sample mvs).getD Machine.init
    m.st.outstanding ≤ 1 ∧ (0 < m.st.outstanding → m.st.drv.buzy = true) ∧
    ∀ st rest e, m.fg = some (st :: rest, e) → (st.kind = .enqCmd ∨ st.kind = .enqData) →
      m.st.outstanding = 0 := by
  intro mvs m
  exact one_transaction Pulp.sample mvs m rfl

end SpimDriver
