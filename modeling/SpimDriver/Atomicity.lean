/-
SpimDriver.Atomicity — every driver call takes effect at once, even when
the hardware's end of transfer and the completion interrupt run between
its statements.

In the runs `Move.allowed` admits, the statement machine refines the
runs of whole calls: between calls it stands at a state some run of
whole calls reaches from process start, and inside a call, finishing the
call without interruption reaches one (`calls_atomic`).

The argument is a reduction: a hardware move inside a call is moved out
of it.

* Before the call, while the call has run only statements the hardware
  commutes with (`Stmt.commutesHw`: none reads or writes `buzy`, the
  callback, the event mask or the CMD channel). Such a prefix keeps what
  the hardware's moves read (`execs_hwView`) and commutes with what they
  write (`execs_hw`), given that no word a driver function computes reads
  `buzy` (`stmts_blind`).
* After the call, once it has enqueued its command block: only the
  assignment of its result is left (`resultsAfterCmd`).

In between no hardware move is possible. The first statement of a call
that does not commute with the hardware is its test of `buzy` or its
clear of the CMD channel (`leadsWithTest`; Initialize apart, which runs on
an idle driver), and from there to the command block no transaction is
outstanding. `Atomic` is the simulation relation, `atomic_move` its step
lemma and `atomic_runAllowed` the run lemma.

The relation is about states. A result assignment may read `buzy` (that
of `DD_SPI_GetStatus` does), so moving an interrupt before a call can
change what the call returns, never what it leaves.
-/
import SpimDriver.InterleavingTheorems

namespace SpimDriver

/-! ## Statements the hardware commutes with -/

/-- The statements an end of transfer and the interrupt commute with: they
neither read nor write `buzy`, the callback, the event mask or the CMD
channel. A result assignment may read `buzy` but changes no state. -/
def Stmt.commutesHw : Stmt → Bool
  | .ifIdle | .buzy _ | .callback _ | .eotEvent _ => false
  | .enqueue ch _ _ _ | .clear ch => ch != .cmd
  | _ => true

def Stmt.isResult : Stmt → Bool
  | .result _ => true
  | _ => false

/-- The statement with `buzy` overwritten by `b` in the record from which
it computes a word or a size. A statement equal to all of these computes
nothing from `buzy`. -/
def Stmt.blind (b : Bool) : Stmt → Stmt
  | .cmd i f => .cmd i fun d => f { d with buzy := b }
  | .enqueue ch src size cfg =>
    .enqueue ch src (fun d => size { d with buzy := b }) (fun d => cfg { d with buzy := b })
  | st => st

/-- What the hardware's moves read: `buzy`, the callback, the event mask
and the transaction counters. -/
def State.hwView (s : State) : Bool × Option (List Call) × Bool × Nat × Nat × Nat :=
  (s.drv.buzy, s.drv.callback, s.soc.eotEvent, s.soc.cmdBlocks, s.soc.eot, s.soc.staleEot)

/-- `s` with what the hardware's moves write overwritten: `buzy` and the
two counters of outstanding transactions. -/
def State.hw (s : State) (b : Bool) (blocks eot : Nat) : State :=
  ⟨{ s.drv with buzy := b }, { s.soc with cmdBlocks := blocks, eot := eot }⟩

/-- A statement list run to its end; `none` when a statement returns. -/
def execs (P : Pulp) : List Stmt → State × Int → Option (State × Int)
  | [], r => some r
  | st :: l, r => (st.exec P r).bind (execs P l)

/-- Up to its first statement that does not commute with the hardware, a
function runs only statements that do, and that first one is its test of
`buzy` or its clear of the CMD channel. -/
def leadsWithTest : List Stmt → Bool
  | [] => true
  | st :: l => if st.commutesHw then leadsWithTest l else st.kind == .guard || st.kind == .clearCmd

/-- After the command block, only result assignments. -/
def resultsAfterCmd : List Stmt → Bool
  | [] => true
  | st :: l => (st.kind != .enqCmd || l.all Stmt.isResult) && resultsAfterCmd l

section Commute

variable {P : Pulp}

/-- A statement's effect on the state does not depend on the result local. -/
theorem exec_fst (st : Stmt) (s : State) (e e' : Int) :
    (st.exec P (s, e)).map Prod.fst = (st.exec P (s, e')).map Prod.fst := by
  cases st with
  | ifIdle => simp only [Stmt.exec]; split_ifs <;> rfl
  | clampBits => simp only [Stmt.exec]; split_ifs <;> rfl
  | _ => rfl

theorem exec_some_any {st : Stmt} {s s' : State} {e e₁ : Int} (h : st.exec P (s, e) = some (s', e₁))
    (e' : Int) : ∃ e₂, st.exec P (s, e') = some (s', e₂) := by
  have hx := @exec_fst P st s e' e
  rw [h, Option.map_some'] at hx
  obtain ⟨⟨s'', e₂⟩, h₂, rfl⟩ := Option.map_eq_some'.mp hx
  exact ⟨e₂, h₂⟩

theorem exec_none_any {st : Stmt} {s : State} {e : Int} (h : st.exec P (s, e) = none) (e' : Int) :
    st.exec P (s, e') = none := by
  have hx := @exec_fst P st s e' e
  rwa [h, Option.map_none', Option.map_eq_none'] at hx

/-- Where a function body leaves the state does not depend on the result
local it starts from. -/
theorem run_fst (l : List Stmt) (s : State) (e e' : Int) : (run P l s e).1 = (run P l s e').1 := by
  induction l generalizing s e e' with
  | nil => rfl
  | cons st l ih =>
    cases h : st.exec P (s, e) with
    | none => rw [run_cons_none h, run_cons_none (exec_none_any h e')]
    | some r =>
      obtain ⟨e₂, h₂⟩ := exec_some_any h e'
      rw [run_cons_some h, run_cons_some h₂, ih]

theorem run_results {l : List Stmt} (hl : l.all Stmt.isResult = true) (s : State) (e : Int) :
    (run P l s e).1 = s := by
  induction l generalizing e with
  | nil => rfl
  | cons st l ih =>
    simp only [List.all_cons, Bool.and_eq_true] at hl
    cases st with
    | result f => exact ih hl.2 _
    | _ => cases hl.1

theorem execs_append (p q : List Stmt) (r : State × Int) :
    execs P (p ++ q) r = (execs P p r).bind (execs P q) := by
  induction p generalizing r with
  | nil => rfl
  | cons st p ih =>
    simp only [List.cons_append, execs]
    cases st.exec P r <;> simp [ih]

theorem run_of_execs {p : List Stmt} {s s' : State} {e e' : Int} (h : execs P p (s, e) = some (s', e'))
    (l : List Stmt) : run P (p ++ l) s e = run P l s' e' := by
  induction p generalizing s e with
  | nil => cases h; rfl
  | cons st p ih =>
    obtain ⟨⟨s₁, e₁⟩, h₁, h⟩ := Option.bind_eq_some.mp h
    rw [List.cons_append, run_cons_some h₁, ih h]

theorem execs_any {p : List Stmt} {s s' : State} {e e₁ : Int} (h : execs P p (s, e) = some (s', e₁))
    (e' : Int) : ∃ e₂, execs P p (s, e') = some (s', e₂) := by
  induction p generalizing s e e' with
  | nil => cases h; exact ⟨e', rfl⟩
  | cons st p ih =>
    obtain ⟨⟨s₁, e₃⟩, h₁, h⟩ := Option.bind_eq_some.mp h
    obtain ⟨e₄, h₄⟩ := exec_some_any h₁ e'
    obtain ⟨e₅, h₅⟩ := ih h e₄
    exact ⟨e₅, by rw [execs, h₄, Option.some_bind, h₅]⟩

theorem sizeClass_buzy (d : DriverSpi) (b : Bool) :
    DriverSpi.sizeClass P { d with buzy := b } = { DriverSpi.sizeClass P d with buzy := b } := by
  simp only [DriverSpi.sizeClass]
  split_ifs <;> rfl

/-- A statement the hardware commutes with keeps what the hardware reads. -/
theorem exec_hwView {st : Stmt} {s s' : State} {e e' : Int} (hc : st.commutesHw = true)
    (h : st.exec P (s, e) = some (s', e')) : s'.hwView = s.hwView := by
  cases st with
  | clampBits => simp only [Stmt.exec] at h; split_ifs at h <;> cases h <;> rfl
  | sizeClass => cases h; simp only [State.hwView, DriverSpi.sizeClass_fields]
  | enqueue ch => cases h; cases ch <;> first | rfl | simp [Stmt.commutesHw] at hc
  | clear ch => cases h; cases ch <;> first | rfl | simp [Stmt.commutesHw] at hc
  | ifIdle | buzy | callback | eotEvent => cases hc
  | _ => cases h; rfl

/-- Overwriting `buzy` and the counters before a statement the hardware
commutes with is overwriting them after it; only the result local may
differ. -/
theorem exec_hw {st : Stmt} {s s' : State} {e e' : Int} {b : Bool} (hc : st.commutesHw = true)
    (hb : st.blind b = st) (h : st.exec P (s, e) = some (s', e')) (n₁ n₂ : Nat) :
    ∃ e₂, st.exec P (s.hw b n₁ n₂, e) = some (s'.hw b n₁ n₂, e₂) := by
  cases st with
  | clampBits => simp only [Stmt.exec, State.hw] at h ⊢; split_ifs at h ⊢ <;> cases h <;> exact ⟨_, rfl⟩
  | sizeClass => cases h; exact ⟨e, by simp only [Stmt.exec, State.hw, sizeClass_buzy]⟩
  | cmd i f =>
    cases h
    have hf := congrFun (Stmt.cmd.inj hb).2 s.drv
    exact ⟨e, by simp only [Stmt.exec, State.hw, hf]; rfl⟩
  | enqueue ch src size cfg =>
    cases h
    cases ch with
    | cmd => simp [Stmt.commutesHw] at hc
    | _ =>
      obtain ⟨-, -, hsize, hcfg⟩ := Stmt.enqueue.inj hb
      exact ⟨e, by simp only [Stmt.exec, State.hw, congrFun hsize s.drv, congrFun hcfg s.drv]; rfl⟩
  | clear ch => cases h; cases ch <;> first | exact ⟨e, rfl⟩ | simp [Stmt.commutesHw] at hc
  | ifIdle | buzy | callback | eotEvent => cases hc
  | _ => cases h; exact ⟨_, rfl⟩

theorem execs_hwView {p : List Stmt} {s s' : State} {e e' : Int} (hc : p.all Stmt.commutesHw = true)
    (h : execs P p (s, e) = some (s', e')) : s'.hwView = s.hwView := by
  induction p generalizing s e with
  | nil => cases h; rfl
  | cons st p ih =>
    simp only [List.all_cons, Bool.and_eq_true] at hc
    obtain ⟨⟨s₁, e₁⟩, h₁, h⟩ := Option.bind_eq_some.mp h
    exact (ih hc.2 h).trans (exec_hwView hc.1 h₁)

theorem execs_hw {p : List Stmt} {s s' : State} {e e' : Int} {b : Bool} (hc : p.all Stmt.commutesHw = true)
    (hb : ∀ st ∈ p, st.blind b = st) (h : execs P p (s, e) = some (s', e')) (n₁ n₂ : Nat) :
    ∃ e₂, execs P p (s.hw b n₁ n₂, e) = some (s'.hw b n₁ n₂, e₂) := by
  induction p generalizing s e with
  | nil => cases h; exact ⟨_, rfl⟩
  | cons st p ih =>
    simp only [List.all_cons, Bool.and_eq_true] at hc
    obtain ⟨⟨s₁, e₁⟩, h₁, h⟩ := Option.bind_eq_some.mp h
    obtain ⟨e₂, h₂⟩ := exec_hw hc.1 (hb st (.head _)) h₁ n₁ n₂
    obtain ⟨e₃, h₃⟩ := ih hc.2 (fun x hx => hb x (.tail _ hx)) h
    obtain ⟨e₄, h₄⟩ := execs_any h₃ e₂
    exact ⟨e₄, by rw [execs, h₂, Option.some_bind, h₄]⟩

end Commute

/-! ## The shape of the driver functions -/

/-- Every driver function but Initialize reaches its test of `buzy` or
its clear of the CMD channel through statements the hardware commutes
with, and after its command block only assigns its result. -/
theorem stmts_atomic (P : Pulp) (c : Call) :
    ((c.isInit || leadsWithTest (c.stmts P)) && resultsAfterCmd (c.stmts P)) = true := by
  cases c with
  | init cb => cases cb <;> rfl
  | control =>
    simp only [Call.stmts, ddSpiControl]
    split
    · simp only [controlMisc]; split_ifs <;> rfl
    · simp only [controlMode]; split_ifs <;> rfl
  | send => simp only [Call.stmts, ddSpiSend]; split_ifs <;> rfl
  | _ => rfl

/-- No word or size a driver function computes reads `buzy`. -/
theorem stmts_blind (P : Pulp) (c : Call) (b : Bool) : (c.stmts P).map (Stmt.blind b) = c.stmts P := by
  cases c with
  | init cb => cases cb <;> rfl
  | control =>
    simp only [Call.stmts, ddSpiControl]
    split
    · simp only [controlMisc]; split_ifs <;> rfl
    · simp only [controlMode]; split_ifs <;> rfl
  | send => simp only [Call.stmts, ddSpiSend]; split_ifs <;> rfl
  | _ => rfl

theorem leadsWithTest_split {p l : List Stmt} {st : Stmt} (h : leadsWithTest (p ++ st :: l) = true)
    (hp : p.all Stmt.commutesHw = true) (hst : st.commutesHw = false) :
    st.kind = .guard ∨ st.kind = .clearCmd := by
  induction p with
  | nil => simpa [leadsWithTest, hst] using h
  | cons x p ih =>
    simp only [List.all_cons, Bool.and_eq_true] at hp
    simp only [List.cons_append, leadsWithTest, hp.1, if_true] at h
    exact ih h hp.2

theorem resultsAfterCmd_split {p l : List Stmt} {st : Stmt} (h : resultsAfterCmd (p ++ st :: l) = true)
    (hk : st.kind = .enqCmd) : l.all Stmt.isResult = true := by
  induction p with
  | nil => simpa [hk] using ((Bool.and_eq_true _ _).mp h).1
  | cons x p ih => exact ih ((Bool.and_eq_true _ _).mp h).2

/-! ## The hardware's moves -/

section Hardware

variable {P : Pulp}

theorem Reachable.step {s s' : State} (hs : Reachable P s) (ev : Event) (h : s.step P ev = some s') :
    Reachable P s' := by
  obtain ⟨es, hes⟩ := hs
  exact ⟨es ++ [ev], by simp [steps_append, hes, steps_cons, h]⟩

theorem Reachable.call {s : State} (hs : Reachable P s) (c : Call) : Reachable P (c.run P s).1 :=
  hs.step (.call c) rfl

theorem State.outstanding_of_hwView {s t : State} (hv : t.hwView = s.hwView) : t.outstanding = s.outstanding := by
  simp only [State.hwView, Prod.mk.injEq] at hv
  simp only [State.outstanding, hv.2.2.2.1, hv.2.2.2.2.1]

@[simp] theorem State.hw_fields (s : State) (b : Bool) (n₁ n₂ : Nat) :
    (s.hw b n₁ n₂).drv.buzy = b ∧ (s.hw b n₁ n₂).drv.callback = s.drv.callback ∧
    (s.hw b n₁ n₂).soc.cmdBlocks = n₁ ∧ (s.hw b n₁ n₂).soc.eot = n₂ ∧
    (s.hw b n₁ n₂).soc.staleEot = s.soc.staleEot ∧ (s.hw b n₁ n₂).soc.eotEvent = s.soc.eotEvent :=
  ⟨rfl, rfl, rfl, rfl, rfl, rfl⟩

@[simp] theorem State.hw_hw (s : State) (b b' : Bool) (n₁ n₂ n₁' n₂' : Nat) :
    (s.hw b n₁ n₂).hw b' n₁' n₂' = s.hw b' n₁' n₂' := rfl

theorem State.hw_of_eq {s : State} {b : Bool} {n₁ n₂ : Nat} (hb : s.drv.buzy = b)
    (h₁ : s.soc.cmdBlocks = n₁) (h₂ : s.soc.eot = n₂) : s.hw b n₁ n₂ = s := by
  subst hb h₁ h₂; rfl

/-- The end of transfer of a running command block, with the event routed
to the FC. -/
theorem step_eot_of {s : State} (hc : 0 < s.soc.cmdBlocks) (hev : s.soc.eotEvent = true) :
    s.step P .eot = some (s.hw s.drv.buzy (s.soc.cmdBlocks - 1) (s.soc.eot + 1)) := by
  rw [State.step, Soc.raise?, if_pos ⟨hc, hev⟩, Option.map_some']
  rfl

/-- The interrupt of a raised end of transfer, none stale, on a busy
driver whose callback only queries and requests: it takes the event and
clears `buzy`. -/
theorem step_irq_of {s : State} (hst : s.soc.staleEot = 0) (he : 0 < s.soc.eot) (hb : s.drv.buzy = true)
    (hcb : CallbackOk s.drv) : s.step P .irq = some (s.hw false s.soc.cmdBlocks (s.soc.eot - 1)) := by
  rw [State.step, Soc.take?, if_neg (by rw [hst]; exact Nat.lt_irrefl 0), if_pos he, Option.map_some',
    irqHandler_eot, irqCallback_busy s.drv _ hb hcb]
  rfl

/-- A hardware move from a state of the invariant needs a transaction
outstanding, and writes only `buzy` and the counters, as a function of
what it reads: from every state with the same view it is possible and
makes the same writes. -/
theorem step_hwView {s s' t : State} {ev : Event} (hev : ev = .eot ∨ ev = .irq) (hd : DriverInv s)
    (hv : t.hwView = s.hwView) (h : s.step P ev = some s') :
    0 < s.outstanding ∧ ∃ b n₁ n₂, s' = s.hw b n₁ n₂ ∧ t.step P ev = some (t.hw b n₁ n₂) := by
  simp only [State.hwView, Prod.mk.injEq] at hv
  obtain ⟨hb, hcb, hon, hc, he, hst⟩ := hv
  rcases step_cases h with ⟨_, rfl, -⟩ | ⟨rfl, hpos, hev', -⟩ | ⟨rfl, c, htake, -⟩
  · simp at hev
  · refine ⟨by simp only [State.outstanding]; omega, _, _, _,
      Option.some.inj (h.symm.trans (step_eot_of hpos hev')), ?_⟩
    rw [← hb, ← hc, ← he]
    exact step_eot_of (by rw [hc]; exact hpos) (by rw [hon]; exact hev')
  · have he0 : 0 < s.soc.eot := by
      by_contra hne
      rw [Soc.take?, if_neg (by rw [hd.noStale]; exact Nat.lt_irrefl 0), if_neg hne] at htake
      cases htake
    have hpos : 0 < s.outstanding := by simp only [State.outstanding]; omega
    have hbusy := hd.busy hpos
    refine ⟨hpos, _, _, _, Option.some.inj (h.symm.trans (step_irq_of hd.noStale he0 hbusy hd.callback)), ?_⟩
    rw [← hc, ← he]
    exact step_irq_of (hst.trans hd.noStale) (by rw [he]; exact he0) (hb.trans hbusy)
      (fun cb h => hd.callback cb (hcb.symm.trans h))

end Hardware

/-! ## The simulation -/

/-- The call `c` in progress at `s`, started from `s₀`, with `p` run and
`l` left: the prefix ran from `s₀` to `s`; while a transaction is
outstanding the prefix is made of statements the hardware commutes with;
and Initialize runs with none outstanding. -/
structure InFlight (P : Pulp) (s₀ s : State) (c : Call) (p l : List Stmt) : Prop where
  split : c.stmts P = p ++ l
  ran : ∃ e, execs P p (s₀, 0) = some (s, e)
  commutes : 0 < s.outstanding → p.all Stmt.commutesHw = true
  init : c.isInit = true → s.outstanding = 0

/-- How the statement machine stands against runs of whole calls. Between
calls, at a reachable state. Inside a call, either the call has not taken
effect yet: it runs from a reachable state, the hardware's moves so far
going before it; or it has: only its result is left to assign, and the
state is reachable. -/
structure Atomic (P : Pulp) (m : Machine) : Prop where
  idle : m.fg = none → Reachable P m.st
  call : ∀ l e, m.fg = some (l, e) →
    (∃ s₀ c p, Reachable P s₀ ∧ InFlight P s₀ m.st c p l) ∨ (l.all Stmt.isResult = true ∧ Reachable P m.st)

section Simulation

variable {P : Pulp} {s₀ s : State} {c : Call} {p l : List Stmt}

/-- Finishing the call without interruption reaches what the whole call
from `s₀` reaches. -/
theorem InFlight.reachable (hf : InFlight P s₀ s c p l) (hs₀ : Reachable P s₀) (e : Int) :
    Reachable P (run P l s e).1 := by
  obtain ⟨e', he⟩ := hf.ran
  rw [run_fst l s e e', ← run_of_execs he, ← hf.split]
  exact hs₀.call c

theorem Kind.outstanding_zero {k : Kind} (hk : k ≠ .enqCmd) : k.outstanding 0 = 0 := by
  cases k <;> first | rfl | exact absurd rfl hk

/-- One more statement of a call that has not taken effect after it. A
statement the hardware does not commute with leaves nothing outstanding:
it is the test of `buzy` on an idle driver, the clear of the CMD channel,
or comes after one of them, or belongs to Initialize. -/
theorem InFlight.exec {st : Stmt} {s' : State} {e e' : Int} (hf : InFlight P s₀ s c p (st :: l))
    (hd : DriverInv s) (h : st.exec P (s, e) = some (s', e')) (hl : l.all Stmt.isResult = false) :
    InFlight P s₀ s' c (p ++ [st]) l := by
  obtain ⟨ho, -, -, hg⟩ := exec_kind h
  obtain ⟨e₀, he₀⟩ := hf.ran
  obtain ⟨e₁, h₁⟩ := exec_some_any h e₀
  have hshape := stmts_atomic P c
  rw [hf.split, Bool.and_eq_true, Bool.or_eq_true] at hshape
  obtain ⟨hlead, hcmd⟩ := hshape
  have hne : st.kind ≠ .enqCmd := fun hk => by rw [resultsAfterCmd_split hcmd hk] at hl; cases hl
  have hsplit : c.stmts P = p ++ [st] ++ l := by rw [hf.split, List.append_assoc]; rfl
  have hran : ∃ e, execs P (p ++ [st]) (s₀, 0) = some (s', e) :=
    ⟨e₁, by simp only [execs_append, he₀, Option.some_bind, execs, h₁]⟩
  cases hc : st.commutesHw
  · have h0 : s'.outstanding = 0 := by
      rw [ho]
      rcases hlead with hi | hlead
      · rw [hf.init hi]; exact Kind.outstanding_zero hne
      · by_cases hp : p.all Stmt.commutesHw = true
        · rcases leadsWithTest_split hlead hp hc with hk | hk
          · rw [hd.idle (hg hk)]; exact Kind.outstanding_zero hne
          · rw [hk]; rfl
        · rw [Nat.eq_zero_of_not_pos (mt hf.commutes hp)]; exact Kind.outstanding_zero hne
    exact ⟨hsplit, hran, fun hpos => absurd h0 (Nat.pos_iff_ne_zero.mp hpos), fun _ => h0⟩
  · have hout := State.outstanding_of_hwView (exec_hwView hc h)
    refine ⟨hsplit, hran, fun hpos => ?_, fun hi => hout.trans (hf.init hi)⟩
    simp only [List.all_append, hf.commutes (by omega), List.all_cons, List.all_nil, hc, Bool.and_self]

/-- A hardware move inside a call that has not taken effect goes before
the call: a transaction is outstanding, so the prefix commutes with the
move, which is possible at `s₀` and makes the same writes there. -/
theorem InFlight.hw {s' : State} {ev : Event} (hf : InFlight P s₀ s c p l) (hd : DriverInv s)
    (hev : ev = .eot ∨ ev = .irq) (h : s.step P ev = some s') :
    ∃ s₀', s₀.step P ev = some s₀' ∧ InFlight P s₀' s' c p l := by
  obtain ⟨e, he⟩ := hf.ran
  have hp := hf.commutes (step_hwView hev hd rfl h).1
  obtain ⟨hpos, b, n₁, n₂, rfl, h₀⟩ := step_hwView hev hd (execs_hwView hp he).symm h
  have hb : ∀ st ∈ p, st.blind b = st := fun st hst =>
    List.map_inj_left.mp ((stmts_blind P c b).trans (List.map_id _).symm) st
      (by rw [hf.split]; exact List.mem_append_left l hst)
  obtain ⟨e₂, he₂⟩ := execs_hw hp hb he n₁ n₂
  exact ⟨_, h₀, hf.split, ⟨e₂, he₂⟩, fun _ => hp, fun hi => absurd (hf.init hi) (by omega)⟩

/-- Finishing the call in progress without interruption reaches a state
of a run of whole calls. -/
theorem Atomic.finish {m : Machine} {e : Int} (hm : Atomic P m) (hfg : m.fg = some (l, e)) :
    Reachable P (run P l m.st e).1 := by
  rcases hm.call l e hfg with ⟨s₀, c, p, hs₀, hf⟩ | ⟨hr, hreach⟩
  · exact hf.reachable hs₀ e
  · rwa [run_results hr]

theorem atomic_hw {m m' : Machine} {ev : Event} (hx : Exclusive m) (hm : Atomic P m)
    (hev : ev = .eot ∨ ev = .irq) (h : (m.st.step P ev).map (fun s => Machine.mk s m.fg) = some m') :
    Atomic P m' := by
  obtain ⟨s', hs, rfl⟩ := Option.map_eq_some'.mp h
  refine ⟨fun hfg => (hm.idle hfg).step ev hs, fun l e hfg => ?_⟩
  rcases hm.call l e hfg with ⟨s₀, c, p, hs₀, hf⟩ | ⟨hr, hreach⟩
  · obtain ⟨s₀', h₀, hf'⟩ := hf.hw hx.drv hev hs
    exact .inl ⟨s₀', c, p, hs₀.step ev h₀, hf'⟩
  · exact .inr ⟨hr, hreach.step ev hs⟩

/-- Every allowed move keeps the simulation. -/
theorem atomic_move {m m' : Machine} {mv : Move} (hx : Exclusive m) (hm : Atomic P m)
    (ha : mv.allowed m = true) (h : m.move P mv = some m') : Atomic P m' := by
  cases mv with
  | begin c =>
    simp only [Machine.move] at h
    split_ifs at h with hfg
    cases h
    refine ⟨fun h => (by cases h), fun l e he => ?_⟩
    cases he
    refine .inl ⟨m.st, c, [], hm.idle (Option.isNone_iff_eq_none.mp hfg), rfl, ⟨0, rfl⟩, fun _ => rfl,
      fun hi => hx.drv.idle ?_⟩
    exact (by simpa [Move.allowed, hi] using ha : _ ∧ _).2
  | exec =>
    rcases hfg : m.fg with _ | ⟨_ | ⟨st, l⟩, e⟩ <;> simp only [Machine.move, hfg] at h
    · cases h
    · cases h
      exact ⟨fun _ => hm.finish hfg, fun _ _ h => by cases h⟩
    · have hr := hm.finish hfg
      cases hx' : st.exec P (m.st, e) with
      | none =>
        rw [hx'] at h; cases h
        rw [run_cons_none hx'] at hr
        exact ⟨fun _ => hr, fun _ _ h => by cases h⟩
      | some r =>
        obtain ⟨s₁, e₁⟩ := r
        rw [hx'] at h; cases h
        refine ⟨fun h => (by cases h), fun l' e' he => ?_⟩
        cases he
        cases hl : l.all Stmt.isResult
        · rcases hm.call _ e hfg with ⟨s₀, c, p, hs₀, hf⟩ | ⟨hres, -⟩
          · exact .inl ⟨s₀, c, p ++ [st], hs₀, hf.exec hx.drv hx' hl⟩
          · simp [hl] at hres
        · rw [run_cons_some hx', run_results hl] at hr
          exact .inr ⟨rfl, hr⟩
  | eot => exact atomic_hw hx hm (.inl rfl) h
  | irq => exact atomic_hw hx hm (.inr rfl) h

/-- A property of machines that every allowed move keeps, from a machine
of the invariant, holds along every allowed run. -/
theorem runAllowed_invariant {Inv : Machine → Prop}
    (hstep : ∀ m m' mv, Exclusive m → Inv m → mv.allowed m = true → m.move P mv = some m' → Inv m') :
    ∀ (mvs : List Move) (m m' : Machine), Exclusive m → Inv m → m.runAllowed P mvs = some m' → Inv m'
  | [], m, m', _, hm, h => by cases h; exact hm
  | mv :: mvs, m, m', hx, hm, h => by
    simp only [Machine.runAllowed] at h
    split_ifs at h with ha
    obtain ⟨m₁, h₁, h⟩ := Option.bind_eq_some.mp h
    exact runAllowed_invariant hstep mvs m₁ m' (exclusive_move hx ha h₁) (hstep m m₁ mv hx hm ha h₁) h

theorem atomic_runAllowed {mvs : List Move} {m : Machine} (h : Machine.init.runAllowed P mvs = some m) :
    Atomic P m :=
  runAllowed_invariant (fun _ _ _ => atomic_move) mvs _ _ exclusive_init
    ⟨fun _ => ⟨[], rfl⟩, fun _ _ h => by cases h⟩ h

end Simulation

/-- Every driver call takes effect at once in every allowed interleaving
from process start: between calls the driver is in a state some run of
whole calls, end-of-transfer events and interrupts reaches, and inside a
call, finishing the call without interruption reaches one. -/
theorem calls_atomic (P : Pulp) (mvs : List Move) (m : Machine) (h : Machine.init.runAllowed P mvs = some m) :
    (m.fg = none → Reachable P m.st) ∧ ∀ l e, m.fg = some (l, e) → Reachable P (run P l m.st e).1 := by
  have hm := atomic_runAllowed h
  exact ⟨hm.idle, fun _ _ hfg => hm.finish hfg⟩

theorem calls_atomic_status :
    let mvs := (Move.begin (.init none) :: List.replicate 7 .exec) ++
      (Move.begin (.send ⟨0, [1, 2]⟩ 2 0) :: List.replicate 10 .exec) ++
      [.begin .getStatus, .exec, .eot, .exec, .irq]
    let m := (Machine.init.runAllowed Pulp.sample mvs).getD Machine.init
    (m.fg = none → Reachable Pulp.sample m.st) ∧
      ∀ l e, m.fg = some (l, e) → Reachable Pulp.sample (run Pulp.sample l m.st e).1 := by
  intro mvs m
  exact calls_atomic Pulp.sample mvs m rfl

end SpimDriver
