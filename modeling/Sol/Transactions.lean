import Sol.Machine

/-!
# Transactions

A transaction is completed when its last handle is dropped, when its deadline is over, or before.
Then the clients that are to be told of it are told, and its blockers are released.  Handles, timers
and blockers are used from one thread; what they share lives as long as there are handles, and
timers and blockers hold on to it weakly.

* `step_progress`: what one operation does to whether the transaction is completed, and to who has
  been told;
* `reachable_completes`: what holds in every run.
-/

namespace Sol.Transactions

open Panicking

/-! ### The transaction -/

variable {Sender Client : Type}

/-- What the handles share. -/
structure Inner (Sender Client : Type) where
  completed : Bool
  notifications : Option (Sender × List Client)
  deriving DecidableEq

/-- The sender of the first notification is the one of all. -/
def Inner.push (self : Inner Sender Client) (sender : Sender) (client : Client) :
    Inner Sender Client :=
  let (sender, clients) := self.notifications.getD (sender, [])
  { self with notifications := some (sender, clients ++ [client]) }

inductive Deadline
  | notRegistered
  | registered
  deriving DecidableEq

/-- A transaction, with the number of its handles, its timer, and what has been sent. -/
structure Transaction (Sender Client : Type) where
  inner : Inner Sender Client
  strongCount : ℕ
  deadline : Deadline
  /-- The timer is in the event loop. -/
  timer : Bool
  /-- The timer is to be removed. -/
  pinged : Bool
  sent : List (Sender × Client)
  deriving DecidableEq

namespace Transaction

variable (self : Transaction Sender Client)

def new : Transaction Sender Client where
  inner := ⟨false, none⟩
  strongCount := 1
  deadline := .notRegistered
  timer := false
  pinged := false
  sent := []

def isCompleted : Bool := self.inner.completed

def isLast : Bool := self.strongCount = 1

/-- `Inner::complete`. -/
def complete : Transaction Sender Client :=
  match self.inner.notifications with
  | some (sender, clients) =>
    { self with
      inner := ⟨true, none⟩
      sent := self.sent ++ clients.map (sender, ·) }
  | none => { self with inner := ⟨true, none⟩ }

def clone : Transaction Sender Client := { self with strongCount := self.strongCount + 1 }

/-- `Drop::drop`, and what is dropped with it. -/
def drop : Transaction Sender Client :=
  let self := if self.isLast then
      let self := self.complete
      match self.deadline with
      | .registered => { self with pinged := true }
      | .notRegistered => self
    else self
  { self with strongCount := self.strongCount - 1 }

def addNotification (sender : Sender) (client : Client) : Transaction Sender Client :=
  if self.isCompleted then self else { self with inner := self.inner.push sender client }

def registerDeadlineTimer : Transaction Sender Client :=
  match self.deadline with
  | .notRegistered => { self with deadline := .registered, timer := true }
  | .registered => self

/-- The deadline is over. -/
def onDeadline : Transaction Sender Client :=
  let self := if 0 < self.strongCount then self.complete else self
  { self with timer := false }

/-- The timer is removed. -/
def onPing : Transaction Sender Client := { self with pinged := false, timer := false }

end Transaction

/-! ### Blockers -/

inductive BlockerState
  | pending
  | released
  deriving DecidableEq

inductive TransactionBlocker
  /-- Of the transaction. -/
  | weak
  /-- Of none, from the start. -/
  | completed
  deriving DecidableEq

/-- The transaction, if there are handles. -/
def TransactionBlocker.upgrade (self : TransactionBlocker) (transaction : Transaction Sender Client) :
    Option (Transaction Sender Client) :=
  match self with
  | .weak => if 0 < transaction.strongCount then some transaction else none
  | .completed => none

def TransactionBlocker.state (self : TransactionBlocker) (transaction : Transaction Sender Client) :
    BlockerState :=
  if (self.upgrade transaction).all Transaction.isCompleted then .released else .pending

/-! ### Runs -/

/-- A transaction, its blockers, the notifications that were registered, and how often the
transaction went from not completed to completed. -/
structure Session (Sender Client : Type) where
  transaction : Transaction Sender Client
  blockers : List TransactionBlocker
  registered : List (Sender × Client)
  completions : ℕ
  deriving DecidableEq

inductive Op (Sender Client : Type)
  | clone
  | drop
  | addNotification (sender : Sender) (client : Client)
  | blocker
  | registerDeadlineTimer
  | complete
  | deadline
  | ping

namespace Op

/-- What an operation does to the transaction. -/
def apply (transaction : Transaction Sender Client) : Op Sender Client → Transaction Sender Client
  | .clone => transaction.clone
  | .drop => transaction.drop
  | .addNotification sender client => transaction.addNotification sender client
  | .blocker => transaction
  | .registerDeadlineTimer => transaction.registerDeadlineTimer
  | .complete => transaction.complete
  | .deadline => transaction.onDeadline
  | .ping => transaction.onPing

/-- What is asked of a handle needs one; timers and pings come when there are any. -/
def Allowed (transaction : Transaction Sender Client) : Op Sender Client → Prop
  | .deadline => transaction.timer = true
  | .ping => transaction.pinged = true
  | _ => 0 < transaction.strongCount

/-- The notification that an operation registers. -/
def registers (transaction : Transaction Sender Client) :
    Op Sender Client → List (Sender × Client)
  | .addNotification sender client => if transaction.isCompleted then [] else [(sender, client)]
  | _ => []

def newBlockers : Op Sender Client → List TransactionBlocker
  | .blocker => [.weak]
  | _ => []

end Op

namespace Session

variable (self : Session Sender Client)

def step (op : Op Sender Client) : Session Sender Client where
  transaction := op.apply self.transaction
  blockers := self.blockers ++ op.newBlockers
  registered := self.registered ++ op.registers self.transaction
  completions := self.completions +
    if ¬self.transaction.isCompleted ∧ (op.apply self.transaction).isCompleted then 1 else 0

def machine (Sender Client : Type) : Machine (Session Sender Client) (Op Sender Client) where
  initial self := self = ⟨.new, [], [], 0⟩
  step self op := .ok (self.step op)

end Session

/-! ### What is sent -/

/-- The clients in order, all of them through the sender of the first one. -/
def toFirst : List (Sender × Client) → List (Sender × Client)
  | [] => []
  | (sender, client) :: rest => (sender, client) :: rest.map fun p => (sender, p.2)

variable {l : List (Sender × Client)} {sender : Sender} {client : Client}

theorem map_snd_toFirst (l : List (Sender × Client)) :
    (toFirst l).map Prod.snd = l.map Prod.snd := by
  cases l with
  | nil => rfl
  | cons p rest => simp [toFirst]

/-- With one sender nothing changes. -/
theorem toFirst_eq_self (h : ∀ p ∈ l, ∀ q ∈ l, p.1 = q.1) : toFirst l = l := by
  cases l with
  | nil => rfl
  | cons p rest =>
    have hrest : rest.map (fun q => (p.1, q.2)) = rest.map id :=
      List.map_congr_left fun q hq =>
        Prod.ext (h p List.mem_cons_self q (List.mem_cons_of_mem p hq)) rfl
    change p :: rest.map (fun q => (p.1, q.2)) = p :: rest
    rw [hrest, List.map_id]

namespace Inner

/-- The notifications that wait, as they will be sent. -/
def waiting (self : Inner Sender Client) : List (Sender × Client) :=
  match self.notifications with
  | some (sender, clients) => clients.map (sender, ·)
  | none => []

/-- The notifications wait, with the sender of the first one. -/
inductive Queues : Inner Sender Client → List (Sender × Client) → Prop
  | none (completed : Bool) : Queues ⟨completed, none⟩ []
  | some (completed : Bool) (sender : Sender) (client : Client) (rest : List (Sender × Client)) :
    Queues ⟨completed, some (sender, client :: rest.map Prod.snd)⟩ ((sender, client) :: rest)

variable {self : Inner Sender Client}

theorem Queues.push (h : self.Queues l) (sender : Sender) (client : Client) :
    (self.push sender client).Queues (l ++ [(sender, client)]) := by
  cases h with
  | none completed => exact .some completed sender client []
  | some completed first c rest =>
    have hpushed := Queues.some completed first c (rest ++ [(sender, client)])
    rwa [List.map_append] at hpushed

theorem Queues.waiting_eq (h : self.Queues l) : self.waiting = toFirst l := by
  cases h with
  | none completed => rfl
  | some completed first c rest =>
    change (first, c) :: (rest.map Prod.snd).map (first, ·) = (first, c) :: rest.map _
    rw [List.map_map]
    rfl

end Inner

/-! ### What an operation does -/

namespace Transaction

variable {self : Transaction Sender Client}

/-- Once completed, the notifications are sent; before, they wait. -/
structure Sends (t : Transaction Sender Client) (registered : List (Sender × Client)) : Prop where
  before : t.isCompleted = false → t.sent = [] ∧ t.inner.Queues registered
  after : t.isCompleted = true → t.sent = toFirst registered ∧ t.inner.notifications = none
  dropped : t.strongCount = 0 → t.isCompleted = true

theorem complete_eq (self : Transaction Sender Client) : self.complete =
    { self with inner := ⟨true, none⟩, sent := self.sent ++ self.inner.waiting } := by
  unfold complete Inner.waiting
  cases self.inner.notifications with
  | none => rw [List.append_nil]
  | some n => rfl

/-- Completing it sends what waits. -/
theorem Sends.complete (h : self.Sends l) : self.complete.Sends l := by
  rw [complete_eq]
  refine ⟨nofun, fun _ => ⟨?_, rfl⟩, fun _ => rfl⟩
  change self.sent ++ self.inner.waiting = toFirst l
  cases hc : self.isCompleted with
  | true =>
    obtain ⟨hsent, hnone⟩ := h.after hc
    rw [hsent, Inner.waiting, hnone, List.append_nil]
  | false =>
    obtain ⟨hsent, hqueues⟩ := h.before hc
    rw [hsent, List.nil_append, hqueues.waiting_eq]

theorem isCompleted_complete (self : Transaction Sender Client) :
    self.complete.isCompleted = true := by
  rw [complete_eq]
  rfl

/-- The timer does not matter, nor how many handles there are as long as there are some. -/
theorem Sends.of_inner (h : self.Sends l) {t : Transaction Sender Client} (hinner : t.inner = self.inner)
    (hsent : t.sent = self.sent)
    (hcount : t.strongCount = 0 → self.strongCount = 0 ∨ self.isCompleted = true) : t.Sends l := by
  have hcompleted : t.isCompleted = self.isCompleted := by rw [isCompleted, hinner]; rfl
  refine ⟨?_, ?_, fun hzero => ?_⟩
  · rw [hcompleted, hsent, hinner]
    exact h.before
  · rw [hcompleted, hsent, hinner]
    exact h.after
  · rw [hcompleted]
    exact (hcount hzero).elim h.dropped id

theorem Sends.drop (h : self.Sends l) : self.drop.Sends l := by
  unfold Transaction.drop
  by_cases hlast : self.isLast = true
  · rw [if_pos hlast]
    cases hd : self.complete.deadline with
    | registered =>
      simp only [hd]
      exact h.complete.of_inner rfl rfl fun _ => .inr self.isCompleted_complete
    | notRegistered =>
      simp only [hd]
      exact h.complete.of_inner rfl rfl fun _ => .inr self.isCompleted_complete
  · rw [if_neg hlast]
    refine h.of_inner rfl rfl fun hzero => .inl ?_
    change self.strongCount - 1 = 0 at hzero
    simp only [isLast, decide_eq_true_eq] at hlast
    omega

theorem Sends.addNotification (h : self.Sends l) (hpos : 0 < self.strongCount) (sender : Sender)
    (client : Client) : (self.addNotification sender client).Sends
      (l ++ (Op.addNotification sender client).registers self) := by
  simp only [Transaction.addNotification, Op.registers]
  cases hc : self.isCompleted with
  | true =>
    rw [if_pos rfl, if_pos rfl, List.append_nil]
    exact h
  | false =>
    rw [if_neg Bool.false_ne_true, if_neg Bool.false_ne_true]
    obtain ⟨hsent, hqueues⟩ := h.before hc
    refine ⟨fun _ => ⟨hsent, hqueues.push sender client⟩, fun hcompleted => ?_,
      fun hzero => absurd hzero hpos.ne'⟩
    have hsame : self.isCompleted = true := hcompleted
    rw [hc] at hsame
    cases hsame

/-- One operation. -/
theorem Sends.apply (h : self.Sends l) (op : Op Sender Client) (hop : op.Allowed self) :
    (op.apply self).Sends (l ++ op.registers self) := by
  cases op with
  | addNotification sender client => exact h.addNotification hop sender client
  | clone =>
    simp only [Op.registers, List.append_nil]
    exact h.of_inner rfl rfl fun hzero => absurd hzero (Nat.succ_ne_zero _)
  | drop =>
    simp only [Op.registers, List.append_nil]
    exact h.drop
  | blocker =>
    simp only [Op.registers, List.append_nil]
    exact h
  | registerDeadlineTimer =>
    simp only [Op.registers, List.append_nil]
    change self.registerDeadlineTimer.Sends l
    unfold registerDeadlineTimer
    split
    · exact h.of_inner rfl rfl .inl
    · exact h
  | complete =>
    simp only [Op.registers, List.append_nil]
    exact h.complete
  | deadline =>
    simp only [Op.registers, List.append_nil]
    change self.onDeadline.Sends l
    unfold onDeadline
    split_ifs
    · exact h.complete.of_inner rfl rfl .inl
    · exact h.of_inner rfl rfl .inl
  | ping =>
    simp only [Op.registers, List.append_nil]
    exact h.of_inner rfl rfl .inl

/-- What is completed stays so. -/
theorem isCompleted_apply (h : self.isCompleted = true) (op : Op Sender Client) :
    (op.apply self).isCompleted = true := by
  cases op with
  | clone | blocker | ping => exact h
  | complete => exact self.isCompleted_complete
  | addNotification sender client =>
    change (self.addNotification sender client).isCompleted = true
    rw [addNotification, if_pos h]
    exact h
  | registerDeadlineTimer =>
    change self.registerDeadlineTimer.isCompleted = true
    unfold registerDeadlineTimer
    split <;> exact h
  | drop =>
    change self.drop.isCompleted = true
    unfold Transaction.drop
    split_ifs
    · cases hd : self.complete.deadline <;> simp only [hd] <;> exact self.isCompleted_complete
    · exact h
  | deadline =>
    change self.onDeadline.isCompleted = true
    unfold onDeadline
    split_ifs
    · exact self.isCompleted_complete
    · exact h

end Transaction

/-! ### Runs of a transaction -/

namespace Session

/-- What is to hold of a transaction at all times. -/
structure Completes (self : Session Sender Client) : Prop where
  once : self.completions ≤ 1
  completed : self.transaction.isCompleted = true ↔ self.completions = 1
  before : self.transaction.isCompleted = false → self.transaction.sent = []
  after : self.transaction.isCompleted = true →
    self.transaction.sent.map Prod.snd = self.registered.map Prod.snd ∧
      ((∀ p ∈ self.registered, ∀ q ∈ self.registered, p.1 = q.1) →
        self.transaction.sent = self.registered)
  blockers : ∀ blocker ∈ self.blockers, blocker.state self.transaction = .released ↔
    self.transaction.isCompleted = true ∨ self.transaction.strongCount = 0

variable {self : Session Sender Client}

/-- The invariant of the runs. -/
structure Inv (s : Session Sender Client) : Prop where
  sends : s.transaction.Sends s.registered
  completions : s.completions = if s.transaction.isCompleted then 1 else 0
  blockers : ∀ blocker ∈ s.blockers, blocker = .weak

theorem Inv.step (h : self.Inv) (op : Op Sender Client) (hop : op.Allowed self.transaction) :
    (self.step op).Inv := by
  refine ⟨h.sends.apply op hop, ?_, fun blocker hblocker => ?_⟩
  · change self.completions + _ = if (op.apply self.transaction).isCompleted then 1 else 0
    rw [h.completions]
    cases hc : self.transaction.isCompleted with
    | true => simp [Transaction.isCompleted_apply hc op]
    | false => simp
  · rcases List.mem_append.mp hblocker with hold | hnew
    · exact h.blockers blocker hold
    · cases op <;> simp_all [Op.newBlockers]

/-- A blocker of the transaction. -/
theorem state_weak (t : Transaction Sender Client) : TransactionBlocker.weak.state t = .released ↔
    t.isCompleted = true ∨ t.strongCount = 0 := by
  unfold TransactionBlocker.state TransactionBlocker.upgrade
  by_cases hpos : 0 < t.strongCount
  · cases hc : t.isCompleted <;> simp [hpos, hpos.ne', hc]
  · simp [Nat.eq_zero_of_not_pos hpos]

theorem Inv.completes (h : self.Inv) : self.Completes := by
  have hcompletions := h.completions
  refine ⟨?_, ?_, fun hc => (h.sends.before hc).1, fun hc => ?_, fun blocker hblocker => ?_⟩
  · split_ifs at hcompletions <;> omega
  · split_ifs at hcompletions with hc <;> simp [hc, hcompletions]
  · rw [(h.sends.after hc).1]
    exact ⟨map_snd_toFirst _, toFirst_eq_self⟩
  · rw [h.blockers blocker hblocker]
    exact state_weak _

/-- **Transactions complete.**  In every run a transaction is completed once at most, and stays so;
the notifications are sent when it is, each of them once; and a blocker is released exactly if the
transaction is completed or has no handles. -/
theorem reachable_completes
    (h : (machine Sender Client).ReachableBy (fun s op => op.Allowed s.transaction) self) :
    self.Completes ∧ ∀ op, self.transaction.isCompleted = true →
      (self.step op).transaction.isCompleted = true := by
  have hinv : self.Inv := by
    refine Machine.ReachableBy.invariant h ?_ fun s op hs hop => ensures_ok.mpr (hs.step op hop)
    rintro s rfl
    exact ⟨⟨fun _ => ⟨rfl, .none false⟩, nofun, nofun⟩, rfl, nofun⟩
  exact ⟨hinv.completes, fun op hc => Transaction.isCompleted_apply hc op⟩

instance (t : Transaction Sender Client) (op : Op Sender Client) : Decidable (op.Allowed t) := by
  unfold Op.Allowed
  cases op <;> infer_instance

/-- Of two handles one is dropped, the deadline passes, and then the other is dropped. -/
theorem reachable_completes_deadline : ∃ self : Session ℕ ℕ, self.registered = [(0, 1), (0, 2)] ∧
    self.transaction.strongCount = 0 ∧ self.Completes := by
  have hrun : ∃ self : Session ℕ ℕ,
      (machine ℕ ℕ).ReachableBy (fun s op => op.Allowed s.transaction) self ∧
        decide (self.registered = [(0, 1), (0, 2)] ∧ self.transaction.strongCount = 0) = true :=
    Machine.exists_reachableBy
      [.clone, .registerDeadlineTimer, .addNotification 0 1, .blocker, .drop, .addNotification 0 2,
        .deadline, .addNotification 0 3, .drop, .ping]
      (show (machine ℕ ℕ).initial ⟨.new, [], [], 0⟩ from rfl) (by decide)
  obtain ⟨self, hself, hp⟩ := hrun
  obtain ⟨hregistered, hcount⟩ := of_decide_eq_true hp
  exact ⟨self, hregistered, hcount, (reachable_completes hself).1⟩

end Session

end Sol.Transactions
