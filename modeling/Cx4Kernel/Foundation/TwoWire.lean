/-! A clock line and a data line that several parties can pull low: what a slave that keeps to the
two-wire protocol may do, and what the parties see of a master that moves its ends of the lines.
-/

namespace Cx4Kernel.Foundation

-----------------------------------------------------------------------------------------
-- Slaves
-----------------------------------------------------------------------------------------

/-- What happens on the lines. A `bit` is a clock, with what the master and the slave let the data
line be in it; a `start` or a `stop` is an edge of the data line while the clock line is high.
-/
inductive WireEvent where
  | start
  | stop
  | bit (master slave : Bool)
deriving DecidableEq

/-- What the next clock is for, seen from the slave: a bit that it receives or sends with that many
more behind it in the byte, its acknowledgement, that of the master, or nothing. The first byte
after a `start` is the address, and its last bit says who sends the bytes behind it.
-/
inductive Turn where
  | idle
  | receive (more : Nat) (address : Bool)
  | acknowledge (sends : Bool)
  | send (more : Nat)
  | acknowledged
deriving DecidableEq

/-- Who is next after an event. -/
def Turn.next : Turn → WireEvent → Turn
  | _, .start => .receive 7 true
  | _, .stop => .idle
  | .idle, .bit _ _ => .idle
  | .receive 0 address, .bit master slave => .acknowledge (address && (master && slave))
  | .receive (more + 1) address, .bit _ _ => .receive more address
  | .acknowledge sends, .bit master slave =>
      if master && slave then .idle else if sends then .send 7 else .receive 7 false
  | .send 0, .bit _ _ => .acknowledged
  | .send (more + 1), .bit _ _ => .send more
  | .acknowledged, .bit master slave => if master && slave then .idle else .send 7

/-- Who is next after all that was seen. -/
def turn (seen : List WireEvent) : Turn := seen.foldl Turn.next .idle

/-- The data line is the slave's in the next clock. -/
def Turn.ofSlave : Turn → Bool
  | .acknowledge _ | .send _ => true
  | .idle | .receive _ _ | .acknowledged => false

/-- A slave that obeys the protocol. In each clock it chooses, from all that it has seen, whether to
leave the data line high and how long to hold the clock line low. It pulls the data line only in
clocks that are its own, and holds the clock line for fewer than `patience` attempts to raise it.
-/
structure Slave (patience : Nat) where
  level : List WireEvent → Bool
  stretch : List WireEvent → Nat
  own : ∀ seen, level seen = false → (turn seen).ofSlave = true
  short : ∀ seen, stretch seen < patience

@[simp]
theorem turn_append (seen : List WireEvent) (event : WireEvent)
    : turn (seen ++ [event]) = (turn seen).next event := by
  simp [turn]

/-- A slave leaves the data line high in clocks that are not its own. -/
theorem Slave.level_of_turn {patience : Nat} (slave : Slave patience) {seen : List WireEvent}
    (other : (turn seen).ofSlave = false)
    : slave.level seen = true := by
  rcases level : slave.level seen with _ | _
  · exact absurd (slave.own seen level) (by simp [other])
  · rfl

-----------------------------------------------------------------------------------------
-- Lines
-----------------------------------------------------------------------------------------

/-- The lines: what the master lets each of them be, whether the clock line is high, how often the
slave has held it in this clock, what the slave lets the data line be in it, and what was seen.
-/
structure Wires where
  scl : Bool
  sda : Bool
  clock : Bool
  waited : Nat
  level : Bool
  seen : List WireEvent
deriving DecidableEq

/-- The data line is high. -/
def Wires.data (wires : Wires) : Bool := wires.sda && wires.level

/-- What an edge of the data line means while the clock line is high. -/
def edge : Bool → Bool → List WireEvent
  | true, false => [.start]
  | false, true => [.stop]
  | false, false | true, true => []

theorem edge_same (level : Bool) : edge level level = [] := by
  cases level <;> rfl

section Moves

variable {patience : Nat} (slave : Slave patience)

/-- The master moves its ends of the lines. When the clock line falls a new clock begins. -/
def Wires.drive (wires : Wires) (scl sda : Bool) : Wires :=
  if wires.clock then
    if scl then
      { wires with scl, sda, seen := wires.seen ++ edge wires.data (sda && wires.level) }
    else { wires with scl, sda, clock := false, waited := 0, level := slave.level wires.seen }
  else { wires with scl, sda }

/-- Time passes. A clock line that the master has let go rises unless the slave holds it, and as long
as it is not about to rise nothing is waited for.
-/
def Wires.delay (wires : Wires) : Wires :=
  if wires.scl && !wires.clock then
    if wires.waited < slave.stretch wires.seen then { wires with waited := wires.waited + 1 }
    else
      { wires with
        clock := true,
        waited := 0,
        seen := wires.seen ++ [.bit wires.sda wires.level] }
  else { wires with waited := 0 }

theorem Wires.drive_scl (wires : Wires) (scl sda : Bool)
    : (wires.drive slave scl sda).scl = scl := by
  cases clock : wires.clock <;> cases scl <;> simp [drive, clock]

theorem Wires.drive_sda (wires : Wires) (scl sda : Bool)
    : (wires.drive slave scl sda).sda = sda := by
  cases clock : wires.clock <;> cases scl <;> simp [drive, clock]

/-- The clock line is high only if the master has let it go. -/
theorem Wires.drive_raised (wires : Wires) (scl sda : Bool)
    (high : (wires.drive slave scl sda).clock = true)
    : (wires.drive slave scl sda).scl = true := by
  cases clock : wires.clock <;> cases scl <;> simp_all [drive]

/-- Lines that are not moved stay as they are. -/
theorem Wires.drive_same (wires : Wires) (raised : wires.clock = true → wires.scl = true)
    : wires.drive slave wires.scl wires.sda = wires := by
  obtain ⟨scl, sda, clock, waited, level, seen⟩ := wires
  rcases clock with _ | _
  · rfl
  · obtain rfl : scl = true := raised rfl
    simp [drive, data, edge_same]

/-- While the data line is free and the clock line is not pulled, nothing is seen. -/
theorem Wires.drive_free (wires : Wires) {scl : Bool} (free : wires.sda = true)
    (kept : wires.clock = true → scl = true)
    : (wires.drive slave scl true).clock = wires.clock
      ∧ (wires.drive slave scl true).seen = wires.seen := by
  rcases clock : wires.clock with _ | _
  · simp [drive, clock]
  · simp [drive, clock, kept clock, data, free, edge_same]

theorem Wires.delay_scl (wires : Wires) : (wires.delay slave).scl = wires.scl := by
  unfold delay
  split
  · split <;> rfl
  · rfl

theorem Wires.delay_sda (wires : Wires) : (wires.delay slave).sda = wires.sda := by
  unfold delay
  split
  · split <;> rfl
  · rfl

theorem Wires.delay_raised (wires : Wires) (raised : wires.clock = true → wires.scl = true)
    (high : (wires.delay slave).clock = true)
    : (wires.delay slave).scl = true := by
  rw [delay_scl]
  rcases scl : wires.scl with _ | _
  · have low : wires.clock ≠ true := fun clock => by simp [raised clock] at scl
    simp [delay, scl, low] at high
  · rfl

-----------------------------------------------------------------------------------------
-- Clocks
-----------------------------------------------------------------------------------------

/-- The low half of a clock that has just begun. -/
def Wires.low (sda : Bool) (seen : List WireEvent) : Wires where
  scl := false
  sda := sda
  clock := false
  waited := 0
  level := slave.level seen
  seen := seen

/-- The high half of a clock. -/
def Wires.high (sda level : Bool) (seen : List WireEvent) : Wires where
  scl := true
  sda := sda
  clock := true
  waited := 0
  level := level
  seen := seen

/-- The lines rest: a clock has just begun, or its high half goes on. -/
inductive Wires.Rests (sda : Bool) (seen : List WireEvent) : Wires → Prop
  | low : Rests sda seen (Wires.low slave sda seen)
  | high (level : Bool) : Rests sda seen (Wires.high sda level seen)

variable {slave}

/-- From lines that rest, the clock line is low after the master pulls it. -/
theorem Wires.Rests.drive {sda : Bool} {seen : List WireEvent} {wires : Wires}
    (rests : wires.Rests slave sda seen) (next : Bool)
    : wires.drive slave false next = Wires.low slave next seen := by
  cases rests with
  | low => rfl
  | high => rfl

/-- After one attempt to raise a clock line that is low, it is high or the slave held it once more. -/
theorem Wires.delay_raise (wires : Wires) (low : wires.clock = false)
    : (wires.drive slave true wires.sda).delay slave
      = if wires.waited < slave.stretch wires.seen then
          { wires with scl := true, waited := wires.waited + 1 }
        else high wires.sda wires.level (wires.seen ++ [.bit wires.sda wires.level]) := by
  simp [drive, delay, low, high]

theorem Wires.Rests.sda_eq {sda : Bool} {seen : List WireEvent} {wires : Wires}
    (rests : wires.Rests slave sda seen)
    : wires.sda = sda := by
  cases rests with
  | low => rfl
  | high => rfl

theorem Wires.Rests.seen_eq {sda : Bool} {seen : List WireEvent} {wires : Wires}
    (rests : wires.Rests slave sda seen)
    : wires.seen = seen := by
  cases rests with
  | low => rfl
  | high => rfl

end Moves

end Cx4Kernel.Foundation
