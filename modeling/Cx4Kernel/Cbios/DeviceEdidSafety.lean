import Mathlib.Data.Set.Basic
import Cx4Kernel.Cbios.DeviceEdid
import Cx4Kernel.Cbios.EdidServed
import Cx4Kernel.Foundation.Ownership

/-! The cached EDID is the one of the connected monitor, unless the monitor whose signature is
recorded comes back after the cache was filled from a fake EDID, or reads fail half-way.
-/

namespace Cx4Kernel.Cbios

open Cx4Kernel.Foundation Ownership

-----------------------------------------------------------------------------------------
-- Buffers
-----------------------------------------------------------------------------------------

variable {held : List (Option Nat)} {pool : Pool}

/-- Two places change their order. -/
theorem owned_swap {first second : Option Nat} {freed : List Nat}
    (owned : Owned (first :: second :: held) freed)
    : Owned (second :: first :: held) freed :=
  owned.perm (.swap second first held)

theorem cbClearEdidData_owned {edidData : EdidData}
    (owned : Owned (edidData.buffer :: held) pool.freed)
    : Owned held (cbClearEdidData edidData pool).2.freed := by
  obtain ⟨buffer, bytes⟩ := edidData
  cases buffer with
  | none => exact Owned.cons_none.mp owned
  | some buffer => exact owned.free

theorem cbCopyBuffer2EdidData_owned {edidData copied : EdidData} {buffer : List U8}
    {allocated : Bool} {after : Pool} (owned : Owned (edidData.buffer :: held) pool.freed)
    (h : cbCopyBuffer2EdidData edidData buffer allocated pool = some (copied, after))
    : Owned (copied.buffer :: held) after.freed := by
  rw [cbCopyBuffer2EdidData] at h
  split at h
  · cases h
  · split at h
    · cases h
      exact owned
    · rw [Option.ite_none_right_eq_some] at h
      cases h.2
      exact @cbClearEdidData_owned _ pool.allocate.2 edidData (owned_swap owned.allocate)

/-- Copying gives the bytes. -/
theorem cbCopyBuffer2EdidData_bytes {edidData copied : EdidData} {buffer : List U8}
    {allocated : Bool} {after : Pool}
    (h : cbCopyBuffer2EdidData edidData buffer allocated pool = some (copied, after))
    : copied.bytes = buffer := by
  rw [cbCopyBuffer2EdidData] at h
  split at h
  · cases h
  · split at h
    · cases h
      rfl
    · rw [Option.ite_none_right_eq_some] at h
      cases h.2
      rfl

/-- `cbGetFullEdid` has one buffer beside those in `held`. -/
def FullEdidRead.Owns (held : List (Option Nat)) (state : FullEdidRead) : Prop :=
  Owned (some state.buffer :: held) state.pool.freed

/-- It has one however it goes on. -/
def OwnsAfter (held : List (Option Nat)) : Except FullEdidRead FullEdidRead → Prop
  | .ok state => state.Owns held
  | .error state => state.Owns held

/-- A larger buffer takes the place of the smaller one, which is freed. -/
theorem FullEdidRead.Owns.grow {state : FullEdidRead} (owned : state.Owns held) (allocated : Bool)
    : OwnsAfter held (state.grow allocated) := by
  rw [FullEdidRead.grow]
  split
  · split
    · exact (owned_swap (Owned.allocate owned)).free
    · exact owned
  · exact owned

namespace EdidSource

variable {source : EdidSource} {line : Line}

/-- The loop of `cbGetFullEdid` has one buffer at a time, by induction on the rounds. -/
theorem fullEdidLoop_owned {allocated : Nat → Bool} {rounds blkIndex : Nat} {state : FullEdidRead}
    (owned : state.Owns held)
    : OwnsAfter held (source.fullEdidLoop line allocated rounds blkIndex state) := by
  induction rounds generalizing blkIndex state with
  | zero => exact owned
  | succ rounds ih =>
      rw [fullEdidLoop]
      split
      · simp only
        split
        · exact owned
        · rename_i block kept
          have same {exts : Nat}
              : { state with blocks := state.blocks ++ block, extsNum := exts }.Owns held := owned
          split
          · rename_i grown failed
            exact failed ▸ same.grow (allocated blkIndex)
          · rename_i grown grows
            have grown_owned : OwnsAfter held (.ok grown) := grows ▸ same.grow (allocated blkIndex)
            exact ih grown_owned
      · exact owned

/-- The only buffer that `cbGetFullEdid` leaves is the one it returns. -/
theorem cbGetFullEdid_owned {allocated : Option Nat → Bool} (owned : Owned held pool.freed)
    : Owned ((source.cbGetFullEdid line allocated pool).1.buffer :: held)
        (source.cbGetFullEdid line allocated pool).2.freed := by
  rw [cbGetFullEdid]
  split
  · have starts : FullEdidRead.Owns held ⟨pool.allocate.1, [], edidBlkSize, 0, pool.allocate.2⟩ :=
      owned.allocate
    have loop := @fullEdidLoop_owned held source line (allocated ∘ some) 256 0 _ starts
    simp only
    split
    · rename_i state ends
      rw [ends] at loop
      exact loop
    · rename_i state ends
      rw [ends] at loop
      exact Owned.cons_none.mpr (Owned.free loop)
  · exact Owned.cons_none.mpr owned

end EdidSource

-----------------------------------------------------------------------------------------
-- Buffers of the two functions
-----------------------------------------------------------------------------------------

/-- The cache and the fake EDID have the buffers that are not freed. -/
def DeviceCommon.Owns (device : DeviceCommon) (pool : Pool) : Prop :=
  Owned [device.edidData.buffer, device.fakeEdid.buffer] pool.freed

variable {device : DeviceCommon} {detection : Detection}

theorem finishDetection_owned {edidData : EdidData} {newSignature : DeviceSignature}
    {bGotEdid bDevChanged : Bool}
    (owned : Owned [edidData.buffer, device.edidData.buffer, device.fakeEdid.buffer] pool.freed)
    : let result := finishDetection device edidData newSignature pool bGotEdid bDevChanged
      result.device.Owns result.pool := by
  rw [finishDetection]
  split
  · exact cbClearEdidData_owned (owned_swap owned)
  · exact cbClearEdidData_owned owned

theorem cbGetDeviceEdid_owned (owned : device.Owns pool)
    : (cbGetDeviceEdid device detection pool).device.Owns
        (cbGetDeviceEdid device detection pool).pool := by
  have nothing : Owned [none, device.edidData.buffer, device.fakeEdid.buffer] pool.freed :=
    Owned.cons_none.mpr owned
  have read : Owned ((detection.source device).cbGetFullEdid detection.edidLine
        detection.allocated pool |>.1.buffer :: [device.edidData.buffer, device.fakeEdid.buffer])
      ((detection.source device).cbGetFullEdid detection.edidLine detection.allocated pool).2.freed :=
    EdidSource.cbGetFullEdid_owned owned
  rw [cbGetDeviceEdid]
  simp only
  split
  · split
    · split
      · rename_i copied
        exact cbCopyBuffer2EdidData_owned owned copied
      · exact owned
    · exact owned
  · split
    · split
      · exact finishDetection_owned read
      · exact finishDetection_owned read
    · split
      · exact finishDetection_owned nothing
      · split
        · exact finishDetection_owned read
        · exact finishDetection_owned nothing

theorem cbDevSetEdid_owned {edidData : List U8} {allocated : Bool} (owned : device.Owns pool)
    : (cbDevSetEdid device edidData allocated pool).1.Owns
        (cbDevSetEdid device edidData allocated pool).2 := by
  rw [cbDevSetEdid]
  split
  · have rest := @cbClearEdidData_owned _ pool device.fakeEdid (owned_swap owned)
    exact owned_swap (Owned.cons_none.mpr rest)
  · split
    · split
      · rename_i copied
        exact owned_swap (cbCopyBuffer2EdidData_owned (owned_swap owned) copied)
      · exact owned
    · exact owned

-----------------------------------------------------------------------------------------
-- Values
-----------------------------------------------------------------------------------------

namespace Monitor

variable (monitor : Monitor)

/-- All blocks have valid checksums. -/
def Valid : Prop := ∀ i < monitor.blockCount, cbIsEdidChecksumValid (monitor.block i)

/-- The EDID of the monitor. -/
def edid : List U8 := (List.range monitor.blockCount).flatMap monitor.block

/-- A valid EDID is kept as it is. -/
theorem fullEdid_of_valid (valid : monitor.Valid) : monitor.fullEdid = monitor.edid := by
  rw [fullEdid, edid, List.flatMap_def, List.flatMap_def]
  congr 1
  apply List.map_congr_left
  intro i inside
  rw [keptBlock, if_pos (valid i (List.mem_range.mp inside))]

/-- The signature that a call of `cbGetDeviceEDID` makes. -/
def detectedSignature (fullDetect : Bool) : DeviceSignature :=
  if fullDetect then cbGetDeviceSignatureFromEdid monitor.fullEdid
  else monitor.signature (monitor.extBlockNum + 1)

end Monitor

/-- The reads of a call give what the monitor serves: the signature is not read from the cache, and
once the base block passes, the transfers of all blocks go through.
-/
def Detection.ReadsServed (detection : Detection) (device : DeviceCommon) : Prop :=
  (detection.fullDetect = false → (detection.source device).NoHdcp detection.signatureLine)
    ∧ ((detection.source device).BasePasses detection.edidLine
      → ∀ i < detection.monitor.blockCount, detection.edidLine i 0 = .done)

/-- The reads of a call give what the monitor serves, with its damaged blocks. -/
def Detection.Serves (detection : Detection) (device : DeviceCommon) : Prop :=
  (detection.fullDetect = false → (detection.source device).NoHdcp detection.signatureLine)
    ∧ ((detection.source device).BasePasses detection.edidLine
      → ∀ i < detection.monitor.blockCount,
        (detection.source device).Served detection.edidLine i)

/-- Transfers that go through are enough for a monitor with valid checksums. -/
theorem Detection.ReadsServed.serves (served : detection.ReadsServed device)
    (valid : detection.monitor.Valid)
    : detection.Serves device := by
  refine ⟨served.1, fun passes i inside => ?_⟩
  have few := Nat.lt_of_lt_of_le inside (EdidSource.blockCount_le (detection.source device))
  exact EdidSource.served_of_valid _ few (served.2 passes i inside) (valid i inside)

/-- The EDID that such a call reads. -/
theorem Detection.Serves.bytes (served : detection.Serves device)
    (read : cbEdidModuleIsEdidValid ((detection.source device).cbGetFullEdid detection.edidLine
      detection.allocated pool).1.bytes)
    : ((detection.source device).cbGetFullEdid detection.edidLine detection.allocated pool).1.bytes
      = detection.monitor.fullEdid := by
  rcases @EdidSource.cbGetFullEdid_bytes (detection.source device) detection.edidLine
    detection.allocated pool served.2 with nothing | bytes
  · rw [nothing] at read
    exact absurd read (by decide)
  · exact bytes

/-- What a call with a fake EDID does. -/
theorem cbGetDeviceEdid_fake (fake : device.isFakeEdid = true)
    : let result := cbGetDeviceEdid device detection pool
      result.device.fakeEdid = device.fakeEdid ∧ result.device.isFakeEdid = true
        ∧ (result.bGotEdid → result.device.edidData.bytes = device.fakeEdid.bytes)
        ∧ (result.bDevChanged = false → result.device = device)
        ∧ (result.bDevChanged → result.bGotEdid) := by
  rw [cbGetDeviceEdid]
  simp only
  rw [if_pos fake]
  split
  · split
    · rename_i copied
      exact ⟨rfl, fake, fun _ => cbCopyBuffer2EdidData_bytes copied, nofun, fun _ => rfl⟩
    · exact ⟨rfl, fake, nofun, fun _ => rfl, nofun⟩
  · rename_i same
    exact ⟨rfl, fake, fun _ => (not_not.mp same).symm, fun _ => rfl, nofun⟩

/-- The device after a call without a fake EDID: with the EDID and the signature of the monitor, if
that was not the recorded one, or unchanged, and then it was if the call returned TRUE.
-/
def Detected.FromMonitor (monitor : Monitor) (signature : DeviceSignature)
    (device : DeviceCommon) (result : DetectResult) : Prop :=
  result.bDevChanged = true ∧ result.bGotEdid = true ∧ device.connectedDevSignature ≠ signature
      ∧ (∃ edidData : EdidData, edidData.bytes = monitor.fullEdid
        ∧ result.device = { device with edidData, connectedDevSignature := signature })
    ∨ result.bDevChanged = false ∧ result.device = device
      ∧ (result.bGotEdid = true → device.connectedDevSignature = signature)

/-- What a call without a fake EDID does. -/
theorem cbGetDeviceEdid_monitor (real : device.isFakeEdid = false)
    (served : detection.Serves device)
    : Detected.FromMonitor detection.monitor
        (detection.monitor.detectedSignature detection.fullDetect) device
        (cbGetDeviceEdid device detection pool) := by
  rw [cbGetDeviceEdid]
  simp only
  rw [if_neg (Bool.eq_false_iff.mp real), Monitor.detectedSignature]
  have bytes := @Detection.Serves.bytes pool device detection served
  generalize (detection.source device).cbGetFullEdid detection.edidLine detection.allocated pool
    = read at bytes ⊢
  obtain ⟨edidData, after⟩ := read
  split
  · simp only
    split
    · rename_i read
      have is_edid := bytes read
      rw [finishDetection]
      split
      · rename_i different
        rw [is_edid] at different ⊢
        exact .inl ⟨rfl, rfl, of_decide_eq_true different, edidData, is_edid, rfl⟩
      · rename_i same
        refine .inr ⟨rfl, rfl, fun _ => ?_⟩
        rw [← is_edid]
        simpa using same
    · exact .inr ⟨rfl, rfl, nofun⟩
  · rename_i partly
    have sound := (EdidSource.cbGetDeviceSignature_delivers (detection.source device)).sound
      detection.signatureLine (served.1 (Bool.eq_false_iff.mpr partly))
    split
    · exact .inr ⟨rfl, rfl, nofun⟩
    · rename_i newSignature found
      obtain rfl := sound newSignature found
      split
      · rename_i different
        simp only
        rw [finishDetection]
        split
        · rename_i read
          exact .inl ⟨rfl, read, different, edidData, bytes read, rfl⟩
        · rename_i refused
          exact .inr ⟨rfl, rfl, fun got => absurd got refused⟩
      · rename_i same
        exact .inr ⟨rfl, rfl, fun _ => not_not.mp same⟩

-----------------------------------------------------------------------------------------
-- Runs
-----------------------------------------------------------------------------------------

namespace DeviceState

/-- A monitor has this signature, however it is computed. -/
def HasSignature (monitor : Monitor) (signature : DeviceSignature) : Prop :=
  ∃ fullDetect, signature = monitor.detectedSignature fullDetect

/-- Two monitors differ in their signature bytes. -/
def Distinct (monitors : Set Monitor) : Prop :=
  ∀ monitor ∈ monitors, ∀ other ∈ monitors, ∀ signature, HasSignature monitor signature
    → HasSignature other signature → monitor = other

/-- The condition under which a call keeps the cache right. A call that asks the monitor must have
its reads served, and the recorded signature may only be that of the monitor if the cache was
filled from a monitor.
-/
def Faithful (monitors : Set Monitor) (state : DeviceState) : DeviceCall → Prop
  | .setEdid _ _ => True
  | .getDeviceEdid detection =>
      detection.monitor ∈ monitors
        ∧ (state.device.isFakeEdid = false →
          detection.ReadsServed state.device
            ∧ (state.filledFrom = none →
              state.device.connectedDevSignature
                ≠ detection.monitor.detectedSignature detection.fullDetect))

/-- The cache is right after the last call, and no buffer is lost or freed twice. -/
structure Safe (state : DeviceState) : Prop where
  cached : ∀ detected ∈ state.detected, detected.bGotEdid →
    state.device.edidData.bytes
      = if state.device.isFakeEdid then state.device.fakeEdid.bytes else detected.monitor.edid
  kept : ∀ detected ∈ state.detected, ¬ detected.bGotEdid →
    state.device.edidData = detected.before
  owned : state.device.Owns state.pool

/-- The invariant: beside `Safe`, a cache that was filled from a monitor has its EDID, and its
signature is recorded.
-/
structure Sound (monitors : Set Monitor) (state : DeviceState) : Prop extends state.Safe where
  filled : ∀ monitor ∈ state.filledFrom, monitor ∈ monitors
    ∧ state.device.edidData.bytes = monitor.fullEdid
    ∧ HasSignature monitor state.device.connectedDevSignature

theorem start_sound (monitors : Set Monitor) : start.Sound monitors where
  cached := nofun
  kept := nofun
  owned := ⟨nofun, fun place _ h => by
    match place with
    | 0 => cases h
    | 1 => cases h⟩
  filled := nofun

/-- Installing or removing a fake EDID changes neither the cache nor the recorded signature. -/
theorem cbDevSetEdid_cache {edidData : List U8} {allocated : Bool}
    : let result := (cbDevSetEdid device edidData allocated pool).1
      result.edidData = device.edidData
        ∧ result.connectedDevSignature = device.connectedDevSignature := by
  rw [cbDevSetEdid]
  split
  · exact ⟨rfl, rfl⟩
  · split
    · split
      · exact ⟨rfl, rfl⟩
      · exact ⟨rfl, rfl⟩
    · exact ⟨rfl, rfl⟩

variable {monitors : Set Monitor} {state after : DeviceState}

/-- The device after a call of `cbGetDeviceEDID`. -/
theorem call_device (state : DeviceState) (detection : Detection)
    : (state.call (.getDeviceEdid detection)).device
      = (cbGetDeviceEdid state.device detection state.pool).device :=
  rfl

theorem Sound.setEdid {edidData : List U8} {allocated : Bool} (sound : state.Sound monitors)
    (taken : state.next (.setEdid edidData allocated) = some after)
    : after.Sound monitors := by
  obtain rfl := Option.some.inj taken
  obtain ⟨same_edid, same_signature⟩ := @cbDevSetEdid_cache state.pool state.device edidData allocated
  refine ⟨⟨nofun, nofun, cbDevSetEdid_owned sound.owned⟩, fun monitor from_ => ?_⟩
  obtain ⟨member, bytes, signature⟩ := sound.filled monitor from_
  exact ⟨member, (congrArg EdidData.bytes same_edid).trans bytes,
    (congrArg (HasSignature monitor) same_signature).mpr signature⟩

/-- A call with a fake EDID. -/
theorem Sound.detect_fake {detection : Detection} (sound : state.Sound monitors)
    (fake : state.device.isFakeEdid = true)
    (taken : state.next (.getDeviceEdid detection) = some after)
    : after.Sound monitors := by
  obtain rfl := Option.some.inj taken
  obtain ⟨same_fake, still, bytes, unchanged, got⟩ :=
    @cbGetDeviceEdid_fake state.pool state.device detection fake
  refine ⟨⟨?_, ?_, cbGetDeviceEdid_owned sound.owned⟩, ?_⟩
  · rintro _ ⟨⟩ returned
    rw [call_device, if_pos still, same_fake]
    exact bytes returned
  · rintro _ ⟨⟩ failed
    have not_changed := Bool.eq_false_iff.mpr (mt got failed)
    exact congrArg DeviceCommon.edidData (unchanged not_changed)
  · intro monitor from_
    change monitor ∈ (if _ then _ else _) at from_
    split at from_
    · cases from_
    · rename_i not_changed
      have same := unchanged (Bool.eq_false_iff.mpr not_changed)
      have before := sound.filled monitor from_
      rw [← same] at before
      exact before

/-- A call that asks the monitor. -/
theorem Sound.detect_monitor {detection : Detection} (sound : state.Sound monitors)
    (valid : ∀ monitor ∈ monitors, monitor.Valid) (distinct : Distinct monitors)
    (real : state.device.isFakeEdid = false)
    (faithful : Faithful monitors state (.getDeviceEdid detection))
    (taken : state.next (.getDeviceEdid detection) = some after)
    : after.Sound monitors := by
  obtain rfl := Option.some.inj taken
  obtain ⟨member, asked⟩ := faithful
  obtain ⟨served, recorded⟩ := asked real
  have is_edid := detection.monitor.fullEdid_of_valid (valid _ member)
  have owned := @cbGetDeviceEdid_owned state.pool state.device detection sound.owned
  rcases @cbGetDeviceEdid_monitor state.pool state.device detection real
    (served.serves (valid _ member)) with ⟨changed, got, _, edidData, bytes, is_device⟩ | ⟨unchanged, same, signature⟩
  · refine ⟨⟨?_, ?_, owned⟩, ?_⟩
    · rintro _ ⟨⟩ _
      rw [call_device, is_device]
      exact (bytes.trans is_edid).trans (if_neg (Bool.eq_false_iff.mp real)).symm
    · rintro _ ⟨⟩ failed
      exact absurd got failed
    · intro monitor from_
      change monitor ∈ (if _ then _ else _) at from_
      rw [if_pos changed, if_neg (Bool.eq_false_iff.mp real)] at from_
      cases from_
      rw [call_device, is_device]
      exact ⟨member, bytes, detection.fullDetect, rfl⟩
  · refine ⟨⟨?_, ?_, owned⟩, ?_⟩
    · rintro _ ⟨⟩ got
      rw [call_device, same]
      have is_signature := signature got
      cases from_ : state.filledFrom with
      | none => exact absurd is_signature (recorded from_)
      | some monitor =>
          obtain ⟨known, bytes, has⟩ := sound.filled monitor from_
          have same_monitor : monitor = detection.monitor :=
            distinct monitor known _ member _ has ⟨detection.fullDetect, is_signature⟩
          subst same_monitor
          exact (bytes.trans is_edid).trans (if_neg (Bool.eq_false_iff.mp real)).symm
    · rintro _ ⟨⟩ _
      exact congrArg DeviceCommon.edidData same
    · intro monitor from_
      change monitor ∈ (if _ then _ else _) at from_
      rw [if_neg (Bool.eq_false_iff.mp unchanged)] at from_
      rw [call_device, same]
      exact sound.filled monitor from_

/-- Every call that meets the condition keeps the invariant. -/
theorem Sound.next {call : DeviceCall} (sound : state.Sound monitors)
    (valid : ∀ monitor ∈ monitors, monitor.Valid) (distinct : Distinct monitors)
    (faithful : Faithful monitors state call) (taken : state.next call = some after)
    : after.Sound monitors := by
  cases call with
  | setEdid edidData allocated => exact sound.setEdid taken
  | getDeviceEdid detection =>
      cases fake : state.device.isFakeEdid with
      | true => exact sound.detect_fake fake taken
      | false => exact sound.detect_monitor valid distinct fake faithful taken

/-- The run theorem: the cache has the EDID of the connected monitor, or the fake one. -/
theorem edid_current (valid : ∀ monitor ∈ monitors, monitor.Valid) (distinct : Distinct monitors)
    (reached : system.ReachableUnder (Faithful monitors) state)
    : state.Safe := by
  have sound : state.Sound monitors := by
    apply reached.invariant
    · rintro _ rfl
      exact start_sound monitors
    · intro before call after sound faithful taken
      exact sound.next valid distinct faithful taken
  exact sound.toSafe

/-- A monitor with a base block that says nothing but its id. -/
def plainMonitor (id : U8) : Monitor := fun i =>
  if 1 ≤ i ∧ i ≤ 6 then 0xff else if i = 8 then id else if i = 127 then 6 - id else 0

/-- A full detection without trouble. -/
def plainDetection (id : U8) : Detection :=
  ⟨plainMonitor id, false, true, EdidSource.allDone, EdidSource.allDone, fun _ => true⟩

theorem plainDetection_served (id : U8) (device : DeviceCommon)
    : (plainDetection id).ReadsServed device :=
  ⟨nofun, fun _ _ _ => rfl⟩

instance (monitor : Monitor) : Decidable monitor.Valid :=
  inferInstanceAs (Decidable (∀ i < monitor.blockCount, _))

/-- Two such monitors. -/
def twoMonitors : Set Monitor := {plainMonitor 1, plainMonitor 2}

theorem twoMonitors_valid : ∀ monitor ∈ twoMonitors, monitor.Valid := by
  rintro _ (rfl | rfl)
  · decide +kernel
  · decide +kernel

theorem twoMonitors_distinct : Distinct twoMonitors := by
  have first : ∀ full, ((plainMonitor 1).detectedSignature full).monitorId = [1, 0, 0, 0] := by
    decide +kernel
  have second : ∀ full, ((plainMonitor 2).detectedSignature full).monitorId = [2, 0, 0, 0] := by
    decide +kernel
  rintro _ (rfl | rfl) _ (rfl | rfl) _ ⟨full, rfl⟩ ⟨full', same⟩
  · rfl
  · have ids := congrArg DeviceSignature.monitorId same
    rw [first, second] at ids
    exact absurd ids (by decide)
  · have ids := congrArg DeviceSignature.monitorId same
    rw [first, second] at ids
    exact absurd ids (by decide)
  · rfl

/-- A fake EDID is used and removed, and then another monitor is there. -/
def swappedCalls : List DeviceCall :=
  [.getDeviceEdid (plainDetection 1), .setEdid (plainMonitor 3).edid true,
    .getDeviceEdid (plainDetection 1), .setEdid [] true, .getDeviceEdid (plainDetection 2)]

/-- The state after these calls. -/
def swapped : Option DeviceState := System.replay next start swappedCalls

theorem swapped_isSome : swapped.isSome := by rfl

theorem swapped_permitted : System.Permits (Faithful twoMonitors) next start swappedCalls := by
  refine ⟨⟨.inl rfl, fun _ => ⟨plainDetection_served 1 _, fun _ => by decide +kernel⟩⟩, ?_⟩
  intro first taken
  obtain rfl := Option.some.inj taken
  refine ⟨trivial, fun installed taken => ?_⟩
  obtain rfl := Option.some.inj taken
  refine ⟨⟨.inl rfl, fun real => absurd real (by decide +kernel)⟩, fun faked taken => ?_⟩
  obtain rfl := Option.some.inj taken
  refine ⟨trivial, fun unlocked taken => ?_⟩
  obtain rfl := Option.some.inj taken
  refine ⟨⟨.inr rfl, fun _ => ⟨plainDetection_served 2 _, fun _ => ?_⟩⟩, fun _ _ => trivial⟩
  decide +kernel

/-- The cache has the EDID of the other monitor. -/
theorem edid_current_swapped
    : (swapped.get swapped_isSome).device.edidData.bytes = (plainMonitor 2).edid
      ∧ (swapped.get swapped_isSome).Safe := by
  refine ⟨by decide +kernel, edid_current twoMonitors_valid twoMonitors_distinct ?_⟩
  exact .replay swappedCalls rfl swapped_permitted (Option.some_get swapped_isSome).symm

/-- Only the monitors are given. -/
def Connected (monitors : Set Monitor) : DeviceState → DeviceCall → Prop
  | _, .setEdid _ _ => True
  | _, .getDeviceEdid detection => detection.monitor ∈ monitors

/-- A fake EDID is used and removed, and the monitor is still there. -/
def removedCalls : List DeviceCall :=
  [.getDeviceEdid (plainDetection 1), .setEdid (plainMonitor 3).edid true,
    .getDeviceEdid (plainDetection 1), .setEdid [] true, .getDeviceEdid (plainDetection 1)]

/-- The state after these calls. -/
def removed : Option DeviceState := System.replay next start removedCalls

theorem removed_isSome : removed.isSome := by rfl

theorem removed_detected : (removed.get removed_isSome).detected.isSome := by rfl

/-- The last call returns TRUE, and the cache still has the fake EDID. -/
theorem removed_fake_stays
    : ¬ ∀ monitors : Set Monitor, (∀ monitor ∈ monitors, monitor.Valid) → Distinct monitors
      → ∀ state, system.ReachableUnder (Connected monitors) state → state.Safe := by
  intro claim
  have permitted : System.Permits (Connected twoMonitors) next start removedCalls :=
    ⟨.inl rfl, fun _ _ => ⟨trivial, fun _ _ => ⟨.inl rfl, fun _ _ => ⟨trivial, fun _ _ =>
      ⟨.inl rfl, fun _ _ => trivial⟩⟩⟩⟩⟩
  have safe := claim twoMonitors twoMonitors_valid twoMonitors_distinct _
    (.replay removedCalls rfl permitted (Option.some_get removed_isSome).symm)
  have cached := safe.cached _ (Option.get_mem removed_detected) (by decide +kernel)
  exact absurd cached (by decide +kernel)

end DeviceState

end Cx4Kernel.Cbios
