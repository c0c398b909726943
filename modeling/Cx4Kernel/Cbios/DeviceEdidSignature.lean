import Cx4Kernel.Cbios.DeviceEdidSafety

/-! When the two ways to get the signature of a monitor agree: the bytes read one by one, and the
bytes of the full EDID, whose damaged blocks were repaired or cleared.
-/

namespace Cx4Kernel.Cbios

open Cx4Kernel.Foundation

-----------------------------------------------------------------------------------------
-- Checksums
-----------------------------------------------------------------------------------------

theorem checksum_append (bytes : List U8) (last : U8)
    : checksum (bytes ++ [last]) = checksum bytes + last := by
  rw [checksum, List.foldl_append]
  rfl

/-- One block is valid if its bytes add up to 0. -/
theorem cbIsEdidChecksumValid_block {block : List U8} (length : block.length = edidBlkSize)
    : cbIsEdidChecksumValid block ↔ checksum block = 0 := by
  have whole : block.take (edidBlkSize * (0 + 1)) = block :=
    List.take_of_length_le (Nat.le_of_eq length)
  rw [cbIsEdidChecksumValid, length]
  change (true && ((List.range 1).all _)) = true ↔ _
  rw [List.range_one, List.all_cons, List.all_nil, whole, Bool.and_true, Bool.true_and]
  exact decide_eq_true_iff

/-- The bytes 126 and 127 of a block. -/
def extFlagBytes (block : List U8) : List U8 := (block.drop 126).take 2

/-- A repaired block differs from a damaged one in its last byte. -/
theorem extFlagBytes_fix {block : List U8} (length : block.length = edidBlkSize)
    : extFlagBytes (cbFixEdidChecksum block) = extFlagBytes block
      ↔ cbIsEdidChecksumValid block := by
  obtain ⟨front, last, rfl⟩ : ∃ front last, block = front ++ [last] := by
    refine ⟨block.dropLast, block.getLast ?_, (List.dropLast_append_getLast _).symm⟩
    rintro rfl
    cases length
  have front_length : front.length = 127 := by
    rw [List.length_append, List.length_singleton] at length
    exact Nat.succ.inj length
  have fixed : (front ++ [last]).take (edidBlkSize - 1) = front := List.take_left' front_length
  have bytes (byte : U8) : extFlagBytes (front ++ [byte]) = front.drop 126 ++ [byte] := by
    rw [extFlagBytes, List.drop_append_of_le_length (by omega), List.take_of_length_le]
    rw [List.length_append, List.length_drop, front_length]
    rfl
  have negated : ~~~checksum front + 1 = -checksum front := (BitVec.neg_eq_not_add _).symm
  rw [cbIsEdidChecksumValid_block length, checksum_append, cbFixEdidChecksum, fixed, negated,
    bytes, bytes, List.append_right_inj, List.singleton_inj, neg_eq_iff_add_eq_zero]

-----------------------------------------------------------------------------------------
-- Signatures from a full EDID
-----------------------------------------------------------------------------------------

/-- Blocks of one size from some block on, by induction on the blocks before. -/
theorem drop_flatMap_range' {size : Nat} {block : Nat → List U8}
    (length : ∀ i, (block i).length = size) (skipped first count : Nat)
    : ((List.range' first (skipped + count)).flatMap block).drop (skipped * size)
      = (List.range' (first + skipped) count).flatMap block := by
  induction skipped generalizing first with
  | zero => rw [Nat.zero_mul, List.drop_zero, Nat.zero_add, Nat.add_zero]
  | succ skipped ih =>
      rw [Nat.add_right_comm, List.range'_succ, List.flatMap_cons, Nat.succ_mul, Nat.add_comm _ size,
        ← List.drop_drop, List.drop_left' (length first), ih, Nat.add_right_comm, Nat.add_assoc]

/-- The length of blocks of one size, by induction on their number. -/
theorem length_flatMap_range {size : Nat} {block : Nat → List U8}
    (length : ∀ i, (block i).length = size) (count : Nat)
    : ((List.range count).flatMap block).length = count * size := by
  induction count with
  | zero => exact (Nat.zero_mul size).symm
  | succ count ih =>
      rw [List.range_succ, List.flatMap_append, List.flatMap_singleton, List.length_append, ih,
        length, Nat.succ_mul]

namespace Monitor

variable (monitor : Monitor)

theorem length_fullEdid : monitor.fullEdid.length = monitor.blockCount * edidBlkSize :=
  length_flatMap_range monitor.length_keptBlock _

/-- Some bytes of a block of the full EDID. -/
theorem fullEdid_slice {i start size : Nat} (inside : i < monitor.blockCount)
    (part : start + size ≤ edidBlkSize)
    : (monitor.fullEdid.drop (i * edidBlkSize + start)).take size
      = ((monitor.keptBlock i).drop start).take size := by
  obtain ⟨count, counted⟩ := Nat.exists_eq_add_of_lt inside
  have length := monitor.length_keptBlock
  rw [fullEdid, counted, Nat.add_assoc, List.range_eq_range', ← List.drop_drop,
    drop_flatMap_range' length, List.range'_succ, List.flatMap_cons,
    Nat.zero_add, List.drop_append_of_le_length (by rw [length]; omega),
    List.take_append_of_le_length]
  rw [List.length_drop, length]
  omega

/-- The bytes that a kept block gives to the signature. -/
theorem extFlagBytes_kept {i : Nat} (extension : 1 ≤ i)
    : extFlagBytes (monitor.keptBlock i)
      = if cbIsEdidChecksumValid (monitor.block i) then monitor.bytes (i * edidBlkSize + 126) 2
        else [0, 0] := by
  rw [keptBlock]
  split
  · rw [extFlagBytes, block, take_drop_bytes _ (by decide), Nat.mul_comm]
  · rw [if_neg (by omega)]
    rfl

/-- An entry of the signature that is made from the full EDID. -/
def keptEntry (i : Nat) : List U8 :=
  if i < monitor.blockCount then extFlagBytes (monitor.keptBlock i) else [0, 0]

/-- An entry of the signature that is read. -/
def readEntry (i : Nat) : List U8 :=
  if i ≤ monitor.extBlockNum then monitor.bytes (i * edidBlkSize + 126) 2 else [0, 0]

/-- The signature of the full EDID. -/
theorem signature_fullEdid
    : cbGetDeviceSignatureFromEdid monitor.fullEdid
      = ⟨monitor.bytes 8 4, (List.range edidMaxBlkCnt).map monitor.keptEntry⟩ := by
  rw [cbGetDeviceSignatureFromEdid, length_fullEdid, Nat.mul_div_cancel _ (by decide)]
  congr 1
  · have base := @fullEdid_slice monitor 0 8 4 (Nat.succ_pos _) (by decide)
    rw [Nat.zero_mul, Nat.zero_add] at base
    rw [base, keptBlock]
    split
    · exact monitor.take_drop_bytes (by decide)
    · have front : (monitor.block 0).take (edidBlkSize - 1) = monitor.bytes 0 127 :=
        @take_drop_bytes monitor 0 128 0 127 (by decide)
      rw [if_pos rfl, cbFixEdidChecksum, front,
        List.drop_append_of_le_length (by rw [length_bytes]; decide),
        List.take_append_of_le_length (by rw [List.length_drop, length_bytes]; decide)]
      exact monitor.take_drop_bytes (by decide)
  · apply List.map_congr_left
    intro i member
    have few := List.mem_range.mp member
    rw [keptEntry]
    by_cases inside : i < monitor.blockCount
    · rw [if_pos (Nat.lt_min.mpr ⟨inside, few⟩), if_pos inside,
        monitor.fullEdid_slice inside (by decide)]
      rfl
    · rw [if_neg fun h => inside (Nat.lt_min.mp h).1, if_neg inside]

/-- The signature that is read. -/
theorem signature_read
    : monitor.signature (monitor.extBlockNum + 1)
      = ⟨monitor.bytes 8 4, (List.range edidMaxBlkCnt).map monitor.readEntry⟩ := by
  rw [signature]
  congr 1
  apply List.map_congr_left
  intro i member
  have few := List.mem_range.mp member
  rw [readEntry]
  by_cases inside : i ≤ monitor.extBlockNum
  · rw [if_pos (Nat.lt_min.mpr ⟨Nat.lt_succ_of_le inside, few⟩), if_pos inside]
  · rw [if_neg fun h => inside (Nat.le_of_lt_succ (Nat.lt_min.mp h).1), if_neg inside]

/-- The base block is undamaged. Of the extension blocks that the signature covers, those that
the monitor announces are undamaged and others that the extension flag makes
`cbGetFullEdid` read are damaged, unless their bytes 126 and 127 are zero.
-/
def Steady : Prop :=
  cbIsEdidChecksumValid (monitor.block 0)
    ∧ ∀ i < edidMaxBlkCnt, 1 ≤ i → i < monitor.blockCount
      → ((cbIsEdidChecksumValid (monitor.block i) ↔ i ≤ monitor.extBlockNum)
        ∨ monitor.bytes (i * edidBlkSize + 126) 2 = [0, 0])

/-- The entry of the base block. -/
theorem entry_base : monitor.readEntry 0 = monitor.keptEntry 0
    ↔ cbIsEdidChecksumValid (monitor.block 0) := by
  have length : (monitor.block 0).length = edidBlkSize := length_bytes ..
  have raw : monitor.readEntry 0 = extFlagBytes (monitor.block 0) := by
    rw [readEntry, if_pos (Nat.zero_le _), extFlagBytes, block, take_drop_bytes _ (by decide)]
    rfl
  have first : 0 < monitor.blockCount := Nat.succ_pos _
  rw [raw, keptEntry, if_pos first, keptBlock]
  split
  · rename_i valid
    exact ⟨fun _ => valid, fun _ => rfl⟩
  · rw [if_pos rfl, eq_comm]
    exact extFlagBytes_fix length

/-- The entry of an extension block. -/
theorem entry_extension {i : Nat} (extension : 1 ≤ i)
    : monitor.readEntry i = monitor.keptEntry i
      ↔ (i < monitor.blockCount
        → ((cbIsEdidChecksumValid (monitor.block i) ↔ i ≤ monitor.extBlockNum)
          ∨ monitor.bytes (i * edidBlkSize + 126) 2 = [0, 0])) := by
  have announced : i ≤ monitor.extBlockNum → i < monitor.blockCount := fun h =>
    Nat.lt_succ_of_le (Nat.le_trans h (Nat.le_max_right ..))
  rw [readEntry, keptEntry]
  by_cases inside : i < monitor.blockCount
  · rw [if_pos inside, extFlagBytes_kept _ extension]
    by_cases read : i ≤ monitor.extBlockNum <;>
      by_cases valid : cbIsEdidChecksumValid (monitor.block i) <;>
      simp [read, valid, inside, eq_comm]
  · rw [if_neg inside, if_neg fun h => inside (announced h)]
    exact ⟨fun _ h => absurd h inside, fun _ => rfl⟩

/-- The two signatures are equal if the blocks that they disagree about are in order. -/
theorem signatures_eq_iff
    : monitor.signature (monitor.extBlockNum + 1) = cbGetDeviceSignatureFromEdid monitor.fullEdid
      ↔ monitor.Steady := by
  rw [signature_fullEdid, signature_read, DeviceSignature.mk.injEq, List.map_inj_left]
  constructor
  · rintro ⟨_, entries⟩
    refine ⟨monitor.entry_base.mp (entries 0 (by decide)), fun i few extension => ?_⟩
    exact (monitor.entry_extension extension).mp (entries i (List.mem_range.mpr few))
  · rintro ⟨base, extensions⟩
    refine ⟨rfl, fun i member => ?_⟩
    rcases Nat.eq_zero_or_pos i with rfl | extension
    · exact monitor.entry_base.mpr base
    · exact (monitor.entry_extension extension).mpr
        (extensions i (List.mem_range.mp member) extension)

end Monitor

-----------------------------------------------------------------------------------------
-- Detections of one monitor
-----------------------------------------------------------------------------------------

/-- A call on the monitor whose transfers all go through. -/
def Detection.Quiet (monitor : Monitor) (detection : Detection) : Prop :=
  detection.monitor = monitor ∧ detection.signatureLine = EdidSource.allDone
    ∧ detection.edidLine = EdidSource.allDone

/-- Such a call reads what the monitor serves. -/
theorem Detection.Quiet.serves {monitor : Monitor} {detection : Detection}
    (quiet : detection.Quiet monitor) (device : DeviceCommon)
    : detection.Serves device := by
  obtain ⟨_, signature, edid⟩ := quiet
  refine ⟨fun _ _ _ => signature ▸ nofun, fun _ i inside => ?_⟩
  rw [edid]
  exact EdidSource.served_allDone _
    (Nat.lt_of_lt_of_le inside (EdidSource.blockCount_le (detection.source device)))

namespace Monitor

variable {monitor : Monitor}

/-- After a call that returned TRUE no later one reports a changed device. -/
def NotReported (monitor : Monitor) : Prop :=
  ∀ state : DeviceState, state.device.isFakeEdid = false
    → ∀ first : Detection, first.Quiet monitor
      → (cbGetDeviceEdid state.device first state.pool).bGotEdid
      → ∀ later : List Detection, (∀ detection ∈ later, detection.Quiet monitor)
        → ∀ last : Detection, last.Quiet monitor
          → let after := later.foldl (fun state detection => state.call (.getDeviceEdid detection))
              (state.call (.getDeviceEdid first))
            (cbGetDeviceEdid after.device last after.pool).bDevChanged = false

/-- No fake EDID is installed, and the signature of the monitor is recorded. -/
def Recorded (monitor : Monitor) (device : DeviceCommon) : Prop :=
  device.isFakeEdid = false
    ∧ device.connectedDevSignature = monitor.signature (monitor.extBlockNum + 1)

/-- With the two signatures equal, each call makes the same one. -/
theorem Steady.detectedSignature (steady : monitor.Steady) (fullDetect : Bool)
    : monitor.detectedSignature fullDetect = monitor.signature (monitor.extBlockNum + 1) := by
  rw [Monitor.detectedSignature]
  split
  · exact (monitor.signatures_eq_iff.mpr steady).symm
  · rfl

/-- A call that returns TRUE leaves the signature recorded, and one on a device where it is recorded
reports nothing.
-/
theorem Steady.detect (steady : monitor.Steady) {device : DeviceCommon} {pool : Pool}
    {detection : Detection} (quiet : detection.Quiet monitor) (real : device.isFakeEdid = false)
    : let result := cbGetDeviceEdid device detection pool
      (result.bGotEdid → monitor.Recorded result.device)
        ∧ (monitor.Recorded device → result.bDevChanged = false ∧ result.device = device) := by
  have outcome := @cbGetDeviceEdid_monitor pool device detection real (quiet.serves device)
  rw [quiet.1, steady.detectedSignature] at outcome
  rcases outcome with ⟨_, _, different, _, _, is_device⟩ | ⟨unchanged, same, signature⟩
  · refine ⟨fun _ => ?_, fun recorded => absurd recorded.2 different⟩
    rw [is_device]
    exact ⟨real, rfl⟩
  · refine ⟨fun got => ?_, fun _ => ⟨unchanged, same⟩⟩
    rw [same]
    exact ⟨real, signature got⟩

/-- Equal signatures are enough, by induction on the later calls. -/
theorem Steady.notReported (steady : monitor.Steady) : monitor.NotReported := by
  intro state real first quiet got later all_quiet last last_quiet
  have recorded : monitor.Recorded (state.call (.getDeviceEdid first)).device :=
    (steady.detect quiet real).1 got
  generalize state.call (.getDeviceEdid first) = after at recorded
  induction later generalizing after with
  | nil => exact ((steady.detect last_quiet recorded.1).2 recorded).1
  | cons next rest ih =>
      obtain ⟨next_quiet, rest_quiet⟩ := List.forall_mem_cons.mp all_quiet
      apply ih rest_quiet
      rw [DeviceState.call_device, ((steady.detect next_quiet recorded.1).2 recorded).2]
      exact recorded

/-- Where both functions succeed, they give the same signature, and an unchanged monitor is not
reported as changed, exactly if no damaged block gets in the way.
-/
theorem unchanged_iff {source : EdidSource} {signature : DeviceSignature}
    {allocated : Option Nat → Bool} {pool : Pool}
    (read : (source.cbGetDeviceSignature.run.run EdidSource.allDone).1 = some signature)
    (full : (source.cbGetFullEdid EdidSource.allDone allocated pool).1.buffer.isSome)
    : (signature = cbGetDeviceSignatureFromEdid
          (source.cbGetFullEdid EdidSource.allDone allocated pool).1.bytes
        ∧ source.monitor.NotReported)
      ↔ source.monitor.Steady := by
  have is_signature : source.monitor.signature (source.monitor.extBlockNum + 1) = signature := by
    have delivered := (EdidSource.cbGetDeviceSignature_delivers source).complete
    rw [delivered] at read
    exact Option.some.inj read
  have bytes : (source.cbGetFullEdid EdidSource.allDone allocated pool).1.bytes
      = source.monitor.fullEdid := by
    have served (i : Nat) (inside : i < source.monitor.blockCount)
        : source.Served EdidSource.allDone i :=
      EdidSource.served_allDone _ (Nat.lt_of_lt_of_le inside (EdidSource.blockCount_le source))
    rcases @EdidSource.cbGetFullEdid_bytes source EdidSource.allDone allocated pool
      (fun _ => served) with nothing | bytes
    · rw [nothing] at full
      cases full
    · exact bytes
  rw [bytes, ← is_signature, signatures_eq_iff]
  exact ⟨And.left, fun steady => ⟨steady, steady.notReported⟩⟩

/-- A source that serves a monitor and has no cache. -/
def plainSource (monitor : Monitor) : EdidSource := ⟨false, [], monitor⟩

/-- The base block of a plain monitor is undamaged. -/
theorem unchanged_iff_plain
    : (((plainSource (DeviceState.plainMonitor 1)).cbGetDeviceSignature.run.run
          EdidSource.allDone).1.isSome
        ∧ ((plainSource (DeviceState.plainMonitor 1)).cbGetFullEdid EdidSource.allDone
          (fun _ => true) ⟨[]⟩).1.buffer.isSome)
      ∧ (DeviceState.plainMonitor 1).NotReported := by
  have delivered := (EdidSource.cbGetDeviceSignature_delivers
    (plainSource (DeviceState.plainMonitor 1))).complete
  have full : ((plainSource (DeviceState.plainMonitor 1)).cbGetFullEdid EdidSource.allDone
      (fun _ => true) ⟨[]⟩).1.buffer.isSome := by decide +kernel
  have steady : (DeviceState.plainMonitor 1).Steady := by
    refine ⟨by decide +kernel, fun i _ extension inside => ?_⟩
    have single : (DeviceState.plainMonitor 1).blockCount = 1 := by rfl
    omega
  refine ⟨⟨by rw [delivered]; rfl, full⟩, ?_⟩
  exact ((unchanged_iff (congrArg Prod.fst delivered) full).mpr steady).2

/-- A base block with a header and a pixel clock, and a checksum that is wrong. -/
def damagedMonitor : Monitor := fun i => if 1 ≤ i ∧ i ≤ 6 then 0xff else if i = 0x36 then 1 else 0

/-- The repaired checksum is not the one that is read. -/
theorem damaged_base_differs
    : ¬ ∀ (source : EdidSource) (signature : DeviceSignature) (allocated : Option Nat → Bool)
        (pool : Pool),
      (source.cbGetDeviceSignature.run.run EdidSource.allDone).1 = some signature
      → (source.cbGetFullEdid EdidSource.allDone allocated pool).1.buffer.isSome
      → signature = cbGetDeviceSignatureFromEdid
          (source.cbGetFullEdid EdidSource.allDone allocated pool).1.bytes
        ∧ source.monitor.NotReported := by
  intro claim
  have delivered := (EdidSource.cbGetDeviceSignature_delivers (plainSource damagedMonitor)).complete
  have equal := (claim (plainSource damagedMonitor) _ (fun _ => true) ⟨[]⟩
    (congrArg Prod.fst delivered) (by decide +kernel)).1
  exact absurd equal (by decide +kernel)

end Monitor

end Cx4Kernel.Cbios
